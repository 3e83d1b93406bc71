import ClusterLink.Connection.Handle
import ClusterLink.Metric

/-!
# The connection cache

The cache keeps one connection per endpoint, so that discovery and callers share them. A connection
is made when it is first asked for (`getOrCreate`), or when the set of cached endpoints is replaced
(`reconcile`): endpoints that stay keep their connection, new ones get one, and the connections of
the others are released. If one of the new connections cannot be made nothing is replaced.

Releasing a connection closes it. A closed connection still works for whoever holds it; the cache
does not hand it out again. A cache that is disposed of releases everything and refuses further
work.

The order in which a set of endpoints is gone through does not belong to the cache: `reconcileIn`
takes it as an argument, and `snapshot` gives the entries in the order in which they were made.
-/

namespace ClusterLink

/-- **Connections by endpoint.** -/
structure Cache where
  channels : Channels := {}
  /-- The cached connections. No two keys name one node. -/
  entries : List (EndPoint × Handle) := []
  isDisposed : Bool := false
  /-- The connections handed over to be closed, in order. -/
  released : List Handle := []
  /-- What was reported, in order. -/
  log : List Metric := []

instance : Inhabited Cache := ⟨{}⟩

namespace Cache

/-- The reason for refusing work after disposal. -/
def disposedError : Error := .disposed .connectionCache

/-! ## Looking up -/

/-- The cached connection of an endpoint. -/
def find? (c : Cache) (e : EndPoint) : Option Handle :=
  (c.entries.find? fun entry => entry.1.same e).map (·.2)

/-- Whether an endpoint has a cached connection. -/
def contains (c : Cache) (e : EndPoint) : Bool := (c.find? e).isSome

def size (c : Cache) : Nat := c.entries.length

/-- The cached endpoints, as they were spelled when their connection was made. -/
def endpoints (c : Cache) : List EndPoint := c.entries.map (·.1)

/-- Every cached connection with its endpoint. -/
def snapshot (c : Cache) : Except Error (List (EndPoint × Handle)) :=
  if c.isDisposed then .error disposedError else .ok c.entries

/-! ## Reports -/

/-- The report that a connection was made for an endpoint. -/
def createdReport (e : EndPoint) : Metric := .connection e.display .created

/-- The report that a connection was given up. -/
def evictedReport (h : Handle) : Metric := .connection h.endpoint.display .evicted

/-- Hands connections over to be closed. -/
def release (c : Cache) (hs : List Handle) : Cache :=
  { c with released := c.released ++ hs, log := c.log ++ hs.map evictedReport }

/-! ## Changing the entries -/

/-- **The connection of an endpoint**, made if there is none yet. -/
def getOrCreate (c : Cache) (e : EndPoint) : Except Error Handle × Cache :=
  if c.isDisposed then (.error disposedError, c)
  else
    match c.find? e with
    | some handle => (.ok handle, c)
    | none =>
      match c.channels.create e with
      | (.error error, channels) => (.error error, { c with channels := channels })
      | (.ok handle, channels) =>
        (.ok handle, { c with
          channels := channels
          entries := c.entries ++ [(e, handle)]
          log := c.log ++ [createdReport e] })

/-- Makes a connection for each endpoint in turn, up to the first that is refused. -/
def createAll (channels : Channels) :
    List EndPoint → Except Error (List (EndPoint × Handle)) × Channels
  | [] => (.ok [], channels)
  | e :: es =>
    match channels.create e with
    | (.error error, channels) => (.error error, channels)
    | (.ok handle, channels) =>
      match createAll channels es with
      | (.error error, channels) => (.error error, channels)
      | (.ok rest, channels) => (.ok ((e, handle) :: rest), channels)

/-- Replaces the set of cached endpoints by `wanted`, which names each node once. The missing
connections are made in the order of `wanted`. -/
def reconcileIn (c : Cache) (wanted : List EndPoint) : Except Error Unit × Cache :=
  if c.isDisposed then (.error disposedError, c)
  else
    match createAll c.channels (wanted.filter (!c.contains ·)) with
    | (.error error, channels) => (.error error, { c with channels := channels })
    | (.ok created, channels) =>
      let kept := c.entries.filter fun entry => wanted.any (·.same entry.1)
      let stale := c.entries.filter fun entry => !wanted.any (·.same entry.1)
      (.ok (), release { c with
        channels := channels
        entries := kept ++ created
        log := c.log ++ created.map (createdReport ·.1) } (stale.map (·.2)))

/-- **Replaces the set of cached endpoints.** An endpoint given twice counts once. -/
def reconcile (c : Cache) (wanted : List EndPoint) : Except Error Unit × Cache :=
  c.reconcileIn (EndPoint.distinct wanted)

/-- **Drops an endpoint** and releases its connection. The answer is whether it was cached. -/
def evict (c : Cache) (e : EndPoint) : Bool × Cache :=
  match c.find? e with
  | none => (false, c)
  | some handle =>
    (true, release { c with entries := c.entries.filter fun entry => !entry.1.same e } [handle])

/-- **Releases every connection for good.** -/
def dispose (c : Cache) : Cache :=
  if c.isDisposed then c
  else release { c with isDisposed := true, entries := [] } (c.entries.map (·.2))

/-- Asks for a connection that is not cached. -/
def dial (c : Cache) (e : EndPoint) : Except Error Handle × Cache :=
  match c.channels.create e with
  | (answer, channels) => (answer, { c with channels := channels })

/-- Whether a connection was handed over to be closed. -/
def isClosed (c : Cache) (h : Handle) : Bool := c.released.contains h

end Cache

end ClusterLink
