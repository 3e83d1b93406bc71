import ClusterLink.Client.Site
import ClusterLink.Connection.Trigger
import ClusterLink.Wire.Deadline

/-!
# Connecting to the cluster

What a run of the provider does for a client. A trigger that names a leader is followed as it is.
Otherwise a client of a single node goes to that node, and a client of a cluster waits for a
resolution and chooses among the members it reports. The connection to the chosen node comes from
the cache. Last, if the client wants to know, the node is asked for its capabilities; a node that
fails to answer, or answers too late, has none, and that is no error.

The attempt is cancelled when it is called off before it has begun to wait for the members or the
capabilities, or while it waits for them. It breaks down if the question about the capabilities has
a deadline that no call can carry.
-/

namespace ClusterLink

/-- Where a client looks for a node. -/
inductive DiscoveryMode where
  /-- Always the same node. -/
  | single (node : EndPoint)
  /-- The members that a resolver finds. -/
  | gossip
  deriving DecidableEq, Repr, Inhabited

/-- **How a client connects.** -/
structure ConnectSettings where
  mode : DiscoveryMode
  selector : NodeSelector
  /-- How long the node may take to tell its capabilities; `none` if it is not asked. -/
  negotiationTimeout : Option Duration := none
  deriving DecidableEq, Inhabited

/-- **How far an attempt to connect has come.** -/
inductive ConnectPhase where
  /-- Nothing has been done yet. -/
  | waiting
  /-- It asks for the members of the cluster; its call has come so far. -/
  | resolving (call : RefreshCall)
  /-- The node to connect to is known. -/
  | chosen (node : EndPoint)
  /-- The connection is there, and the node is to be asked for its capabilities. -/
  | linked (handle : Handle) (timeout : Duration)
  /-- The node was asked for its capabilities and has not answered. -/
  | negotiating (handle : Handle)
  /-- The node could not be asked, since the call cannot carry its deadline. -/
  | brokenDown
  | ended (result : Except Error Link)

/-- What an attempt to connect does next on its own. -/
inductive ConnectNext where
  | idle
  | moved
  /-- It has asked a node for its capabilities, and waits for the answer until the deadline that the
  call carries. -/
  | asked (handle : Handle) (deadline : Duration)

namespace ConnectPhase

/-- The error of a client that finds no member it may connect to. -/
def noNode (r : Resolution) : Error :=
  .unavailable ("no connectable node among " ++ toString r.members.length
    ++ " members reported by " ++ r.source.display)

/-- Goes on with the result of a resolution. `shuffle` is the order in which members of equal rank
are taken, for a selector that wants it random. -/
def ofResolution (selector : NodeSelector) (shuffle : List Member → List Member) :
    Except Error Resolution → ConnectPhase
  | .error error => .ended (.error error)
  | .ok r =>
    match selector.select r.members (shuffle r.members) with
    | none => .ended (.error (noNode r))
    | some member => .chosen member.endpoint

/-- Begins: follows a named leader, goes to the single node, or asks for the members. -/
def start (settings : ConnectSettings) : Trigger → ConnectPhase
  | .newLeader leader => .chosen leader
  | .rediscover =>
    match settings.mode with
    | .single node => .chosen node
    | .gossip => .resolving .fresh

/-- Takes the connection to the chosen node from the cache. -/
def link (settings : ConnectSettings) (node : EndPoint) (s : Site) : ConnectPhase × Site :=
  match s.cache.getOrCreate node with
  | (.error error, cache) => (.ended (.error error), { s with cache := cache })
  | (.ok handle, cache) =>
    let phase : ConnectPhase := match settings.negotiationTimeout with
      | none => .ended (.ok ⟨handle, {}⟩)
      | some timeout => .linked handle timeout
    (phase, { s with cache := cache })

/-- **One step of an attempt to connect.** -/
def step (settings : ConnectSettings) (trigger : Trigger) (isCancelled : Bool)
    (shuffle : List Member → List Member) (phase : ConnectPhase) (s : Site) :
    ConnectNext × ConnectPhase × Site :=
  match phase with
  | .waiting => (.moved, start settings trigger, s)
  | .resolving call =>
    match s.resolver with
    | none => (.moved, .ended (.error Resolver.disposedError), s)
    | some r =>
      match r.advanceCall call isCancelled with
      | none => (.idle, .resolving call, s)
      | some (.done result, r) =>
        (.moved, ofResolution settings.selector shuffle result, { s with resolver := some r })
      | some (call, r) => (.moved, .resolving call, { s with resolver := some r })
  | .chosen node => (.moved, link settings node s)
  | .linked handle timeout =>
    match Wire.carriedDeadline? timeout with
    | none => (.moved, .brokenDown, s)
    | some deadline =>
      if isCancelled then (.moved, .ended (.error .cancelled), s)
      else (.asked handle deadline, .negotiating handle, s)
  | .negotiating handle =>
    if isCancelled then (.moved, .ended (.error .cancelled), s)
    else (.idle, .negotiating handle, s)
  | .brokenDown => (.idle, .brokenDown, s)
  | .ended result => (.idle, .ended result, s)

/-- What a node is found to be able to do: what it answers, or nothing. -/
def capabilitiesOf : Option (Except Status MethodTable) → Capabilities
  | some (.ok table) => .ofMethods table
  | some (.error _) => {}
  | none => {}

/-- **Takes in the answer about the capabilities**; `none` if it did not come in time. -/
def takeIn (phase : ConnectPhase) (answer : Option (Except Status MethodTable)) : ConnectPhase :=
  match phase with
  | .negotiating handle => .ended (.ok ⟨handle, capabilitiesOf answer⟩)
  | other => other

end ConnectPhase

end ClusterLink
