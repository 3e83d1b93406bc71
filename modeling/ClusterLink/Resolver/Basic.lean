import ClusterLink.Connection.Cache
import ClusterLink.Resolver.Outcome
import ClusterLink.Resolver.Settings

/-!
# The gossip resolver

The resolver finds out who belongs to the cluster. A *resolution* asks the cached nodes for the
member table, one after the other, until one answers with a table that is not empty; then the cache
is made to hold exactly the members, and the resolution ends. When every node of an attempt has
failed, the cache is made to hold exactly the seeds, and another attempt follows after a delay, up
to a number of attempts.

Callers share one resolution: who comes while one is in flight waits for it too. When the last of
them has left, the resolution is cancelled. A cancelled resolution ends in `Error.cancelled` as soon
as it notices, which is before each question, while it waits for an answer, and between attempts. It
publishes nothing.

Each step of a resolution is a function on the resolver and the cache, and any steps of other users
of the cache may come in between. What the steps take from outside are the order in which the nodes
of an attempt are asked, the answers, the time, and the draw that places a delay.
-/

namespace ClusterLink

/-! ## Resolutions under way -/

/-- A cached node about to be asked. -/
abbrev Contact := EndPoint × Handle

/-- **How far a resolution has come.** -/
inductive ResolutionPhase where
  /-- Nothing has been done yet. -/
  | waiting
  /-- The next of the contacts left is to be asked. -/
  | ready (attempt : Nat) (left : List Contact) (failures : List String)
  /-- A node was asked and has not answered. -/
  | asking (attempt : Nat) (asked : Contact) (left : List Contact) (failures : List String)
  /-- An attempt has failed, and the delay before the next one runs. -/
  | pausing (attempt : Nat) (delay : Duration)
  /-- The task broke down. -/
  | brokenDown
  | ended (result : Except Error Resolution)

/-- **One resolution.** -/
structure ResolutionTask where
  started : Instant := 0
  backoff : Backoff
  /-- Whether its last waiter has left. -/
  isCalledOff : Bool := false
  phase : ResolutionPhase := .waiting

/-- The resolution that new callers join. -/
structure InFlight where
  id : Nat
  waiters : Nat
  deriving DecidableEq, Repr

/-- **How far a call for a refresh has come.** From joining a resolution until it leaves it, a call
counts among the waiters of that resolution. -/
inductive RefreshCall where
  /-- Nothing has been done yet. -/
  | fresh
  /-- It was not cancelled, and is about to see whether the resolver was shut down. -/
  | admitted
  /-- It is about to join. -/
  | joining
  | waiting (id : Nat)
  /-- It has its result, and is about to leave. -/
  | leaving (id : Nat) (result : Except Error Resolution)
  | done (result : Except Error Resolution)
  /-- It was given up. -/
  | gone
  deriving Inhabited

/-- The resolution among whose waiters a call counts. -/
def RefreshCall.guard? : RefreshCall → Option Nat
  | .waiting id | .leaving id _ => some id
  | _ => none

/-- **How far the refresh in the background has come.** -/
inductive RefreshPhase where
  /-- There is none. -/
  | off
  /-- Its first step is still to be taken. -/
  | starting
  /-- It waits for its next tick, which is due at the given instant. -/
  | ticking (due : Instant)
  /-- Its call has come so far. The tick after that is due at the given instant. -/
  | refreshing (call : RefreshCall) (due : Instant)
  deriving Inhabited

/-- Whether there is no refresh in the background. -/
def RefreshPhase.isOff : RefreshPhase → Bool
  | .off => true
  | _ => false

/-- Whether the refresh in the background has still to take its first step. -/
def RefreshPhase.isStarting : RefreshPhase → Bool
  | .starting => true
  | _ => false

/-- The call that the refresh in the background has made. -/
def RefreshPhase.call? : RefreshPhase → Option RefreshCall
  | .refreshing call _ => some call
  | _ => none

/-- **Discovery of the members of a cluster.** -/
structure Resolver where
  seeds : List EndPoint
  settings : ResolverSettings
  inFlight : Option InFlight := none
  /-- All resolutions; the number of a resolution is its place. -/
  tasks : List ResolutionTask := []
  /-- The result of the last resolution that was not cancelled. -/
  lastResult : Option (Except Error Resolution) := none
  refresh : RefreshPhase := .off
  isShutDown : Bool := false
  /-- What was reported, in order. -/
  log : List Metric := []

namespace Resolver

/-- The reason for refusing work after the resolver was shut down. -/
def disposedError : Error := .disposed .gossipResolver

/-- **Makes a resolver** and puts the seeds into the cache. -/
def new (seeds : List EndPoint) (settings : ResolverSettings) (cache : Cache) :
    Except Error Resolver × Cache :=
  if seeds.isEmpty then (.error (.config "at least one gossip seed is required"), cache)
  else
    match settings.validate with
    | .error error => (.error error, cache)
    | .ok () =>
      match cache.reconcile seeds with
      | (.error error, cache) => (.error error, cache)
      | (.ok (), cache) => (.ok { seeds := seeds, settings := settings }, cache)

def isResolving (r : Resolver) : Bool := r.inFlight.isSome

/-- How far a resolution has come. -/
def phase? (r : Resolver) (id : Nat) : Option ResolutionPhase := (r.tasks[id]?).map (·.phase)

/-- Whether a resolution has been told to stop. -/
def isCancelled (r : Resolver) (id : Nat) : Bool :=
  r.isShutDown || r.tasks[id]?.any (·.isCalledOff)

/-! ## Waiters -/

/-- **A caller joins** the resolution in flight, or starts one. The answer is its number. -/
def join (r : Resolver) : Nat × Resolver :=
  match r.inFlight with
  | some f => (f.id, { r with inFlight := some { f with waiters := f.waiters + 1 } })
  | none =>
    (r.tasks.length, { r with
      inFlight := some ⟨r.tasks.length, 1⟩
      tasks := r.tasks ++ [{ backoff := .start r.settings.backoff }] })

/-- **A waiter leaves.** The last one to leave the resolution in flight calls it off. -/
def leave (r : Resolver) (id : Nat) : Resolver :=
  match r.inFlight with
  | none => r
  | some f =>
    if f.id ≠ id then r
    else if 1 < f.waiters then { r with inFlight := some { f with waiters := f.waiters - 1 } }
    else
      { r with
        inFlight := none
        tasks := r.tasks.modify id fun t => { t with isCalledOff := true } }

/-- The error of a resolution whose task broke down. -/
def breakdownError : Error := .connection "gossip resolution task failed"

/-- What the waiters of a resolution get, once it is over. -/
def result? (r : Resolver) (id : Nat) : Option (Except Error Resolution) :=
  match r.phase? id with
  | some (.ended result) => some result
  | some .brokenDown => some (.error breakdownError)
  | _ => none

/-- A call that is given up leaves the resolution that it waits for. -/
def quit (r : Resolver) (call : RefreshCall) : Resolver :=
  match call.guard? with
  | none => r
  | some id => r.leave id

/-- Stops the refresh in the background, and gives its call up. -/
def stopRefresh (r : Resolver) : Resolver :=
  match r.refresh with
  | .refreshing call _ => { r.quit call with refresh := .off }
  | _ => { r with refresh := .off }

/-- **Shuts the resolver down**: every resolution is cancelled, the refresh in the background stops,
and later callers are turned away. -/
def shutdown (r : Resolver) : Resolver := { r with isShutDown := true }.stopRefresh

end Resolver

end ClusterLink
