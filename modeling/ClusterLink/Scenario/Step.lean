import ClusterLink.Scenario.World

/-!
# Steps and reports of a session

A session takes one step after another in a scripted world (`Step`). Each step gives something to
show (`Outcome`), and is followed by a report on the parts (`Report`).
-/

namespace ClusterLink.Scenario

/-- Which parts a session exercises. -/
inductive SessionKind where
  | cache
  | resolver
  | factory
  | provider
  | client
  deriving DecidableEq, Repr

/-- What can be described. -/
inductive Subject where
  | cache
  | provider
  | resolver
  | client
  | handle (number : Nat)
  | watch (info : Nat)

/-- **One step of a session.** -/
inductive Step where
  | setNode (change : ScriptChange)
  | advance (d : Duration)
  /-- A request; with a name it goes on in the background. -/
  | request (r : Request) (token : Option Bool) (task : Option String)
  | join (task : String)
  | cancel (task : String)
  | abort (task : String)
  | get (e : EndPoint)
  | reconcile (es : List EndPoint)
  | evict (e : EndPoint)
  | disposeCache
  | contains (e : EndPoint)
  | size
  | snapshot
  | markClosed (handle : Nat)
  | created
  | lastResult
  | seeds
  | settings
  | startRefresh
  | shutdownResolver
  | mode
  | reset (leader : Option EndPoint) (inRuntime : Bool)
  | disposeProvider
  | dropProvider
  | dropClient
  | observe (info : Nat) (status : Status)
  /-- A call on a connection, with the status in which it fails. -/
  | call (info : Nat) (failure : Option Status)
  /-- A gossip read on a connection. -/
  | gossipVia (info : Nat)
  /-- A call that opens a stream, and the status in which the opening fails. -/
  | openStream (info : Nat) (failure : Status)
  /-- A stream whose items are successes or failures, of which so many are taken. -/
  | stream (info : Nat) (items : List (Option Status)) (take : Nat) (describe : Bool)
  | triggerReconnect (leader : Option EndPoint)
  | shutdown
  | config
  | describe (subject : Subject)

/-- What one item of a stream showed. -/
structure StreamRow where
  /-- The items left before it was taken. -/
  left : Nat
  /-- Its failure, if it is one. -/
  failure : Option Status
  hasSeenFailure : Bool
  /-- The generation of the provider, if there still is one. -/
  generation : Option Nat

/-- **What a step gives.** -/
inductive Outcome where
  | init
  | done
  | started
  | noTask
  | nothing
  | unsupported
  | flag (b : Bool)
  | error (e : Error)
  | handle (number : Nat) (h : Handle)
  | connection (number handle : Nat) (c : Connection)
  | link (handle : Nat) (l : Link)
  | resolution (r : Resolution)
  | size (n : Nat)
  | snapshot (rows : List (EndPoint × EndPoint × Nat))
  | flags (bs : List Bool)
  | endpoints (es : List EndPoint)
  | settings (s : ResolverSettings)
  | mode (m : Sum EndPoint Nat)
  | observed (c : FailureClass) (generation : Nat)
  | passed
  | status (s : Status)
  | members (n : Nat)
  | stream (rows : List StreamRow) (hasSeenFailure : Bool) (left : Nat) (text : Option String)
  | config (c : ClientConfig)
  | text (s : String)

/-- What is shown of a run. -/
structure RunView where
  trigger : Trigger
  record : RunRecord
  isCancelled : Bool

/-- **What is reported after a step.** Parts that a session does not have are left out. -/
structure Report where
  outcome : Outcome
  /-- The virtual time, in milliseconds. -/
  time : Nat
  events : List String
  /-- The tasks in the background that were not joined, and whether they are over. -/
  tasks : List (String × Bool)
  closed : List Bool
  /-- The cached endpoints; `none` inside if the cache is disposed of. -/
  cache : Option (Option (List String))
  /-- Whether a resolution is in flight, and the last result. -/
  resolver : Option (Bool × Option (Except Error Resolution))
  provider : Option Provider
  runs : Option (List RunView)
  shutdown : Option Bool
  featureCalls : Nat

end ClusterLink.Scenario
