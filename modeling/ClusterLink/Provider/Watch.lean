import ClusterLink.Failure.Class
import ClusterLink.Provider.Basic

/-!
# Watching calls

The provider is told of the calls that fail on a connection that it has handed out. If the status of
such a call says that the cluster has changed, and the connection is still of the current
generation, the connection is reset. The caller gets the status all the same.

A call may answer with a stream of items, any of which may be a failure. A watched stream passes on
everything its source gives, as it is. The first failure is also shown to the provider, since it may
say that the cluster has changed; later failures of the same stream are not, so that one broken
stream causes one reconnection at most.
-/

namespace ClusterLink

/-! ## Failed calls -/

namespace Provider

/-- The trigger that a failed call asks for. -/
def triggerOf : FailureClass → Option Trigger
  | .notLeader leader => some (.newLeader leader)
  | .unavailable => some .rediscover
  | .other => none

/-- **A call on a connection of the given generation has failed.** If its status asks for a
reconnection, and the generation is not over, the connection is reset. -/
def observe (p : Provider) (generation : Nat) (status : Status) (now : Instant)
    (inRuntime : Bool) : Provider :=
  match triggerOf status.classify with
  | none => p
  | some trigger =>
    if p.isAbandoned then p else p.resetFrom generation now inRuntime trigger

/-- **A call on a connection of the given generation is answered.** A failure is shown to the
provider, and the caller gets the answer as it is. -/
def call {α : Type} (p : Provider) (generation : Nat) (answer : Except Status α) (now : Instant)
    (inRuntime : Bool) : Except Status α × Provider :=
  match answer with
  | .ok _ => (answer, p)
  | .error status => (answer, p.observe generation status now inRuntime)

end Provider

/-! ## Streams -/

/-- What a stream gives when it is asked. -/
inductive StreamPoll (α : Type) where
  /-- Nothing yet. -/
  | pending
  | item (value : α)
  | failure (status : Status)
  /-- The stream is over. -/
  | finished
  deriving DecidableEq, Repr

/-- **The watch over one stream.** -/
structure StreamWatch where
  /-- The generation of the connection that the stream came from. -/
  generation : Nat
  /-- Whether a failure has been seen. -/
  hasSeenFailure : Bool := false
  deriving DecidableEq, Repr, Inhabited

namespace StreamWatch

/-- **The watch sees what the source gave**; the first failure is shown to the provider. -/
def see {α : Type} (w : StreamWatch) (p : Provider) (polled : StreamPoll α) (now : Instant)
    (inRuntime : Bool) : StreamWatch × Provider :=
  match polled with
  | .failure status =>
    if w.hasSeenFailure then (w, p)
    else ({ w with hasSeenFailure := true }, p.observe w.generation status now inRuntime)
  | _ => (w, p)

/-- Asks the watched stream: what the source gave, and the watch and the provider after it. -/
def poll {α : Type} (w : StreamWatch) (p : Provider) (polled : StreamPoll α) (now : Instant)
    (inRuntime : Bool) : StreamPoll α × StreamWatch × Provider :=
  (polled, w.see p polled now inRuntime)

end StreamWatch

/-- **A call that answers with a stream is answered.** The caller gets the stream under a watch of
its own. -/
def Provider.openStream {α : Type} (p : Provider) (generation : Nat) (answer : Except Status α)
    (now : Instant) (inRuntime : Bool) : Except Status (α × StreamWatch) × Provider :=
  let (answer, p) := p.call generation answer now inRuntime
  (answer.map fun stream => (stream, { generation := generation }), p)

end ClusterLink
