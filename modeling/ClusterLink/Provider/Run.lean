import ClusterLink.Connection.Trigger
import ClusterLink.Time.Duration

/-!
# Runs and slots

A run is one attempt of a provider to connect. It works on its own until it ends in a link, an
error, or a breakdown. A provider keeps the state of what it has for its callers in a slot.
-/

namespace ClusterLink

/-- How far a run has come. -/
inductive RunPhase where
  | working
  /-- The task of the run broke down. What its waiters get is settled by the first of them. -/
  | brokenDown
  /-- The first waiter broke down too when it settled that. So does every other. -/
  | poisoned
  /-- The run is over; its waiters get the outcome, or ask again if there is none. -/
  | ended (outcome : Option (Except Error Connection))

/-- **One attempt to connect.** -/
structure Run where
  generation : Nat
  trigger : Trigger
  started : Instant
  /-- Whether the run itself was called off. -/
  isCalledOff : Bool := false
  phase : RunPhase := .working

/-- What a provider has for its callers. -/
inductive Slot where
  | empty
  /-- The run with this number is under way. -/
  | pending (run : Nat)
  | ready (connection : Connection)
  /-- The last run failed; nothing is tried again before the given instant. -/
  | failed (error : Error) (retryAt : Instant)

/-- The state of a slot, in one word. -/
def Slot.name : Slot → String
  | .empty => "empty"
  | .pending _ => "pending"
  | .ready _ => "ready"
  | .failed _ _ => "failed"

end ClusterLink
