import ClusterLink.Failure.Error
import ClusterLink.Node.Selection
import ClusterLink.Time.Duration

/-!
# What discovery finds

Asking one node for the member table has an outcome (`GossipOutcome`); asking nodes until one of
them answers well yields a `Resolution`.
-/

namespace ClusterLink

/-- **What a resolution finds.** -/
structure Resolution where
  /-- The members as they were reported. -/
  members : List Member
  /-- The node that reported them. -/
  source : EndPoint
  /-- The attempts made, the successful one included. -/
  attempts : Nat
  /-- How long it took. -/
  elapsed : Duration
  deriving DecidableEq, Repr, Inhabited

/-! ## Answers -/

/-- What comes of asking one node. -/
inductive GossipOutcome where
  /-- A table with at least one member. -/
  | success (members : List Member)
  /-- No answer in time. -/
  | timeout
  /-- A table without members. -/
  | empty
  | failed (error : Error)
  deriving DecidableEq, Repr

namespace GossipOutcome

/-- The kind of outcome, by name. -/
def label : GossipOutcome → String
  | .success _ => "success"
  | .timeout => "timeout"
  | .empty => "no_viable_endpoints"
  | .failed _ => "failed"

/-- **Classifies an answer.** A node that reports a missed deadline counts as one that did not
answer in time. -/
def ofAnswer : Except Error (List Member) → GossipOutcome
  | .ok [] => .empty
  | .ok members => .success members
  | .error (.timeout _) => .timeout
  | .error (.rpc .deadlineExceeded _) => .timeout
  | .error error => .failed error

/-- What a summary of failures says about a node. -/
def complaint? : GossipOutcome → Option String
  | .success _ => none
  | .timeout => some "timed out"
  | .empty => some "empty member table"
  | .failed error => some error.message

end GossipOutcome

end ClusterLink
