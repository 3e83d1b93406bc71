import ClusterLink.Failure.Error
import ClusterLink.Node.State
import ClusterLink.Text.Blank

/-!
# Node preference

A client prefers members of one role over others. A preference lists the roles it ranks, best
first; every role it does not list shares the last place. `random` lists none, so all members are
alike to it.
-/

namespace ClusterLink

/-- **Which members a client would rather use.** -/
inductive NodePreference where
  | leader
  | follower
  | readOnlyReplica
  | random
  deriving DecidableEq, Repr, Inhabited

namespace NodePreference

/-- The preference of a client that states none. -/
def standard : NodePreference := .leader

/-- The written form of a preference. -/
def display : NodePreference → String
  | .leader => "leader"
  | .follower => "follower"
  | .readOnlyReplica => "readonlyreplica"
  | .random => "random"

/-- The name of a preference as one word. -/
def name : NodePreference → String
  | .leader => "Leader"
  | .follower => "Follower"
  | .readOnlyReplica => "ReadOnlyReplica"
  | .random => "Random"

/-- **Reads a preference**, without regard to case and surrounding blanks. The read-only
preference has two spellings. -/
def parse (s : String) : Except Error NodePreference :=
  let word := String.ofList (Text.foldCase (Text.trim s.toList))
  if word = "leader" then .ok .leader
  else if word = "follower" then .ok .follower
  else if word = "readonlyreplica" ∨ word = "read_only_replica" then .ok .readOnlyReplica
  else if word = "random" then .ok .random
  else .error (.config ("unknown node preference '" ++ word ++ "'"))

/-- The roles a preference ranks, best first. -/
def ranking : NodePreference → List NodeState
  | .leader => [.leader, .follower, .readOnlyReplica, .preReadOnlyReplica, .readOnlyLeaderless]
  | .follower => [.follower, .leader, .readOnlyReplica, .preReadOnlyReplica, .readOnlyLeaderless]
  | .readOnlyReplica =>
    [.readOnlyReplica, .preReadOnlyReplica, .readOnlyLeaderless, .leader, .follower]
  | .random => []

/-- The place shared by the roles a preference does not list. -/
def lastPlace : Nat := 255

/-- **The place of a role under a preference**: lower is better. -/
def rank (p : NodePreference) (s : NodeState) : Nat :=
  ((p.ranking).idxOf? s).getD lastPlace

end NodePreference

end ClusterLink
