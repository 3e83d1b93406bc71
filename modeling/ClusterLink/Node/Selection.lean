import ClusterLink.Node.EndPoint
import ClusterLink.Node.Preference

/-!
# Choosing a node

A gossip snapshot lists the members of the cluster. `selectNodes` keeps those a client may connect
to, the alive ones in a connectable role, and sorts them by preference. The sort is stable: members
of equal rank stay in the order in which gossip reported them.

A selector that randomizes ties sorts a shuffled snapshot instead, so that clients of one
preference spread over the members of equal rank. The shuffled snapshot is an argument here.
-/

namespace ClusterLink

/-- **One member of the cluster**, as gossip reports it. -/
structure Member where
  id : String
  endpoint : EndPoint
  state : NodeState
  isAlive : Bool
  deriving DecidableEq, Repr, Inhabited

namespace Member

/-- Whether a client may connect to the member. -/
def isEligible (m : Member) : Bool := m.isAlive && m.state.isConnectable

end Member

/-- **The members a client may connect to, best first.** -/
def selectNodes (members : List Member) (p : NodePreference) : List Member :=
  (members.filter Member.isEligible).mergeSort fun m n => p.rank m.state ≤ p.rank n.state

/-- The most preferred member a client may connect to. -/
def selectNode (members : List Member) (p : NodePreference) : Option Member :=
  (selectNodes members p).head?

/-- Runs of neighbours of equal rank. -/
def tieGroups (p : NodePreference) (members : List Member) : List (List Member) :=
  members.splitBy fun m n => p.rank m.state == p.rank n.state

/-- A preference together with what to do about ties. -/
structure NodeSelector where
  preference : NodePreference
  randomizeTies : Bool := false
  deriving DecidableEq, Repr, Inhabited

namespace NodeSelector

/-- The members to try, best first. `shuffled` is the snapshot in the order the shuffle gave it; a
selector that keeps ties in reported order does not look at it. -/
def candidates (s : NodeSelector) (members shuffled : List Member) : List Member :=
  selectNodes (if s.randomizeTies then shuffled else members) s.preference

/-- The member to connect to. -/
def select (s : NodeSelector) (members shuffled : List Member) : Option Member :=
  (s.candidates members shuffled).head?

end NodeSelector

end ClusterLink
