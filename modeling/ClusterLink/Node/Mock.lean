import ClusterLink.Failure.Class
import ClusterLink.Node.Capabilities
import ClusterLink.Time.Duration
import ClusterLink.Wire.Gossip

/-!
# Nodes for tests

A mock node answers gossip reads and questions about its capabilities like a node of a cluster, but
says what it was told to say. It can be told to fail the next calls, as unavailable or as a node
that is not the leader, and it counts the calls it gets.
-/

namespace ClusterLink

/-- **A node that says what it was told to say.** -/
structure MockNode where
  members : List Wire.MemberRecord := []
  /-- What it tells about its methods; `none` if it does not know the question. -/
  methods : Option MethodTable := none
  /-- How many of the next calls fail as unavailable. -/
  unavailable : Nat := 0
  /-- How many of the next gossip reads it turns away as not the leader. -/
  notLeader : Nat := 0
  /-- The leader that it names then. -/
  leader : Option EndPoint := none
  delay : Duration := Duration.zero
  gossipReads : Nat := 0
  featureCalls : Nat := 0
  deriving DecidableEq, Inhabited

namespace MockNode

/-- The status of a call that the node was told to fail. -/
def injected : Status := ⟨.unavailable, "Injected error", []⟩

/-- The status of a question that the node does not know. -/
def unknownQuestion : Status := ⟨.unimplemented, "GetSupportedMethods is not supported", []⟩

/-- **A gossip read.** A rejection without a leader to name is not made. -/
def readMembers (n : MockNode) : Except Status Wire.MemberTable × MockNode :=
  let n := { n with gossipReads := n.gossipReads + 1 }
  if 0 < n.unavailable then (.error injected, { n with unavailable := n.unavailable - 1 })
  else if 0 < n.notLeader then
    let rest := { n with notLeader := n.notLeader - 1 }
    match n.leader with
    | some leader => (.error (Status.rejection leader), rest)
    | none => (.ok ⟨n.members⟩, rest)
  else (.ok ⟨n.members⟩, n)

/-- **A question about the capabilities.** -/
def readMethods (n : MockNode) : Except Status MethodTable × MockNode :=
  let n := { n with featureCalls := n.featureCalls + 1 }
  if 0 < n.unavailable then (.error injected, { n with unavailable := n.unavailable - 1 })
  else
    match n.methods with
    | some table => (.ok table, n)
    | none => (.error unknownQuestion, n)

end MockNode

end ClusterLink
