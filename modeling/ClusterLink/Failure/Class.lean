import ClusterLink.Failure.Status
import ClusterLink.Node.EndPoint
import ClusterLink.Text.Blank

/-!
# What a failed call says about the cluster

A node that is not the leader turns a call away and names the leader in the metadata of the status:
`exception` is `not-leader`, and a host and a port follow under their long keys, or under the short
ones if a long one is missing or unreadable. Such a status asks for a connection to that leader. A
rejection without a usable hint, and a status with the code `unavailable`, ask for a new discovery.
Any other failure says nothing about the cluster.
-/

namespace ClusterLink

/-- The key under which a server names an exception. -/
def exceptionKey : String := "exception"

/-- The exception of a node that is not the leader. -/
def notLeaderException : String := "not-leader"

/-- The keys of the leader's host, the preferred one first. -/
def leaderHostKeys : List String := ["leader-endpoint-host", "leader-host"]

/-- The keys of the leader's port, the preferred one first. -/
def leaderPortKeys : List String := ["leader-endpoint-port", "leader-port"]

/-- **How a failed call affects connectivity.** -/
inductive FailureClass where
  /-- The node turned the call away and named the leader. -/
  | notLeader (leader : EndPoint)
  /-- The node cannot be reached, or is not the leader and named none. -/
  | unavailable
  /-- The connection is not to blame. -/
  | other
  deriving DecidableEq, Repr

/-- The leader that metadata names: a host that is not blank and a port that is not zero. -/
def leaderHint? (m : Metadata) : Option EndPoint :=
  match m.firstHeader? leaderHostKeys, m.firstHeader? leaderPortKeys with
  | some host, some port =>
    match EndPoint.readPort (Text.trim port) with
    | .ok number =>
      if (Text.trim host).isEmpty || number == 0 then none
      else some ⟨String.ofList (Text.trim host), number⟩
    | .error _ => none
  | _, _ => none

/-- Whether a header names the exception of a node that is not the leader. -/
def namesNotLeader (header : List Char) : Bool :=
  Text.foldCase (Text.trim header) == notLeaderException.toList

/-- **Classifies a failed call.** The exception weighs more than the code. -/
def Status.classify (s : Status) : FailureClass :=
  if (s.metadata.header? exceptionKey).any namesNotLeader then
    match leaderHint? s.metadata with
    | some leader => .notLeader leader
    | none => .unavailable
  else if s.code = .unavailable then .unavailable
  else .other

/-- **The rejection by which a node names the leader**, over a transport that takes some values as
header values and not others. A host that it does not take is left out. -/
def Status.rejectionOver (maySend : List UInt8 → Bool) (leader : EndPoint) : Status where
  code := .notFound
  message := "Leader info available"
  metadata :=
    let host := leader.host.toUTF8.data.toList
    (exceptionKey, notLeaderException.toUTF8.data.toList)
      :: (if maySend host then [("leader-endpoint-host", host)] else [])
      ++ [("leader-endpoint-port", (toString leader.port.toNat).toUTF8.data.toList)]

/-- The rejection over a transport that takes the values that can be read as text. -/
def Status.rejection (leader : EndPoint) : Status :=
  .rejectionOver (·.all Metadata.isReadable) leader

end ClusterLink
