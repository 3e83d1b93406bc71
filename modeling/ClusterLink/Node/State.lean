/-!
# Roles of cluster members

Gossip reports each member's role as a number. The sixteen roles are numbered from 0 in the order of
`NodeState.all`; a number that no role has, which a newer server may send, is read as `unknown`.

Clients connect only to members whose role serves them: leader, follower, and the two settled
read-only roles. The other twelve, `notAllowed`, are transitional, ending, or internal.
-/

namespace ClusterLink

/-- **The replication role of a member.** -/
inductive NodeState where
  | initializing
  | discoverLeader
  | unknown
  | preReplica
  | catchingUp
  | clone
  | follower
  | preLeader
  | leader
  | manager
  | shuttingDown
  | shutdown
  | readOnlyLeaderless
  | preReadOnlyReplica
  | readOnlyReplica
  | resigningLeader
  deriving DecidableEq, Repr, Inhabited

namespace NodeState

/-- All roles, in the order of their numbers. -/
def all : List NodeState :=
  [.initializing, .discoverLeader, .unknown, .preReplica, .catchingUp, .clone, .follower,
    .preLeader, .leader, .manager, .shuttingDown, .shutdown, .readOnlyLeaderless,
    .preReadOnlyReplica, .readOnlyReplica, .resigningLeader]

/-- **The roles no client connects to**, whatever it prefers. -/
def notAllowed : List NodeState :=
  [.manager, .shuttingDown, .shutdown, .unknown, .initializing, .catchingUp, .resigningLeader,
    .preLeader, .preReplica, .preReadOnlyReplica, .clone, .discoverLeader]

/-- Whether a client may connect to a member in this role. -/
def isConnectable (s : NodeState) : Bool := !notAllowed.contains s

/-- The number of a role. -/
def number : NodeState → Nat
  | .initializing => 0
  | .discoverLeader => 1
  | .unknown => 2
  | .preReplica => 3
  | .catchingUp => 4
  | .clone => 5
  | .follower => 6
  | .preLeader => 7
  | .leader => 8
  | .manager => 9
  | .shuttingDown => 10
  | .shutdown => 11
  | .readOnlyLeaderless => 12
  | .preReadOnlyReplica => 13
  | .readOnlyReplica => 14
  | .resigningLeader => 15

/-- The role with the given number, if there is one. -/
def ofNumber? (n : Int) : Option NodeState :=
  if 0 ≤ n then all[n.toNat]? else none

/-- **The role with the given number**; `unknown` for a number that no role has. -/
def ofNumber (n : Int) : NodeState := (ofNumber? n).getD .unknown

/-- The name of a role in the gossip schema. -/
def schemaName : NodeState → String
  | .initializing => "INITIALIZING"
  | .discoverLeader => "DISCOVER_LEADER"
  | .unknown => "UNKNOWN"
  | .preReplica => "PRE_REPLICA"
  | .catchingUp => "CATCHING_UP"
  | .clone => "CLONE"
  | .follower => "FOLLOWER"
  | .preLeader => "PRE_LEADER"
  | .leader => "LEADER"
  | .manager => "MANAGER"
  | .shuttingDown => "SHUTTING_DOWN"
  | .shutdown => "SHUTDOWN"
  | .readOnlyLeaderless => "READ_ONLY_LEADERLESS"
  | .preReadOnlyReplica => "PRE_READ_ONLY_REPLICA"
  | .readOnlyReplica => "READ_ONLY_REPLICA"
  | .resigningLeader => "RESIGNING_LEADER"

/-- The name of a role as one word. -/
def name : NodeState → String
  | .initializing => "Initializing"
  | .discoverLeader => "DiscoverLeader"
  | .unknown => "Unknown"
  | .preReplica => "PreReplica"
  | .catchingUp => "CatchingUp"
  | .clone => "Clone"
  | .follower => "Follower"
  | .preLeader => "PreLeader"
  | .leader => "Leader"
  | .manager => "Manager"
  | .shuttingDown => "ShuttingDown"
  | .shutdown => "Shutdown"
  | .readOnlyLeaderless => "ReadOnlyLeaderless"
  | .preReadOnlyReplica => "PreReadOnlyReplica"
  | .readOnlyReplica => "ReadOnlyReplica"
  | .resigningLeader => "ResigningLeader"

/-- The role with the given schema name. -/
def ofSchemaName? (name : String) : Option NodeState :=
  all.find? (·.schemaName == name)

@[simp] theorem ofNumber?_number (s : NodeState) : ofNumber? s.number = some s := by
  cases s <;> rfl

theorem isConnectable_iff (s : NodeState) :
    s.isConnectable = true ↔
      s = .follower ∨ s = .leader ∨ s = .readOnlyLeaderless ∨ s = .readOnlyReplica := by
  cases s <;> decide

end NodeState

end ClusterLink
