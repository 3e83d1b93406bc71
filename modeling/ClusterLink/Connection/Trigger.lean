import ClusterLink.Connection.Handle
import ClusterLink.Node.Capabilities

/-!
# Reasons to connect, and what connecting yields

A client connects because it has to look for a node, or because it was told which node to use
(`Trigger`). Connecting yields a handle together with what the node at its other end can do
(`Link`). Once a provider takes over a link it belongs to a generation (`Connection`).
-/

namespace ClusterLink

/-- **Why a connection is made.** -/
inductive Trigger where
  /-- Discover the cluster and choose a node by preference. -/
  | rediscover
  /-- Connect to the named leader. -/
  | newLeader (leader : EndPoint)
  deriving DecidableEq, Repr, Inhabited

namespace Trigger

/-- The kind of trigger, by name. -/
def label : Trigger → String
  | .rediscover => "rediscover"
  | .newLeader _ => "new_leader"

/-- The written form. -/
def display : Trigger → String
  | .rediscover => "rediscover"
  | .newLeader leader => "new_leader(" ++ leader.display ++ ")"

/-- The trigger of a request that may name a leader. -/
def ofLeader? (leader : Option EndPoint) : Trigger := leader.elim .rediscover .newLeader

end Trigger

/-- **What connecting yields**: a handle and what the node can do. -/
structure Link where
  handle : Handle
  capabilities : Capabilities
  deriving DecidableEq, Repr, Inhabited

/-- **A connection in use.** It never changes; a reset makes a new one of a later generation. -/
structure Connection extends Link where
  trigger : Trigger
  generation : Nat
  deriving DecidableEq, Repr, Inhabited

/-- The node at the other end. -/
def Connection.endpoint (c : Connection) : EndPoint := c.handle.endpoint

end ClusterLink
