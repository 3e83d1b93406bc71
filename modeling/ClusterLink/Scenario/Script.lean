import ClusterLink.Client.Attempt
import ClusterLink.Wire.Gossip

/-!
# Scripted nodes and runs

A scenario exercises the library against nodes that follow a script. A node answers each gossip read
with the next of its replies, and repeats the last one; a node without a script is down. A node that
has no reply about its capabilities does not know that call.

The runs of a provider can be scripted too, one script per run.

Time is told by timers of whole milliseconds, none of which runs longer than thirty years.
-/

namespace ClusterLink.Scenario

/-! ## Timers -/

/-- Thirty years of 365 days, in milliseconds. -/
def longestTimer : Nat := 30 * 365 * 24 * 60 * 60 * 1000

/-- **How long a timer runs** that is set to a duration, in milliseconds. One that would run too
long ends early. -/
def timerMillis (d : Duration) : Nat := min d.millisUp longestTimer

/-! ## Nodes -/

/-- **What a node does with a gossip read.** -/
inductive GossipReply where
  /-- The members, as the client sees them. -/
  | members (members : List Member)
  /-- The member table as it is sent. -/
  | table (table : Wire.MemberTable)
  /-- The call fails at the client. -/
  | failure (error : Error)
  /-- The node turns the call away. -/
  | rejection (status : Status)
  /-- The task that makes the call breaks down. -/
  | breakdown
  deriving Inhabited

/-- A reply and how long it takes. -/
structure Timed (α : Type) where
  reply : α
  delay : Duration := Duration.zero
  deriving Inhabited

/-- **The script of a node.** -/
structure NodeScript where
  endpoint : EndPoint
  gossip : List (Timed GossipReply) := []
  features : Option (Timed (Except Status MethodTable)) := none

/-- The status of a call to a node that is down. The node is named as the caller spells it. -/
def downStatus (node : EndPoint) : Status := ⟨.unavailable, node.display ++ " is down", []⟩

/-- The status of a call that a node does not know. -/
def unknownCall : Status := ⟨.unimplemented, "", []⟩

/-- The status that reaches the caller: a node that turns a call away without a failure code has
sent no message. -/
def receivedStatus (s : Status) : Status :=
  if s.code = .ok then ⟨.internal, "Missing response message.", []⟩ else s

/-- The error of a gossip read that was turned away. A deadline missed is one of the caller's. -/
def rejectionError (deadline : Duration) (s : Status) : Error :=
  if s.code = .deadlineExceeded then .timeout deadline.millis else .ofStatus s

/-- The status of a call that outlasts the deadline that it carries. -/
def expiredStatus : Status := ⟨.cancelled, "Timeout expired", []⟩

/-- What comes of a gossip read whose call carries a deadline. If that is shorter than the time that
the caller allows, the call is cut off by it, also where the reply comes at that very moment. -/
def Timed.cutOff (timed : Timed GossipReply) (carried allowed : Duration) : Timed GossipReply :=
  if timerMillis carried < timerMillis allowed
      && timerMillis carried ≤ timerMillis timed.delay then
    ⟨.rejection expiredStatus, carried⟩
  else timed

/-- **What the caller of a gossip read gets**; `none` if its task breaks down. -/
def GossipReply.answer? (deadline : Duration) : GossipReply → Option (Except Error (List Member))
  | .members ms => some (.ok ms)
  | .table t => some (.ok t.usable)
  | .failure error => some (.error error)
  | .rejection s => some (.error (rejectionError deadline (receivedStatus s)))
  | .breakdown => none

/-- What a caller gets that reads the member table itself: the number of members sent, or the
status. -/
def GossipReply.raw : GossipReply → Except Status Nat
  | .members ms => .ok ms.length
  | .table t => .ok t.members.length
  | .rejection s => .error (receivedStatus s)
  | .failure error => .error ⟨error.code?.getD .unknown, error.detail, []⟩
  | .breakdown => .error ⟨.unknown, "", []⟩

/-! ## A network of nodes -/

/-- The script of a node. -/
def script? (nodes : List NodeScript) (node : EndPoint) : Option NodeScript :=
  nodes.find? (·.endpoint.same node)

/-- Puts a script in the place of the one that the node had. -/
def replaceScript (nodes : List NodeScript) (script : NodeScript) : List NodeScript :=
  if nodes.any (·.endpoint.same script.endpoint) then
    nodes.map fun n => if n.endpoint.same script.endpoint then script else n
  else nodes ++ [script]

/-- **A change to the script of a node.** What it does not mention stays. -/
structure ScriptChange where
  endpoint : EndPoint
  gossip : Option (List (Timed GossipReply)) := none
  features : Option (Timed (Except Status MethodTable)) := none
  forgetsFeatures : Bool := false

/-- Changes the script of a node. -/
def changeScript (nodes : List NodeScript) (c : ScriptChange) : List NodeScript :=
  let old := (script? nodes c.endpoint).getD { endpoint := c.endpoint }
  replaceScript nodes { old with
    gossip := c.gossip.getD old.gossip
    features := if c.forgetsFeatures then none else c.features.orElse fun _ => old.features }

/-- The replies left after one was used; the last one stays. -/
def NodeScript.pop (n : NodeScript) : NodeScript :=
  match n.gossip with
  | _ :: next :: rest => { n with gossip := next :: rest }
  | _ => n

/-- **A gossip read arrives at a node**: its reply, and the scripts after it. -/
def gossipRead (nodes : List NodeScript) (node : EndPoint) :
    Timed GossipReply × List NodeScript :=
  match script? nodes node with
  | none => (⟨.rejection (downStatus node), Duration.zero⟩, nodes)
  | some script =>
    match script.gossip with
    | [] => (⟨.rejection (downStatus node), Duration.zero⟩, nodes)
    | reply :: _ => (reply, replaceScript nodes script.pop)

/-- **A question about its capabilities arrives at a node.** -/
def featuresCall (nodes : List NodeScript) (node : EndPoint) : Timed (Except Status MethodTable) :=
  ((script? nodes node).bind (·.features)).getD ⟨.error unknownCall, Duration.zero⟩

/-! ## Runs -/

/-- How a scripted run ends. -/
inductive RunEnding where
  | breakdown
  | failure (error : Error)
  /-- It connects to the given node, or to the one its trigger names. -/
  | connect (node : Option EndPoint)
  deriving Inhabited

/-- **The script of a run.** -/
structure RunScript where
  delay : Duration := Duration.zero
  /-- Whether the run stops as soon as it is cancelled. -/
  honorsCancel : Bool := false
  ending : RunEnding := .connect none
  capabilities : Capabilities := {}

instance : Inhabited RunScript := ⟨{}⟩

/-- The node of a run that nothing names a node for. -/
def defaultNode : EndPoint := ⟨"auto", 1⟩

/-- The node that a run connects to. -/
def runTarget (node : Option EndPoint) (trigger : Trigger) : EndPoint :=
  match node, trigger with
  | some node, _ => node
  | none, .newLeader leader => leader
  | none, .rediscover => defaultNode

/-- What is on record about a run. -/
inductive RunRecord where
  | running
  | ok
  | failed
  | cancelled
  | brokenDown
  deriving DecidableEq, Repr, Inhabited

end ClusterLink.Scenario
