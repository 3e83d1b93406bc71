import ClusterLink.Node.Mock
import ClusterLink.Scenario.Session

/-!
# Sessions with mock nodes

A session with mock nodes runs where no connection to them can be made: what they are told changes
them, but no call arrives. A session that calls a node directly breaks down. A client finds every
node unavailable, and takes a node to have no capabilities.
-/

namespace ClusterLink.Scenario

/-- One step of a session with mock nodes. -/
inductive MockStep where
  /-- Tells a node something. -/
  | tell (node : Nat) (change : MockNode → MockNode)
  /-- Calls a node. -/
  | call
  /-- Connects a client. -/
  | client (options : ClientOptions)

/-- What a step with mock nodes gives. -/
inductive MockOutcome where
  | done
  | error (e : Error)
  /-- What a client got, and the endpoints that it has cached. -/
  | client (result : Except Error Connection) (cached : List String)

/-- What is reported after a step: its outcome, and the calls that each node got. -/
structure MockReport where
  outcome : MockOutcome
  counts : List (Nat × Nat)

/-- The status of a call that cannot be made. -/
def unreachable : Status := ⟨.unavailable, "tcp connect error", []⟩

/-- A node that no call reaches. -/
def unreachableNode (e : EndPoint) : NodeScript where
  endpoint := e
  gossip := [⟨.rejection unreachable, Duration.zero⟩]
  features := some ⟨.error unreachable, Duration.zero⟩

/-- The endpoints of a topology. -/
def topologyNodes : Topology → List EndPoint
  | .cluster seeds => seeds
  | .single node => [node]

/-- **Connects a client** to nodes that no call reaches. -/
def connectUnreachable (options : ClientOptions) : MockOutcome :=
  match options.build with
  | .error error => .error error
  | .ok config =>
    match Client.new config (.lazy config.tls) with
    | .error error => .error error
    | .ok client =>
      let world : World :=
        { client := client, hasClient := true, isRemote := true
          nodes := (topologyNodes config.topology).map unreachableNode }
      let (index, world) := world.addWaiter { request := .info }
      let world := world.await index
      let cached := Session.sortTexts (world.site.cache.endpoints.map (·.display))
      match world.waiters[index]?.bind Waiter.answer? with
      | some (.connection c) => .client (.ok c) cached
      | some (.error error) => .client (.error error) cached
      | _ => .client (.error .cancelled) cached

/-- **Runs a session with mock nodes**; `none` if it breaks down. -/
def runMock (nodes : List MockNode) : List MockStep → Option (List MockReport)
  | [] => some []
  | step :: steps => do
    let (outcome, nodes) ← match step with
      | .tell k change => some (MockOutcome.done, nodes.modify k change)
      | .call => none
      | .client options => some (connectUnreachable options, nodes)
    let rest ← runMock nodes steps
    return ⟨outcome, nodes.map fun n => (n.gossipReads, n.featureCalls)⟩ :: rest

end ClusterLink.Scenario
