import ClusterLink.Resolver.Inquiry
import ClusterLink.Scenario.Script

/-!
# Single calls to a scripted node

What comes of one gossip read, or of one question about capabilities, that has a deadline.
-/

namespace ClusterLink.Scenario

/-- **One gossip read**; `none` if the task that makes it breaks down, which it also does if the
call cannot carry its deadline. -/
def readMembers (nodes : List NodeScript) (node : EndPoint) (deadline : Duration) :
    Option (Except Error (List Member)) :=
  (Wire.carriedDeadline? deadline).bind fun carried =>
    let timed := (gossipRead nodes node).1.cutOff carried deadline
    let inquiry : Inquiry GossipReply :=
      ⟨some (timerMillis timed.delay, timed.reply), timerMillis deadline⟩
    match inquiry.finalReply? with
    | none => some (.error (.timeout deadline.millis))
    | some reply => reply.answer? deadline

/-- **One question about capabilities**; `none` if the call cannot carry its deadline. With the
answer comes the time it took, in milliseconds. The caller may give up after a given time, which
counts even if the answer comes then. -/
def negotiate (nodes : List NodeScript) (node : EndPoint) (timeout : Duration)
    (patience : Option Duration) : Option (Except Error (Capabilities × Nat)) :=
  (Wire.carriedDeadline? timeout).map fun deadline =>
    let timed := featuresCall nodes node
    let isLate := timerMillis deadline ≤ timerMillis timed.delay
    let ends := if isLate then timerMillis deadline else timerMillis timed.delay
    if patience.any (timerMillis · ≤ ends) then .error .cancelled
    else .ok (ConnectPhase.capabilitiesOf (if isLate then none else some timed.reply), ends)

end ClusterLink.Scenario
