import ClusterLink.Provider.Completion

/-!
# Callers of a provider

A caller asks for the connection, and goes on until it has it or an error. It asks; if it has to
wait for a run, it comes back to that run; if the run was replaced by one of a later generation, it
asks again. A caller that wants another connection replaces the present one before it asks.

Each of these is one step of the caller (`Provider.advanceCall`). Anything may happen to the
provider between two steps.
-/

namespace ClusterLink

/-- **How far a caller has come.** -/
inductive CallPhase where
  /-- It is about to replace the connection, and asks after that. -/
  | forcing (trigger : Trigger)
  /-- It is about to ask. -/
  | asking
  /-- It waits for the run with this number. -/
  | waiting (run : Nat)
  | done (result : Except Error Connection)
  /-- It broke down together with its run. -/
  | brokenDown
  /-- It gave up. -/
  | gone

namespace Provider

/-- What a caller does that asked. -/
def Demand.phase : Demand → CallPhase
  | .answer result => .done result
  | .wait run => .waiting run

/-- What a caller does that came back to its run. -/
def Finding.phase (run : Nat) : Finding → CallPhase
  | .working => .waiting run
  | .replaced => .asking
  | .outcome result => .done result
  | .breakdown => .brokenDown

/-- **One step of a caller.** A caller whose run still works goes on waiting for it. -/
def advanceCall (p : Provider) (phase : CallPhase) (now : Instant) (draw : Float) :
    CallPhase × Provider :=
  match phase with
  | .forcing trigger => (.asking, p.reset now true trigger)
  | .asking => ((p.current now).1.phase, (p.current now).2)
  | .waiting run => ((p.poll run now draw).1.phase run, (p.poll run now draw).2)
  | other => (other, p)

end Provider

end ClusterLink
