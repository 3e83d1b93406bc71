import ClusterLink.Proofs.Provider.Coherence

/-!
# Histories of a provider

A provider and its callers are exposed to events, one after another (`ProviderEvent`): callers come,
take their steps and give up, the connection is reset by hand or by a failed call, runs end or break
down, and the provider is disposed of. Nothing is assumed about the order of the events, about the
times that they bring, or about the number of callers. A sequence of events takes a new provider
through a *history*, `providerHistory config events`, whose state at `n` is the one after `n`
events.

At every instant of a history the provider is coherent (`coherent_providerAt`), and from each
instant to the next it takes one of the changes of `Provider.Change`.
-/

namespace ClusterLink

/-- **What may happen to a provider and its callers.** -/
inductive ProviderEvent where
  /-- A caller comes. One that brings a trigger replaces the connection before it asks. -/
  | come (force : Option Trigger)
  /-- A caller takes its next step. -/
  | advance (caller : Nat) (now : Instant) (draw : Float)
  /-- A caller gives up. -/
  | giveUp (caller : Nat)
  | reset (now : Instant) (inRuntime : Bool) (trigger : Trigger)
  | resetFrom (generation : Nat) (now : Instant) (inRuntime : Bool) (trigger : Trigger)
  /-- A call on a connection of the given generation has failed. -/
  | observe (generation : Nat) (status : Status) (now : Instant) (inRuntime : Bool)
  | dispose
  /-- A run ends in a result. -/
  | finish (run : Nat) (result : Except Error Link) (now : Instant) (draw : Float)
  /-- The task of a run breaks down. -/
  | breakDown (run : Nat)

/-- How a caller begins. -/
def CallPhase.ofForce? : Option Trigger → CallPhase
  | none => .asking
  | some trigger => .forcing trigger

/-- Where a caller is left that gives up. -/
def CallPhase.giveUp : CallPhase → CallPhase
  | .done result => .done result
  | .brokenDown => .brokenDown
  | _ => .gone

/-- **A provider with its callers**, in the order in which they came. -/
structure Service where
  provider : Provider
  callers : List CallPhase := []

namespace Service

/-- A caller takes its next step; one that never came has none. -/
def stepCaller (s : Service) (caller : Nat) (now : Instant) (draw : Float) : Service :=
  match s.callers[caller]? with
  | none => s
  | some call =>
    { provider := (s.provider.advanceCall call now draw).2
      callers := s.callers.set caller (s.provider.advanceCall call now draw).1 }

/-- **What an event does.** -/
def perform (s : Service) : ProviderEvent → Service
  | .come force => { s with callers := s.callers ++ [.ofForce? force] }
  | .advance caller now draw => s.stepCaller caller now draw
  | .giveUp caller => { s with callers := s.callers.modify caller CallPhase.giveUp }
  | .reset now inRuntime trigger => { s with provider := s.provider.reset now inRuntime trigger }
  | .resetFrom generation now inRuntime trigger =>
    { s with provider := s.provider.resetFrom generation now inRuntime trigger }
  | .observe generation status now inRuntime =>
    { s with provider := s.provider.observe generation status now inRuntime }
  | .dispose => { s with provider := s.provider.dispose }
  | .finish run result now draw => { s with provider := s.provider.finish run result now draw }
  | .breakDown run => { s with provider := s.provider.breakDown run }

end Service

/-- **The history of a new provider**: its state after the first `n` of the events. -/
def providerHistory (config : BackoffConfig) (events : Nat → ProviderEvent) : Nat → Service
  | 0 => { provider := .new config }
  | n + 1 => (providerHistory config events n).perform (events n)

/-- The provider at an instant of its history. -/
abbrev providerAt (config : BackoffConfig) (events : Nat → ProviderEvent) (n : Nat) : Provider :=
  (providerHistory config events n).provider

/-- How far a call has come at an instant; nothing if it has not begun. -/
abbrev callAt (config : BackoffConfig) (events : Nat → ProviderEvent) (n i : Nat) :
    Option CallPhase := (providerHistory config events n).callers[i]?

/-! ## One event -/

namespace Service

theorem change_stepCaller {s : Service} (ha : s.provider.isAbandoned = false) (caller : Nat)
    (now : Instant) (draw : Float) :
    Provider.Change s.provider (s.stepCaller caller now draw).provider := by
  unfold stepCaller
  cases s.callers[caller]? with
  | none => exact .stay
  | some call => exact Provider.change_advanceCall ha call now draw

/-- **Every event is a change of the provider.** -/
theorem change_perform {s : Service} (ha : s.provider.isAbandoned = false) (event : ProviderEvent) :
    Provider.Change s.provider (s.perform event).provider := by
  cases event with
  | come | giveUp => exact .stay
  | advance caller now draw => exact change_stepCaller ha caller now draw
  | reset now inRuntime trigger => exact Provider.change_reset _ now inRuntime trigger
  | resetFrom generation now inRuntime trigger =>
    exact Provider.change_resetFrom _ generation now inRuntime trigger
  | observe generation status now inRuntime =>
    exact Provider.change_observe _ generation status now inRuntime
  | dispose => exact Provider.change_dispose _
  | finish run result now draw => exact Provider.change_finish ha run result now draw
  | breakDown run => exact Provider.change_breakDown _ run

/-- **The caller whose turn it is takes its step**, and the provider changes by that alone. -/
theorem perform_advance {s : Service} {i : Nat} {call : CallPhase} (h : s.callers[i]? = some call)
    (now : Instant) (draw : Float) :
    (s.perform (.advance i now draw)).callers[i]? = some (s.provider.advanceCall call now draw).1
      ∧ (s.perform (.advance i now draw)).provider
        = (s.provider.advanceCall call now draw).2 := by
  have hi : i < s.callers.length := (List.getElem?_eq_some_iff.1 h).1
  have hstep : s.perform (.advance i now draw) = s.stepCaller i now draw := rfl
  rw [hstep, stepCaller, h]
  exact ⟨List.getElem?_set_self hi, rfl⟩

end Service

/-! ## Whole histories -/

section

variable (config : BackoffConfig) (events : Nat → ProviderEvent)

theorem isAbandoned_providerAt (n : Nat) :
    (providerAt config events n).isAbandoned = false := by
  induction n with
  | zero => rfl
  | succ n ih => exact (Service.change_perform ih (events n)).isAbandoned_eq.trans ih

theorem change_providerAt (n : Nat) :
    Provider.Change (providerAt config events n) (providerAt config events (n + 1)) :=
  Service.change_perform (isAbandoned_providerAt config events n) (events n)

variable {config events} in
/-- **The caller whose turn it is takes its step.** -/
theorem callAt_succ_of_advance {n i : Nat} {call : CallPhase} {now : Instant} {draw : Float}
    (hcall : callAt config events n i = some call) (hevent : events n = .advance i now draw) :
    callAt config events (n + 1) i
        = some ((providerAt config events n).advanceCall call now draw).1
      ∧ providerAt config events (n + 1)
        = ((providerAt config events n).advanceCall call now draw).2 := by
  have hstep : providerHistory config events (n + 1)
      = (providerHistory config events n).perform (.advance i now draw) := by
    rw [providerHistory, hevent]
  show (providerHistory config events (n + 1)).callers[i]? = _
    ∧ (providerHistory config events (n + 1)).provider = _
  rw [hstep]
  exact Service.perform_advance hcall now draw

/-- **A provider is coherent at every instant of its history.** -/
theorem coherent_providerAt (n : Nat) :
    (providerAt config events n).Coherent := by
  induction n with
  | zero => exact .new config
  | succ n ih => exact ih.change (change_providerAt config events n)

end

end ClusterLink
