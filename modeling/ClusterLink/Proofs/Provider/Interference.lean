import ClusterLink.Proofs.Provider.History
import ClusterLink.Proofs.Provider.Likeness

/-!
# Superseded runs do not interfere

How a run ends once it is superseded makes no difference to anybody. Two histories that differ in
nothing else keep their providers alike (`alike_providerHistory`), and their callers too
(`CallPhase.Alike`): a caller may learn in one step or in two that the provider was disposed of, but
what it is told is the same.

That both are alike is kept up by each event on its own (`Service.Alike.perform`), so that the
histories may go on in any way.
-/

namespace ClusterLink

/-! ## Callers -/

/-- **A caller that gets no connection any more**, or is about to find that out. -/
inductive CallPhase.IsTurnedAway : CallPhase → Prop where
  | asking : IsTurnedAway .asking
  | gone : IsTurnedAway .gone
  | done : IsTurnedAway (.done (.error Provider.disposedError))

/-- **Two callers are alike**: they are equally far, or both are turned away by a provider that was
disposed of. -/
def CallPhase.Alike (isDisposed : Bool) (call call' : CallPhase) : Prop :=
  call' = call ∨ isDisposed = true ∧ call.IsTurnedAway ∧ call'.IsTurnedAway

namespace CallPhase.Alike

variable {isDisposed : Bool} {call call' : CallPhase}

theorem mono (h : CallPhase.Alike isDisposed call call') {isDisposed' : Bool}
    (hd : isDisposed = true → isDisposed' = true) : CallPhase.Alike isDisposed' call call' :=
  h.imp_right fun ⟨h, hturned⟩ => ⟨hd h, hturned⟩

theorem giveUp (h : CallPhase.Alike isDisposed call call') :
    CallPhase.Alike isDisposed call.giveUp call'.giveUp := by
  have hturned : ∀ {c : CallPhase}, c.IsTurnedAway → c.giveUp.IsTurnedAway := by
    rintro c (_ | _ | _)
    · exact .gone
    · exact .gone
    · exact .done
  rcases h with rfl | ⟨hd, h, h'⟩
  · exact .inl rfl
  · exact .inr ⟨hd, hturned h, hturned h'⟩

/-- Callers that are alike have no different results. -/
theorem result_eq (h : CallPhase.Alike isDisposed call call')
    {result result' : Except Error Connection} (hcall : call = .done result)
    (hcall' : call' = .done result') : result' = result := by
  rcases h with heq | ⟨-, h, h'⟩
  · rw [hcall, hcall'] at heq
    cases heq
    rfl
  · subst hcall hcall'
    cases h
    cases h'
    rfl

end CallPhase.Alike

theorem Provider.Finding.IsTurnedAway.phase {f : Finding} (h : f.IsTurnedAway) (run : Nat) :
    (f.phase run).IsTurnedAway := by
  rcases h with rfl | rfl
  · exact .asking
  · exact .done

/-- A caller that is turned away goes on by itself. -/
theorem Provider.advanceCall_of_isTurnedAway {p : Provider} (hd : p.isDisposed = true)
    {call : CallPhase} (h : call.IsTurnedAway) (now : Instant) (draw : Float) :
    (p.advanceCall call now draw).2 = p ∧ (p.advanceCall call now draw).1.IsTurnedAway := by
  cases h with
  | asking =>
    rw [advanceCall, current, if_pos hd]
    exact ⟨rfl, .done⟩
  | gone => exact ⟨rfl, .gone⟩
  | done => exact ⟨rfl, .done⟩

/-- **Callers that are alike take alike steps.** -/
theorem Provider.Alike.advanceCall {p p' : Provider} (h : Alike p p') (ha : p.isAbandoned = false)
    {call call' : CallPhase} (hcall : CallPhase.Alike p.isDisposed call call') (now : Instant)
    (draw : Float) :
    Alike (p.advanceCall call now draw).2 (p'.advanceCall call' now draw).2
      ∧ CallPhase.Alike p.isDisposed (p.advanceCall call now draw).1
        (p'.advanceCall call' now draw).1 := by
  rcases hcall with rfl | ⟨hd, hturned, hturned'⟩
  · cases call' with
    | forcing trigger => exact ⟨h.reset now true trigger, .inl rfl⟩
    | asking =>
      obtain ⟨hdemand, hcurrent⟩ := h.current now
      exact ⟨hcurrent, .inl (congrArg Demand.phase hdemand)⟩
    | waiting run =>
      obtain ⟨hpoll, hfinding | ⟨hd, hf, hf'⟩⟩ := h.poll ha run now draw
      · exact ⟨hpoll, .inl (congrArg (Finding.phase run) hfinding)⟩
      · refine ⟨hpoll, .inr ⟨hd, ?_, ?_⟩⟩
        · exact hf.phase run
        · exact hf'.phase run
    | done | brokenDown | gone => exact ⟨h, .inl rfl⟩
  · obtain ⟨hsame, hnext⟩ := advanceCall_of_isTurnedAway hd hturned now draw
    obtain ⟨hsame', hnext'⟩ :=
      advanceCall_of_isTurnedAway (h.isDisposed_eq.trans hd) hturned' now draw
    rw [hsame, hsame']
    exact ⟨h, .inr ⟨hd, hnext, hnext'⟩⟩

/-! ## One event -/

/-- The run that ends by an event. -/
def ProviderEvent.ends? : ProviderEvent → Option Nat
  | .finish run .. | .breakDown run => some run
  | _ => none

/-- **Two providers are alike, and so are their callers.** -/
structure Service.Alike (s s' : Service) : Prop where
  provider : s.provider.Alike s'.provider
  length_eq : s'.callers.length = s.callers.length
  caller : ∀ (i : Nat) (call call' : CallPhase), s.callers[i]? = some call →
    s'.callers[i]? = some call' → CallPhase.Alike s.provider.isDisposed call call'

namespace Service.Alike

variable {s s' : Service}

/-- A caller of one provider is a caller of the other. -/
theorem caller_cases (h : Alike s s') (i : Nat) :
    s.callers[i]? = none ∧ s'.callers[i]? = none
      ∨ ∃ call call', s.callers[i]? = some call ∧ s'.callers[i]? = some call'
        ∧ CallPhase.Alike s.provider.isDisposed call call' := by
  by_cases hi : i < s.callers.length
  · have hi' : i < s'.callers.length := h.length_eq ▸ hi
    exact .inr ⟨_, _, List.getElem?_eq_getElem hi, List.getElem?_eq_getElem hi',
      h.caller i _ _ (List.getElem?_eq_getElem hi) (List.getElem?_eq_getElem hi')⟩
  · have hle := Nat.not_lt.1 hi
    exact .inl ⟨List.getElem?_eq_none hle, List.getElem?_eq_none (h.length_eq ▸ hle)⟩

/-- The providers change, and the callers stay as they are. -/
theorem of_callers_eq (h : Alike s s') {t t' : Service} (hcallers : t.callers = s.callers)
    (hcallers' : t'.callers = s'.callers) (hp : t.provider.Alike t'.provider)
    (hd : s.provider.isDisposed = true → t.provider.isDisposed = true) : Alike t t' where
  provider := hp
  length_eq := by rw [hcallers, hcallers', h.length_eq]
  caller := by
    intro i call call' hcall hcall'
    rw [hcallers] at hcall
    rw [hcallers'] at hcall'
    exact (h.caller i call call' hcall hcall').mono hd

/-- A caller comes to both. -/
theorem come (h : Alike s s') (call : CallPhase) :
    Alike { s with callers := s.callers ++ [call] }
      { s' with callers := s'.callers ++ [call] } where
  provider := h.provider
  length_eq := by simp [h.length_eq]
  caller := by
    intro i c c' hc hc'
    rw [List.getElem?_append] at hc hc'
    rw [h.length_eq] at hc'
    split at hc
    · rename_i hi
      rw [if_pos hi] at hc'
      exact h.caller i c c' hc hc'
    · rename_i hi
      rw [if_neg hi] at hc'
      cases hc.symm.trans hc'
      exact .inl rfl

theorem giveUp (h : Alike s s') (i : Nat) :
    Alike { s with callers := s.callers.modify i CallPhase.giveUp }
      { s' with callers := s'.callers.modify i CallPhase.giveUp } where
  provider := h.provider
  length_eq := by simp [h.length_eq]
  caller := by
    intro k c c' hc hc'
    rw [List.getElem?_modify] at hc hc'
    obtain ⟨call, hcall, rfl⟩ := Option.map_eq_some_iff.1 hc
    obtain ⟨call', hcall', rfl⟩ := Option.map_eq_some_iff.1 hc'
    have halike := h.caller k call call' hcall hcall'
    split
    · exact halike.giveUp
    · exact halike

theorem stepCaller (h : Alike s s') (ha : s.provider.isAbandoned = false) (i : Nat) (now : Instant)
    (draw : Float) : Alike (s.stepCaller i now draw) (s'.stepCaller i now draw) := by
  unfold Service.stepCaller
  rcases h.caller_cases i with ⟨hnone, hnone'⟩ | ⟨call, call', hcall, hcall', halike⟩
  · rw [hnone, hnone']
    exact h
  · obtain ⟨hprovider, hnext⟩ := h.provider.advanceCall ha halike now draw
    have hd := (Provider.change_advanceCall ha call now draw).isDisposed_of_isDisposed
    rw [hcall, hcall']
    refine ⟨hprovider, by simp [h.length_eq], fun k c c' hc hc' => ?_⟩
    dsimp only at hc hc'
    by_cases hk : i = k
    · subst hk
      rw [List.getElem?_set_self (List.getElem?_eq_some_iff.1 hcall).1] at hc
      rw [List.getElem?_set_self (List.getElem?_eq_some_iff.1 hcall').1] at hc'
      cases hc
      cases hc'
      exact hnext.mono hd
    · rw [List.getElem?_set_ne hk] at hc hc'
      exact (h.caller k c c' hc hc').mono hd

/-- **The same event keeps providers and callers alike.** -/
theorem perform (h : Alike s s') (ha : s.provider.isAbandoned = false) (event : ProviderEvent) :
    Alike (s.perform event) (s'.perform event) := by
  have hd := (Service.change_perform ha event).isDisposed_of_isDisposed
  have hp := h.provider
  cases event with
  | come force => exact h.come _
  | advance i now draw => exact h.stepCaller ha i now draw
  | giveUp i => exact h.giveUp i
  | reset now inRuntime trigger => exact h.of_callers_eq rfl rfl (hp.reset now inRuntime trigger) hd
  | resetFrom generation now inRuntime trigger =>
    exact h.of_callers_eq rfl rfl (hp.resetFrom generation now inRuntime trigger) hd
  | observe generation status now inRuntime =>
    exact h.of_callers_eq rfl rfl (hp.observe generation status now inRuntime) hd
  | dispose => exact h.of_callers_eq rfl rfl hp.dispose hd
  | finish run result now draw =>
    exact h.of_callers_eq rfl rfl (hp.finish ha run result now draw) hd
  | breakDown run => exact h.of_callers_eq rfl rfl (hp.breakDown run) hd

end Service.Alike

/-- **A run that an event ends is spent** if it is superseded. -/
theorem Service.spends_perform {s : Service} (ha : s.provider.isAbandoned = false)
    {event : ProviderEvent} {run : Nat} (hends : event.ends? = some run)
    (hstale : ∀ r, s.provider.runs[run]? = some r →
      r.IsSuperseded s.provider.generation s.provider.isDisposed) :
    (s.perform event).callers = s.callers
      ∧ s.provider.Spends run (s.perform event).provider := by
  cases event with
  | finish run' result now draw =>
    cases hends
    exact ⟨rfl, Provider.spends_finish ha hstale result now draw⟩
  | breakDown run' =>
    cases hends
    exact ⟨rfl, Provider.spends_breakDown s.provider run⟩
  | _ => cases hends

/-- A call that is done stays so. -/
theorem Service.caller_of_done {s : Service} {i : Nat} {result : Except Error Connection}
    (h : s.callers[i]? = some (.done result)) (event : ProviderEvent) :
    (s.perform event).callers[i]? = some (.done result) := by
  cases event with
  | come force =>
    show (s.callers ++ [_])[i]? = _
    rw [List.getElem?_append_left (List.getElem?_eq_some_iff.1 h).1]
    exact h
  | advance caller now draw =>
    show (s.stepCaller caller now draw).callers[i]? = _
    unfold stepCaller
    cases hcall : s.callers[caller]? with
    | none => exact h
    | some call =>
      dsimp only
      by_cases hi : caller = i
      · subst hi
        cases hcall.symm.trans h
        exact List.getElem?_set_self (List.getElem?_eq_some_iff.1 h).1
      · rw [List.getElem?_set_ne hi]
        exact h
  | giveUp caller =>
    show (s.callers.modify caller CallPhase.giveUp)[i]? = _
    rw [List.getElem?_modify, h]
    show some (if caller = i then _ else _) = _
    split <;> rfl
  | _ => exact h

/-! ## Whole histories -/

/-- **Two histories differ in the ends of superseded runs only**: at each instant the same happens
in both, or the same run ends in both, and its generation is over or the provider is disposed of. -/
def DifferInSupersededRuns (config : BackoffConfig)
    (events events' : Nat → ProviderEvent) : Prop :=
  ∀ n, events' n = events n ∨ ∃ run, (events n).ends? = some run
    ∧ (events' n).ends? = some run ∧ ((providerAt config events n).isDisposed = true
      ∨ ∀ r, (providerAt config events n).runs[run]? = some r →
        r.generation ≠ (providerAt config events n).generation)

section

variable {config : BackoffConfig} {events events' : Nat → ProviderEvent}

/-- **Histories that differ in superseded runs only stay alike.** -/
theorem alike_providerHistory (h : DifferInSupersededRuns config events events') (n : Nat) :
    (providerHistory config events n).Alike (providerHistory config events' n) := by
  induction n with
  | zero => exact ⟨.refl _, rfl, fun i call call' hcall => by cases hcall⟩
  | succ n ih =>
    have ha := isAbandoned_providerAt config events n
    have hcoherent := coherent_providerAt config events n
    show ((providerHistory config events n).perform (events n)).Alike
      ((providerHistory config events' n).perform (events' n))
    rcases h n with heq | ⟨run, hends, hends', hstale⟩
    · rw [heq]
      exact ih.perform ha (events n)
    · have hsuperseded : ∀ r, (providerAt config events n).runs[run]? = some r → r.IsSuperseded
          (providerAt config events n).generation (providerAt config events n).isDisposed :=
        fun r hr => hstale.imp_right fun hne =>
          Nat.lt_of_le_of_ne (hcoherent.generation_le run r hr) (hne r hr)
      obtain ⟨hcallers, hspends⟩ := Service.spends_perform ha hends hsuperseded
      obtain ⟨hcallers', hspends'⟩ := Service.spends_perform
        (isAbandoned_providerAt config events' n) hends' (ih.provider.isSuperseded hsuperseded)
      exact ih.of_callers_eq hcallers hcallers' (ih.provider.of_spends hsuperseded hspends hspends')
        ((Service.change_perform ha (events n)).isDisposed_of_isDisposed)

/-- A call that is done stays so. -/
theorem callAt_of_done {m n i : Nat} {result : Except Error Connection} (hmn : m ≤ n)
    (h : callAt config events m i = some (.done result)) :
    callAt config events n i = some (.done result) := by
  induction hmn with
  | refl => exact h
  | @step n hmn ih =>
    show ((providerHistory config events n).perform (events n)).callers[i]? = _
    exact Service.caller_of_done ih (events n)

/-- A call that asks a provider that was disposed of is told so. -/
theorem callAt_succ_of_isDisposed {n i : Nat} {now : Instant} {draw : Float}
    (hd : (providerAt config events n).isDisposed = true)
    (hcall : callAt config events n i = some .asking) (hevent : events n = .advance i now draw) :
    callAt config events (n + 1) i = some (.done (.error Provider.disposedError)) := by
  obtain ⟨hnext, -⟩ := callAt_succ_of_advance hcall hevent
  rw [hnext, Provider.advanceCall, Provider.current, if_pos hd]
  rfl

/-! ## The result -/

/-- **Superseded runs do not interfere.** Take two histories of a provider in which the same
happens, but for the ends of runs whose generation is over, or whose provider was disposed of, by
the time they end: these may end in any way. Then at every instant the two providers have the same
generation, trigger, slot and delays, and both or neither are disposed of.

Each call is equally far in both histories, or the provider was disposed of and the call, in either
history, is about to ask and be told so, has been told so, or was given up. So no call has different
results. -/
theorem superseded_runs_do_not_interfere (h : DifferInSupersededRuns config events events') :
    (∀ n, (providerAt config events' n).generation = (providerAt config events n).generation
      ∧ (providerAt config events' n).trigger = (providerAt config events n).trigger
      ∧ (providerAt config events' n).slot = (providerAt config events n).slot
      ∧ (providerAt config events' n).backoff = (providerAt config events n).backoff
      ∧ (providerAt config events' n).isDisposed = (providerAt config events n).isDisposed)
    ∧ (∀ n i, callAt config events' n i = callAt config events n i
      ∨ (providerAt config events n).isDisposed = true ∧ ∃ call call',
        callAt config events n i = some call ∧ callAt config events' n i = some call'
          ∧ call.IsTurnedAway ∧ call'.IsTurnedAway)
    ∧ (∀ (e : Nat → ProviderEvent) (n i : Nat) (now : Instant) (draw : Float),
      (providerAt config e n).isDisposed = true → callAt config e n i = some .asking →
      e n = .advance i now draw →
      callAt config e (n + 1) i = some (.done (.error Provider.disposedError)))
    ∧ ∀ m n i result result', callAt config events m i = some (.done result) →
      callAt config events' n i = some (.done result') → result' = result := by
  have halike := alike_providerHistory h
  refine ⟨fun n => ?_, fun n i => ?_, fun e n i now draw => callAt_succ_of_isDisposed, ?_⟩
  · have hp := (halike n).provider
    exact ⟨hp.generation_eq, hp.trigger_eq, hp.slot_eq, hp.backoff_eq, hp.isDisposed_eq⟩
  · rcases (halike n).caller_cases i with ⟨hnone, hnone'⟩
      | ⟨call, call', hcall, hcall', hc⟩
    · exact .inl (hnone'.trans hnone.symm)
    · rcases hc with rfl | ⟨hd, hturned, hturned'⟩
      · exact .inl (hcall'.trans hcall.symm)
      · exact .inr ⟨hd, call, call', hcall, hcall', hturned, hturned'⟩
  · intro m n i result result' hdone hdone'
    -- at the later of the two instants both calls are done
    have hlate := callAt_of_done (Nat.le_max_left m n) hdone
    have hlate' := callAt_of_done (Nat.le_max_right m n) hdone'
    exact ((halike (max m n)).caller i _ _ hlate hlate').result_eq rfl rfl

/-- A run is replaced while its caller waits for it, and ends with the given event then. -/
def replacedRun (ending : ProviderEvent) : Nat → ProviderEvent
  | 0 => .come none
  | 2 => .reset 1 true .rediscover
  | 3 => ending
  | 6 => .finish 1 (.ok default) 4 0.5
  | _ => .advance 0 3 0.5

/-- Whatever event ends the replaced run, it is superseded then. -/
theorem differInSupersededRuns_replacedRun {ending ending' : ProviderEvent}
    (h : ending.ends? = some 0) (h' : ending'.ends? = some 0) :
    DifferInSupersededRuns {} (replacedRun ending) (replacedRun ending') := by
  intro n
  rcases n with _ | _ | _ | _ | _ | _ | _ | n
  case succ.succ.succ.zero =>
    refine .inr ⟨0, h, h', .inr fun r hr => ?_⟩
    cases hr
    exact Nat.zero_ne_one
  all_goals exact .inl rfl

/-- The replaced run connects or breaks down, and its caller gets the connection of the next one. -/
theorem superseded_runs_do_not_interfere_of_replaced :
    DifferInSupersededRuns {} (replacedRun (.finish 0 (.ok default) 2 0.5))
        (replacedRun (.breakDown 0))
      ∧ (providerAt {} (replacedRun (.breakDown 0)) 4).slot
        = (providerAt {} (replacedRun (.finish 0 (.ok default) 2 0.5)) 4).slot
      ∧ callAt {} (replacedRun (.finish 0 (.ok default) 2 0.5)) 8 0
        = some (.done (.ok ⟨default, .rediscover, 1⟩))
      ∧ callAt {} (replacedRun (.breakDown 0)) 8 0
        = some (.done (.ok ⟨default, .rediscover, 1⟩)) := by
  have hdiffer : DifferInSupersededRuns {} (replacedRun (.finish 0 (.ok default) 2 0.5))
      (replacedRun (.breakDown 0)) := differInSupersededRuns_replacedRun rfl rfl
  have hdone : callAt {} (replacedRun (.finish 0 (.ok default) 2 0.5)) 8 0
      = some (.done (.ok ⟨default, .rediscover, 1⟩)) := rfl
  have hopen : (providerAt {} (replacedRun (.finish 0 (.ok default) 2 0.5)) 8).isDisposed
      = false := rfl
  obtain ⟨hprovider, hcalls, -⟩ := superseded_runs_do_not_interfere hdiffer
  obtain ⟨-, -, hslot, -⟩ := hprovider 4
  refine ⟨hdiffer, hslot, hdone, ?_⟩
  rcases hcalls 8 0 with hsame | ⟨hd, -⟩
  · exact hsame.trans hdone
  · cases hopen.symm.trans hd

end

end ClusterLink
