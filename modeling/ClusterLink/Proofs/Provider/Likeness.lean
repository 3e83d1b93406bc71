import ClusterLink.Proofs.Provider.Superseded

/-!
# Providers that are alike

Two providers are alike if they hold the same, and their runs are the same but for the phases in
which superseded ones were left (`Provider.Alike`). Every step of a provider keeps that up: a caller
that asks is told the same by both, resets and disposal change them in the same way, and so does a
run that ends. If a superseded run ends in one way here and in another way there, they are alike
still (`Provider.Alike.of_spends`).
-/

namespace ClusterLink

/-- **Two runs are alike**: they are the same but for the phase, and that may differ only if they
are superseded and nothing has come of either. -/
structure Run.Alike (generation : Nat) (isDisposed : Bool) (r r' : Run) : Prop where
  eq_setPhase : r' = { r with phase := r'.phase }
  phase : r'.phase = r.phase ∨ r.IsSuperseded generation isDisposed
    ∧ r.phase.IsSpent isDisposed ∧ r'.phase.IsSpent isDisposed

namespace Run.Alike

variable {generation generation' : Nat} {isDisposed isDisposed' : Bool} {r r' : Run}

theorem refl (generation : Nat) (isDisposed : Bool) (r : Run) :
    Run.Alike generation isDisposed r r := ⟨rfl, .inl rfl⟩

theorem mono (h : Run.Alike generation isDisposed r r') (hg : generation ≤ generation')
    (hd : isDisposed = true → isDisposed' = true) : Run.Alike generation' isDisposed' r r' where
  eq_setPhase := h.eq_setPhase
  phase := h.phase.imp_right fun ⟨hs, hp, hp'⟩ => ⟨hs.mono hg hd, hp.mono hd, hp'.mono hd⟩

theorem generation_eq (h : Run.Alike generation isDisposed r r') : r'.generation = r.generation :=
  h.eq_setPhase ▸ rfl

theorem trigger_eq (h : Run.Alike generation isDisposed r r') : r'.trigger = r.trigger :=
  h.eq_setPhase ▸ rfl

end Run.Alike

namespace Provider

/-- **Two providers are alike**: they hold the same, and their runs are alike. -/
structure Alike (p p' : Provider) : Prop where
  eq_setRuns : p' = { p with runs := p'.runs, log := p'.log }
  length_eq : p'.runs.length = p.runs.length
  run : ∀ (k : Nat) (r r' : Run), p.runs[k]? = some r → p'.runs[k]? = some r' →
    Run.Alike p.generation p.isDisposed r r'

namespace Alike

variable {p p' q q' : Provider}

theorem refl (p : Provider) : Alike p p where
  eq_setRuns := rfl
  length_eq := rfl
  run := fun k r r' hr hr' => by
    cases hr.symm.trans hr'
    exact .refl _ _ r

/-- A run of one provider is there in the other. -/
theorem run_cases (h : Alike p p') (k : Nat) :
    p.runs[k]? = none ∧ p'.runs[k]? = none
      ∨ ∃ r r', p.runs[k]? = some r ∧ p'.runs[k]? = some r'
        ∧ Run.Alike p.generation p.isDisposed r r' := by
  by_cases hk : k < p.runs.length
  · have hk' : k < p'.runs.length := h.length_eq ▸ hk
    exact .inr ⟨_, _, List.getElem?_eq_getElem hk, List.getElem?_eq_getElem hk',
      h.run k _ _ (List.getElem?_eq_getElem hk) (List.getElem?_eq_getElem hk')⟩
  · have hle := Nat.not_lt.1 hk
    exact .inl ⟨List.getElem?_eq_none hle, List.getElem?_eq_none (h.length_eq ▸ hle)⟩

/-- What else the providers hold may change in the same way. -/
theorem of_runs_eq (h : Alike p p') (hruns : q.runs = p.runs) (hruns' : q'.runs = p'.runs)
    (hg : p.generation ≤ q.generation) (hd : p.isDisposed = true → q.isDisposed = true)
    (heq : q' = { q with runs := q'.runs, log := q'.log }) : Alike q q' where
  eq_setRuns := heq
  length_eq := by rw [hruns, hruns']; exact h.length_eq
  run := by
    intro k r r' hr hr'
    rw [hruns] at hr
    rw [hruns'] at hr'
    exact (h.run k r r' hr hr').mono hg hd

/-! ## Phases -/

/-- The same run may come to alike phases. -/
theorem setPhase_of_phase (h : Alike p p') {run : Nat} {phase phase' : RunPhase}
    (hphase : ∀ r, p.runs[run]? = some r →
      phase' = phase ∨ r.IsSuperseded p.generation p.isDisposed
      ∧ phase.IsSpent p.isDisposed ∧ phase'.IsSpent p.isDisposed) :
    Alike (p.setPhase run phase) (p'.setPhase run phase') where
  eq_setRuns := congrArg (fun q : Provider =>
    { q with runs := (p'.setPhase run phase').runs }) h.eq_setRuns
  length_eq := by simpa [setPhase] using h.length_eq
  run := by
    intro k s s' hs hs'
    rw [getElem?_runs_setPhase] at hs hs'
    obtain ⟨r, hr, rfl⟩ := Option.map_eq_some_iff.1 hs
    obtain ⟨r', hr', rfl⟩ := Option.map_eq_some_iff.1 hs'
    have hrun := h.run k r r' hr hr'
    split
    · rename_i hk
      refine ⟨?_, hphase r (hk ▸ hr)⟩
      exact congrArg (fun s : Run => { s with phase := phase' }) hrun.eq_setPhase
    · exact hrun

theorem setPhase (h : Alike p p') (run : Nat) (phase : RunPhase) :
    Alike (p.setPhase run phase) (p'.setPhase run phase) :=
  h.setPhase_of_phase fun _ _ => .inl rfl

/-! ## Resets and disposal -/

theorem callOff (h : Alike p p') : Alike p.callOff p'.callOff where
  eq_setRuns := by
    have heq := h.eq_setRuns
    generalize p'.runs = runs at heq
    generalize p'.log = log at heq
    subst heq
    unfold Provider.callOff
    dsimp only
    split <;> rfl
  length_eq := by rw [length_runs_callOff, length_runs_callOff, h.length_eq]
  run := by
    intro k s s' hs hs'
    rw [getElem?_runs_callOff] at hs hs'
    obtain ⟨r, hr, rfl⟩ := Option.map_eq_some_iff.1 hs
    obtain ⟨r', hr', rfl⟩ := Option.map_eq_some_iff.1 hs'
    have hrun := h.run k r r' hr hr'
    have hactive : p'.activeRun = p.activeRun := h.eq_setRuns ▸ rfl
    rw [generation_callOff, isDisposed_callOff, hactive]
    refine ⟨?_, hrun.phase⟩
    exact congrArg (fun s : Run =>
      { s with isCalledOff := s.isCalledOff || p.activeRun == some k }) hrun.eq_setPhase

theorem generation_eq (h : Alike p p') : p'.generation = p.generation := h.eq_setRuns ▸ rfl

theorem slot_eq (h : Alike p p') : p'.slot = p.slot := h.eq_setRuns ▸ rfl

theorem trigger_eq (h : Alike p p') : p'.trigger = p.trigger := h.eq_setRuns ▸ rfl

theorem backoff_eq (h : Alike p p') : p'.backoff = p.backoff := h.eq_setRuns ▸ rfl

theorem isDisposed_eq (h : Alike p p') : p'.isDisposed = p.isDisposed := h.eq_setRuns ▸ rfl

theorem isAbandoned_eq (h : Alike p p') : p'.isAbandoned = p.isAbandoned := h.eq_setRuns ▸ rfl

theorem start (h : Alike p p') (now : Instant) : Alike (p.start now) (p'.start now) where
  eq_setRuns := by
    have heq := h.eq_setRuns
    have hlen := h.length_eq
    generalize p'.runs = runs at heq hlen
    generalize p'.log = log at heq
    subst heq
    unfold Provider.start
    dsimp only
    rw [hlen]
  length_eq := by rw [length_runs_start, length_runs_start, h.length_eq]
  run := by
    intro k s s' hs hs'
    rw [getElem?_runs_start, h.length_eq] at hs'
    rw [getElem?_runs_start] at hs
    split at hs
    · rename_i hk
      rw [if_pos hk, h.generation_eq, h.trigger_eq] at hs'
      cases hs.symm.trans hs'
      exact .refl _ _ s
    · rename_i hk
      rw [if_neg hk] at hs'
      exact h.run k s s' hs hs'

theorem renew (h : Alike p p') (trigger : Trigger) :
    Alike (p.renew trigger) (p'.renew trigger) := by
  have hcall := h.callOff
  refine hcall.of_runs_eq rfl rfl ?_ ?_ ?_
  · rw [generation_callOff]
    exact Nat.le_succ _
  · exact fun hd => hd
  · have heq := hcall.eq_setRuns
    unfold Provider.renew
    rw [h.generation_eq]
    exact congrArg (fun q : Provider => { q with
      generation := p.generation + 1
      trigger := trigger
      slot := .empty
      runs := p'.callOff.runs
      log := p'.log ++ [Metric.reconnect trigger.label] }) heq

theorem advance (h : Alike p p') (now : Instant) (inRuntime : Bool) (trigger : Trigger) :
    Alike (p.advance now inRuntime trigger) (p'.advance now inRuntime trigger) := by
  rw [advance_eq, advance_eq]
  split
  · exact (h.renew trigger).start now
  · exact h.renew trigger

theorem reset (h : Alike p p') (now : Instant) (inRuntime : Bool) (trigger : Trigger) :
    Alike (p.reset now inRuntime trigger) (p'.reset now inRuntime trigger) := by
  unfold Provider.reset
  rw [h.isDisposed_eq]
  split
  · exact h
  · exact h.advance now inRuntime trigger

theorem resetFrom (h : Alike p p') (generation : Nat) (now : Instant) (inRuntime : Bool)
    (trigger : Trigger) : Alike (p.resetFrom generation now inRuntime trigger)
      (p'.resetFrom generation now inRuntime trigger) := by
  unfold Provider.resetFrom
  rw [h.isDisposed_eq, h.generation_eq]
  split
  · exact h
  · exact h.advance now inRuntime trigger

theorem observe (h : Alike p p') (generation : Nat) (status : Status) (now : Instant)
    (inRuntime : Bool) : Alike (p.observe generation status now inRuntime)
      (p'.observe generation status now inRuntime) := by
  unfold Provider.observe
  rw [h.isAbandoned_eq]
  split
  · exact h
  · split
    · exact h
    · exact h.resetFrom generation now inRuntime _

theorem dispose (h : Alike p p') : Alike p.dispose p'.dispose := by
  unfold Provider.dispose
  rw [h.isDisposed_eq]
  split
  · exact h
  · refine h.callOff.of_runs_eq rfl rfl (Nat.le_refl _) (fun _ => rfl) ?_
    exact congrArg (fun q : Provider => { q with
      isDisposed := true
      slot := .empty
      runs := p'.callOff.runs
      log := p'.callOff.log }) h.callOff.eq_setRuns

/-- **Who asks is told the same.** -/
theorem current (h : Alike p p') (now : Instant) :
    (p'.current now).1 = (p.current now).1 ∧ Alike (p.current now).2 (p'.current now).2 := by
  unfold Provider.current
  rw [h.isDisposed_eq, h.slot_eq, h.length_eq]
  split
  · exact ⟨rfl, h⟩
  · split
    · exact ⟨rfl, h⟩
    · exact ⟨rfl, h⟩
    · split
      · exact ⟨rfl, h⟩
      · exact ⟨rfl, h.start now⟩
    · exact ⟨rfl, h.start now⟩

/-! ## Runs that end in the same way -/

/-- What is reported does not matter. -/
theorem setLog (h : Alike p p') (log log' : List Metric) :
    Alike { p with log := log } { p' with log := log' } :=
  h.of_runs_eq rfl rfl (Nat.le_refl _) (fun hd => hd) (congrArg (fun q : Provider =>
    { q with runs := p'.runs, log := log' }) h.eq_setRuns)

theorem halfFail (h : Alike p p') : Alike p.halfFail p'.halfFail :=
  h.of_runs_eq rfl rfl (Nat.le_refl _) (fun hd => hd) (congrArg (fun q : Provider =>
    { q.halfFail with runs := p'.runs, log := p'.log }) h.eq_setRuns)

theorem cannotFail_eq (h : Alike p p') {r r' : Run} (hg : r'.generation = r.generation)
    (draw : Float) : p'.cannotFail r' draw = p.cannotFail r draw := by
  rw [Provider.cannotFail, Provider.cannotFail, h.isDisposed_eq, h.generation_eq, h.backoff_eq, hg]

/-- What the providers hold may be replaced. -/
theorem holding (h : Alike p p') (slot : Slot) (backoff : Backoff) :
    Alike (p.holding slot backoff p.log) (p'.holding slot backoff p'.log) :=
  h.of_runs_eq rfl rfl (Nat.le_refl _) (fun hd => hd) (congrArg (fun q : Provider =>
    { q.holding slot backoff p'.log with runs := p'.runs }) h.eq_setRuns)

/-- **The same result of alike runs has the same effect.** -/
theorem complete (h : Alike p p') {r r' : Run} (hg : r'.generation = r.generation)
    (ht : r'.trigger = r.trigger) (result : Except Error Link) (now : Instant) (draw : Float) :
    (p'.complete r' result now draw).1 = (p.complete r result now draw).1
      ∧ Alike (p.complete r result now draw).2 (p'.complete r' result now draw).2 := by
  by_cases hd : p.isDisposed = true
  · rw [complete_of_isDisposed hd, complete_of_isDisposed (h.isDisposed_eq.trans hd)]
    exact ⟨rfl, h⟩
  · have hd' : p.isDisposed = false := Bool.eq_false_iff.2 hd
    by_cases hcurrent : p.generation = r.generation
    · have hcurrent' : p'.generation = r'.generation :=
        h.generation_eq.trans (hcurrent.trans hg.symm)
      cases result with
      | ok link =>
        rw [complete_ok hd' hcurrent, complete_ok (h.isDisposed_eq.trans hd') hcurrent', hg, ht,
          h.backoff_eq]
        exact ⟨rfl, h.holding (.ready ⟨link, r.trigger, r.generation⟩) p.backoff.reset⟩
      | error error =>
        rw [complete_error hd' hcurrent, complete_error (h.isDisposed_eq.trans hd') hcurrent',
          h.backoff_eq]
        exact ⟨rfl, h.holding _ p.backoff.advance⟩
    · have hold : p'.generation ≠ r'.generation := by rwa [h.generation_eq, hg]
      rw [complete_of_generation_ne hd' hcurrent,
        complete_of_generation_ne (h.isDisposed_eq.trans hd') hold]
      exact ⟨rfl, h⟩

theorem settle (h : Alike p p') (run : Nat) {r r' : Run} (hg : r'.generation = r.generation)
    (ht : r'.trigger = r.trigger) (result : Except Error Link) (now : Instant) (draw : Float) :
    Alike (p.settle run r result now draw) (p'.settle run r' result now draw) := by
  obtain ⟨houtcome, hcomplete⟩ := h.complete hg ht result now draw
  unfold Provider.settle
  rw [houtcome]
  exact hcomplete.setPhase run _

/-- A run that breaks down in both providers leaves them alike. -/
theorem breakDown (h : Alike p p') (run : Nat) : Alike (p.breakDown run) (p'.breakDown run) := by
  rcases h.run_cases run with ⟨hr, hr'⟩ | ⟨r, r', hr, hr', hrun⟩
  · unfold Provider.breakDown phase?
    rw [hr, hr']
    exact h
  · rcases hrun.phase with hphase | ⟨-, hspent, hspent'⟩
    · unfold Provider.breakDown phase?
      rw [hr, hr', Option.map_some, Option.map_some, hphase]
      split
      · exact h.setPhase run _
      · exact h
    · rw [breakDown_of_phase_ne hr hspent.ne_working, breakDown_of_phase_ne hr' hspent'.ne_working]
      exact h

/-- A run that ends in the same result in both providers leaves them alike. -/
theorem finish (h : Alike p p') (ha : p.isAbandoned = false) (run : Nat)
    (result : Except Error Link) (now : Instant) (draw : Float) :
    Alike (p.finish run result now draw) (p'.finish run result now draw) := by
  rcases h.run_cases run with ⟨hr, hr'⟩ | ⟨r, r', hr, hr', hrun⟩
  · unfold Provider.finish
    rw [hr, hr']
    exact h
  · rcases hrun.phase with hphase | ⟨-, hspent, hspent'⟩
    · by_cases hw : r.phase = .working
      · have hlog := h.setLog (p.log ++ [endReport r result now])
          (p'.log ++ [endReport r' result now])
        rw [finish_of_working hr hw ha,
          finish_of_working hr' (hphase.trans hw) (h.isAbandoned_eq.trans ha)]
        dsimp only
        rw [hlog.cannotFail_eq hrun.generation_eq]
        split
        · exact hlog.halfFail.breakDown run
        · exact hlog.settle run hrun.generation_eq hrun.trigger_eq result now draw
      · rw [finish_of_phase_ne hr hw, finish_of_phase_ne hr' (hphase ▸ hw)]
        exact h
    · rw [finish_of_phase_ne hr hspent.ne_working, finish_of_phase_ne hr' hspent'.ne_working]
      exact h

theorem isSuperseded (h : Alike p p') {run : Nat}
    (hstale : ∀ r, p.runs[run]? = some r → r.IsSuperseded p.generation p.isDisposed) (r' : Run)
    (hr' : p'.runs[run]? = some r') : r'.IsSuperseded p'.generation p'.isDisposed := by
  rcases h.run_cases run with ⟨-, hnone⟩ | ⟨r, s, hr, hs, hrun⟩
  · cases hnone.symm.trans hr'
  · cases hs.symm.trans hr'
    rw [Run.IsSuperseded, h.isDisposed_eq, h.generation_eq, hrun.generation_eq]
    exact hstale r hr

theorem phase?_eq_working_iff (h : Alike p p') (run : Nat) :
    p'.phase? run = some .working ↔ p.phase? run = some .working := by
  unfold phase?
  rcases h.run_cases run with ⟨hr, hr'⟩ | ⟨r, r', hr, hr', hrun⟩
  · rw [hr, hr']
  · rw [hr, hr', Option.map_some, Option.map_some, Option.some.injEq, Option.some.injEq]
    rcases hrun.phase with hphase | ⟨-, hspent, hspent'⟩
    · rw [hphase]
    · exact ⟨fun hw => absurd hw hspent'.ne_working, fun hw => absurd hw hspent.ne_working⟩

/-- **However a superseded run ends**, it leaves the providers alike. -/
theorem of_spends (h : Alike p p') {run : Nat}
    (hstale : ∀ r, p.runs[run]? = some r → r.IsSuperseded p.generation p.isDisposed)
    (hq : p.Spends run q) (hq' : p'.Spends run q') : Alike q q' := by
  rcases hq with ⟨hnot, rfl⟩ | ⟨hw, phase, log, hspent, rfl⟩
  · rcases hq' with ⟨-, rfl⟩ | ⟨hw', -⟩
    · exact h
    · exact absurd ((h.phase?_eq_working_iff run).1 hw') hnot
  · rcases hq' with ⟨hnot', -⟩ | ⟨-, phase', log', hspent', rfl⟩
    · exact absurd ((h.phase?_eq_working_iff run).2 hw) hnot'
    · rw [h.isDisposed_eq] at hspent'
      exact (h.setLog log log').setPhase_of_phase fun r hr =>
        .inr ⟨hstale r hr, hspent, hspent'⟩

/-- **Who comes back to its run is told the same**, or in both providers that it is not served. -/
theorem poll (h : Alike p p') (ha : p.isAbandoned = false) (run : Nat) (now : Instant)
    (draw : Float) :
    Alike (p.poll run now draw).2 (p'.poll run now draw).2
      ∧ ((p'.poll run now draw).1 = (p.poll run now draw).1
        ∨ p.isDisposed = true ∧ (p.poll run now draw).1.IsTurnedAway
          ∧ (p'.poll run now draw).1.IsTurnedAway) := by
  rcases h.run_cases run with ⟨hr, hr'⟩ | ⟨r, r', hr, hr', hrun⟩
  · unfold Provider.poll
    rw [hr, hr']
    exact ⟨h, .inl rfl⟩
  · rcases hrun.phase with hphase | ⟨hstale, hspent, hspent'⟩
    · unfold Provider.poll
      rw [hr, hr']
      dsimp only
      rw [hphase]
      split
      · exact ⟨h, .inl rfl⟩
      · exact ⟨h, .inl rfl⟩
      · exact ⟨h, .inl rfl⟩
      · have hnot : ¬p.isAbandoned = true := by simp [ha]
        have hnot' : ¬p'.isAbandoned = true := by simp [h.isAbandoned_eq, ha]
        rw [if_neg hnot, if_neg hnot', h.cannotFail_eq hrun.generation_eq]
        split
        · exact ⟨h.halfFail.setPhase run _, .inl rfl⟩
        · refine ⟨h.settle run hrun.generation_eq hrun.trigger_eq _ now draw, .inl ?_⟩
          rw [(h.complete hrun.generation_eq hrun.trigger_eq _ now draw).1]
    · have hstale' : r'.IsSuperseded p'.generation p'.isDisposed := by
        rw [Run.IsSuperseded, h.isDisposed_eq, h.generation_eq, hrun.generation_eq]
        exact hstale
      obtain ⟨hfinding, phase, hphase, hpoll⟩ := poll_of_isSpent hr ha hstale hspent now draw
      obtain ⟨hfinding', phase', hphase', hpoll'⟩ := poll_of_isSpent hr'
        (h.isAbandoned_eq.trans ha) hstale' (h.isDisposed_eq ▸ hspent') now draw
      rw [h.isDisposed_eq] at hphase' hfinding'
      constructor
      · rw [hpoll, hpoll']
        refine h.setPhase_of_phase fun s hs => .inr ⟨?_, hphase, hphase'⟩
        cases hr.symm.trans hs
        exact hstale
      · rcases hfinding with hf | ⟨hd, hf⟩ <;> rcases hfinding' with hf' | ⟨hd', hf'⟩
        · exact .inl (hf'.trans hf.symm)
        · exact .inr ⟨hd', .inl hf, .inr hf'⟩
        · exact .inr ⟨hd, .inr hf, .inl hf'⟩
        · exact .inl (hf'.trans hf.symm)

end Alike

end Provider

end ClusterLink
