import ClusterLink.Proofs.Provider.Pauses

/-!
# Runs that are told to stop

A run is called off when its generation is over or the provider is disposed of, and never before
(`Provider.CallsOffOld`); a run that works then is called off indeed (`Provider.CallsOffAllOld`). It
is a reset or the disposal that does it (`Provider.Change.calledOff_cases`).

How far a run has come depends on the run and on those who come back to it. What becomes of other
runs, and what other callers do, leaves it where it is.
-/

namespace ClusterLink.Provider

/-! ## Other runs -/

/-- The phase of one run is no matter of the others. -/
theorem getElem?_runs_setPhase_ne {p q : Provider} {run k : Nat} (hk : run ≠ k)
    (hq : q.runs = p.runs) (phase : RunPhase) : (q.setPhase run phase).runs[k]? = p.runs[k]? := by
  rw [getElem?_runs_setPhase, hq]
  simp [hk]

/-- A run that ends leaves the other runs as they are. -/
theorem getElem?_runs_finish_ne {p : Provider} {run k : Nat} (hk : run ≠ k)
    (result : Except Error Link) (now : Instant) (draw : Float) :
    (p.finish run result now draw).runs[k]? = p.runs[k]? := by
  unfold finish
  split
  · rfl
  · split
    · split
      · exact getElem?_runs_setPhase_ne hk rfl _
      · dsimp only
        split
        · unfold breakDown
          split
          · exact getElem?_runs_setPhase_ne hk rfl _
          · rfl
        · exact getElem?_runs_setPhase_ne hk (runs_complete ..) _
    · rfl

theorem getElem?_runs_breakDown_ne {p : Provider} {run k : Nat} (hk : run ≠ k) :
    (p.breakDown run).runs[k]? = p.runs[k]? := by
  unfold breakDown
  split
  · rw [getElem?_runs_setPhase]
    simp [hk]
  · rfl

/-- Who comes back to a run leaves the other runs as they are. -/
theorem getElem?_runs_poll_ne {p : Provider} {run k : Nat} (hk : run ≠ k) (now : Instant)
    (draw : Float) : (p.poll run now draw).2.runs[k]? = p.runs[k]? := by
  unfold poll
  split
  · rfl
  · split
    · rfl
    · rfl
    · rfl
    · split
      · exact getElem?_runs_setPhase_ne hk rfl _
      · split
        · exact getElem?_runs_setPhase_ne hk rfl _
        · exact getElem?_runs_setPhase_ne hk (runs_complete ..) _

/-- Who comes back to a run that has not broken down leaves the provider as it is. -/
theorem poll_of_phase?_ne {p : Provider} {run : Nat} (h : p.phase? run ≠ some .brokenDown)
    (now : Instant) (draw : Float) : (p.poll run now draw).2 = p := by
  unfold poll
  cases hr : p.runs[run]? with
  | none => rfl
  | some r =>
    dsimp only
    cases hphase : r.phase with
    | working | poisoned | ended => rfl
    | brokenDown => exact absurd (by rw [phase?, hr, Option.map_some, hphase]) h

section

variable {p : Provider} {run : Nat} {phase : RunPhase}

theorem phase?_eq_some :
    p.phase? run = some phase ↔ ∃ r, p.runs[run]? = some r ∧ r.phase = phase :=
  Option.map_eq_some_iff

@[simp] theorem phase?_callOff : p.callOff.phase? run = p.phase? run := by
  rw [phase?, phase?, getElem?_runs_callOff, Option.map_map]
  rfl

theorem phase?_start (h : p.phase? run = some phase) (now : Instant) :
    (p.start now).phase? run = some phase := by
  obtain ⟨r, hr, hphase⟩ := phase?_eq_some.1 h
  refine phase?_eq_some.2 ⟨r, ?_, hphase⟩
  rw [getElem?_runs_start, if_neg (Nat.ne_of_lt (List.getElem?_eq_some_iff.1 hr).1), hr]

theorem phase?_advance (h : p.phase? run = some phase) (now : Instant) (inRuntime : Bool)
    (trigger : Trigger) : (p.advance now inRuntime trigger).phase? run = some phase := by
  have hrenew : (p.renew trigger).phase? run = some phase := phase?_callOff.trans h
  rw [advance_eq]
  split
  · exact phase?_start hrenew now
  · exact hrenew

theorem phase?_dispose (h : p.phase? run = some phase) : p.dispose.phase? run = some phase := by
  unfold dispose
  split
  · exact h
  · exact phase?_callOff.trans h

theorem phase?_current (h : p.phase? run = some phase) (now : Instant) :
    (p.current now).2.phase? run = some phase := by
  unfold current
  split
  · exact h
  · split
    · exact h
    · exact h
    · split
      · exact h
      · exact phase?_start h now
    · exact phase?_start h now

end

/-! ## What ends a generation -/

/-- The generation lasts, and the provider is disposed of if it was. -/
def Lasts (p q : Provider) : Prop := q.generation = p.generation ∧ q.isDisposed = p.isDisposed

theorem lasts_current (p : Provider) (now : Instant) : Lasts p (p.current now).2 := by
  unfold current
  split
  · exact ⟨rfl, rfl⟩
  · split
    · exact ⟨rfl, rfl⟩
    · exact ⟨rfl, rfl⟩
    · split <;> exact ⟨rfl, rfl⟩
    · exact ⟨rfl, rfl⟩

theorem lasts_complete (p : Provider) (r : Run) (result : Except Error Link) (now : Instant)
    (draw : Float) : Lasts p (p.complete r result now draw).2 := by
  unfold complete
  split
  · exact ⟨rfl, rfl⟩
  · split
    · exact ⟨rfl, rfl⟩
    · split <;> exact ⟨rfl, rfl⟩

theorem lasts_breakDown (p : Provider) (run : Nat) : Lasts p (p.breakDown run) := by
  unfold breakDown
  split <;> exact ⟨rfl, rfl⟩

theorem lasts_finish (p : Provider) (run : Nat) (result : Except Error Link) (now : Instant)
    (draw : Float) : Lasts p (p.finish run result now draw) := by
  unfold finish
  split
  · exact ⟨rfl, rfl⟩
  · split
    · split
      · exact ⟨rfl, rfl⟩
      · dsimp only
        split
        · exact lasts_breakDown _ run
        · exact lasts_complete _ _ result now draw
    · exact ⟨rfl, rfl⟩

theorem lasts_poll (p : Provider) (run : Nat) (now : Instant) (draw : Float) :
    Lasts p (p.poll run now draw).2 := by
  unfold poll
  split
  · exact ⟨rfl, rfl⟩
  · split
    · exact ⟨rfl, rfl⟩
    · exact ⟨rfl, rfl⟩
    · exact ⟨rfl, rfl⟩
    · split
      · exact ⟨rfl, rfl⟩
      · split
        · exact ⟨rfl, rfl⟩
        · exact lasts_complete p _ (.error breakdownError) now draw

/-- No caller ends a generation, unless it is about to. -/
theorem lasts_advanceCall (p : Provider) {call : CallPhase}
    (h : ∀ trigger, call ≠ .forcing trigger) (now : Instant) (draw : Float) :
    Lasts p (p.advanceCall call now draw).2 := by
  cases call with
  | forcing trigger => exact absurd rfl (h trigger)
  | asking => exact lasts_current p now
  | waiting run => exact lasts_poll p run now draw
  | done | brokenDown | gone => exact ⟨rfl, rfl⟩

/-! ## Owners that go -/

@[simp] theorem isAbandoned_complete (p : Provider) (r : Run) (result : Except Error Link)
    (now : Instant) (draw : Float) :
    (p.complete r result now draw).2.isAbandoned = p.isAbandoned := by
  unfold complete
  split
  · rfl
  · split
    · rfl
    · split <;> rfl

theorem isAbandoned_finish (p : Provider) (run : Nat) (result : Except Error Link) (now : Instant)
    (draw : Float) : (p.finish run result now draw).isAbandoned = p.isAbandoned := by
  unfold finish
  split
  · rfl
  · split
    · split
      · rfl
      · dsimp only
        split
        · exact (change_breakDown _ run).isAbandoned_eq
        · exact isAbandoned_complete ..
    · rfl

theorem isAbandoned_poll (p : Provider) (run : Nat) (now : Instant) (draw : Float) :
    (p.poll run now draw).2.isAbandoned = p.isAbandoned := by
  unfold poll
  split
  · rfl
  · split
    · rfl
    · rfl
    · rfl
    · split
      · rfl
      · split
        · rfl
        · exact isAbandoned_complete ..

theorem isAbandoned_advanceCall (p : Provider) (call : CallPhase) (now : Instant) (draw : Float) :
    (p.advanceCall call now draw).2.isAbandoned = p.isAbandoned := by
  cases call with
  | forcing trigger => exact (change_reset p now true trigger).isAbandoned_eq
  | asking => exact (change_current p now).isAbandoned_eq
  | waiting run => exact isAbandoned_poll p run now draw
  | done | brokenDown | gone => rfl

/-! ## Calling off -/

/-- **A run is called off only when its generation is over**, or the provider is disposed of. -/
def CallsOffOld (p : Provider) : Prop :=
  ∀ (run : Nat) (r : Run), p.runs[run]? = some r → r.isCalledOff = true →
    r.generation < p.generation ∨ p.isDisposed = true

theorem CallsOffOld.change {p q : Provider} (h : p.CallsOffOld) (hp : p.Coherent)
    (hq : Change p q) : q.CallsOffOld := by
  have hset : ∀ {o : Provider} {k : Nat} {phase : RunPhase}, o.runs = p.runs →
      o.generation = p.generation → o.isDisposed = p.isDisposed →
      (o.setPhase k phase).CallsOffOld := by
    intro o k phase hruns hg hd run s hs hoff
    rw [getElem?_runs_setPhase, hruns] at hs
    obtain ⟨r, hr, rfl⟩ := Option.map_eq_some_iff.1 hs
    show _ < o.generation ∨ o.isDisposed = true
    rw [hg, hd]
    by_cases hk : k = run
    · rw [if_pos hk] at hoff ⊢
      exact h run r hr hoff
    · rw [if_neg hk] at hoff ⊢
      exact h run r hr hoff
  have hstart : ∀ {o : Provider} (now : Instant), o.CallsOffOld →
      (o.start now).CallsOffOld := by
    intro o now ho run s hs hoff
    rw [getElem?_runs_start] at hs
    split at hs
    · cases hs
      cases hoff
    · exact ho run s hs hoff
  cases hq with
  | stay => exact h
  | start now hd hpend hready => exact hstart now h
  | advance now inRuntime trigger hd =>
    have hrenew : (p.renew trigger).CallsOffOld := by
      intro run s hs hoff
      have hs' : p.callOff.runs[run]? = some s := hs
      obtain ⟨r, hr, hg, -⟩ := Change.exists_run_of_callOff hs'
      -- every run there is belongs to a generation that is over now
      exact .inl (Nat.lt_succ_of_le (hg ▸ hp.generation_le run r hr))
    rw [advance_eq]
    split
    · exact hstart now hrenew
    · exact hrenew
  | dispose hd => exact fun _ _ _ _ => .inr (isDisposed_dispose p)
  | breakDown | lapse | connect | fail | jam => exact hset rfl rfl rfl

/-- **A run that works is called off once its generation is over**, or the provider is disposed
of. -/
def CallsOffAllOld (p : Provider) : Prop :=
  ∀ (run : Nat) (r : Run), p.runs[run]? = some r → r.phase = .working →
    r.generation < p.generation ∨ p.isDisposed = true → r.isCalledOff = true

theorem CallsOffAllOld.change {p q : Provider} (h : p.CallsOffAllOld) (hp : p.Coherent)
    (hq : Change p q) : q.CallsOffAllOld := by
  have hset : ∀ {o : Provider} {k : Nat} {phase : RunPhase}, phase ≠ .working →
      o.runs = p.runs → o.generation = p.generation → o.isDisposed = p.isDisposed →
      (o.setPhase k phase).CallsOffAllOld := by
    intro o k phase hne hruns hg hd run s hs hw hold
    rw [getElem?_runs_setPhase, hruns] at hs
    obtain ⟨r, hr, rfl⟩ := Option.map_eq_some_iff.1 hs
    change _ < o.generation ∨ o.isDisposed = true at hold
    rw [hg, hd] at hold
    by_cases hk : k = run
    · rw [if_pos hk] at hw
      exact absurd hw hne
    · rw [if_neg hk] at hw hold ⊢
      exact h run r hr hw hold
  have hstart : ∀ {o : Provider} (now : Instant), o.isDisposed = false → o.CallsOffAllOld →
      (o.start now).CallsOffAllOld := by
    intro o now hd ho run s hs hw hold
    rw [getElem?_runs_start] at hs
    split at hs
    · cases hs
      rcases hold with hlt | hdisposed
      · exact absurd hlt (Nat.lt_irrefl _)
      · cases hd.symm.trans hdisposed
    · exact ho run s hs hw hold
  -- what the provider waits for is called off together with its generation
  have hcallOff : ∀ {run : Nat} {s : Run}, p.isDisposed = false →
      p.callOff.runs[run]? = some s → s.phase = .working → s.isCalledOff = true := by
    intro run s hd hs hw
    rw [getElem?_runs_callOff] at hs
    obtain ⟨r, hr, rfl⟩ := Option.map_eq_some_iff.1 hs
    have hw' : r.phase = .working := hw
    rcases Nat.lt_or_eq_of_le (hp.generation_le run r hr) with hlt | hg
    · exact Bool.or_eq_true_iff.2 (.inl (h run r hr hw' (.inl hlt)))
    · have hpending := hp.pending_of_isOpen hd run ⟨r, hr, hg, by rw [hw']; rfl⟩
      rcases hp.active_of_pending run hpending with hactive | ⟨-, ⟨r', hr', hstuck⟩, -⟩
      · exact Bool.or_eq_true_iff.2 (.inr (beq_iff_eq.2 hactive))
      · cases hr.symm.trans hr'
        rw [hw'] at hstuck
        cases hstuck
  cases hq with
  | stay => exact h
  | start now hd hpend hready => exact hstart now hd h
  | advance now inRuntime trigger hd =>
    have hrenew : (p.renew trigger).CallsOffAllOld := fun run s hs hw _ => hcallOff hd hs hw
    rw [advance_eq]
    split
    · exact hstart now ((isDisposed_callOff p).trans hd) hrenew
    · exact hrenew
  | dispose hd =>
    rw [dispose_eq hd]
    exact fun run s hs hw _ => hcallOff hd hs hw
  | breakDown | lapse | connect | fail => exact hset (by simp) rfl rfl rfl
  | jam run r phase log hr hw hd hg hj hs =>
    refine hset ?_ rfl rfl rfl
    rintro rfl
    cases hs

/-- **A run is called off by a reset or by the disposal.** -/
theorem Change.calledOff_cases {p q : Provider} (h : Change p q) {run : Nat} {s : Run}
    (hs : q.runs[run]? = some s) (hoff : s.isCalledOff = true) :
    (∃ r, p.runs[run]? = some r ∧ r.isCalledOff = true) ∨ q.generation = p.generation + 1
      ∨ p.isDisposed = false ∧ q.isDisposed = true := by
  have hset : ∀ {o : Provider} {k : Nat} {phase : RunPhase}, o.runs = p.runs →
      (o.setPhase k phase).runs[run]? = some s →
      ∃ r, p.runs[run]? = some r ∧ r.isCalledOff = true := by
    intro o k phase hruns hs
    rw [getElem?_runs_setPhase, hruns] at hs
    obtain ⟨r, hr, rfl⟩ := Option.map_eq_some_iff.1 hs
    refine ⟨r, hr, ?_⟩
    split at hoff <;> exact hoff
  cases h with
  | stay => exact .inl ⟨s, hs, hoff⟩
  | start now hd hpend hready =>
    rw [getElem?_runs_start] at hs
    split at hs
    · cases hs
      cases hoff
    · exact .inl ⟨s, hs, hoff⟩
  | advance now inRuntime trigger hd => exact .inr (.inl (generation_advance ..))
  | dispose hd => exact .inr (.inr ⟨hd, isDisposed_dispose p⟩)
  | breakDown | lapse | connect | fail | jam => exact .inl (hset rfl hs)

end ClusterLink.Provider
