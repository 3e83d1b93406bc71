import ClusterLink.Proofs.Provider.Change

/-!
# Superseded runs

A run is superseded once its generation is over or the provider is disposed of. However it ends
then – in a link, an error or a breakdown – it is merely spent (`Provider.Spends`): the provider
stays as it is, and whoever waits for the run is told that it was replaced, or that the provider was
disposed of (`Provider.poll_of_isSpent`).
-/

namespace ClusterLink

/-- Nothing can come of the run any more. -/
def Run.IsSuperseded (r : Run) (generation : Nat) (isDisposed : Bool) : Prop :=
  isDisposed = true ∨ r.generation < generation

/-- **The run has come to its end without any effect.** -/
inductive RunPhase.IsSpent (isDisposed : Bool) : RunPhase → Prop where
  | brokenDown : IsSpent isDisposed .brokenDown
  | replaced : IsSpent isDisposed (.ended none)
  | disposed (hd : isDisposed = true) :
      IsSpent isDisposed (.ended (some (.error Provider.disposedError)))

theorem Run.IsSuperseded.mono {r : Run} {generation generation' : Nat}
    {isDisposed isDisposed' : Bool} (h : r.IsSuperseded generation isDisposed)
    (hg : generation ≤ generation') (hd : isDisposed = true → isDisposed' = true) :
    r.IsSuperseded generation' isDisposed' :=
  h.imp hd fun hlt => Nat.lt_of_lt_of_le hlt hg

theorem RunPhase.IsSpent.mono {phase : RunPhase} {isDisposed isDisposed' : Bool}
    (h : phase.IsSpent isDisposed) (hd : isDisposed = true → isDisposed' = true) :
    phase.IsSpent isDisposed' := by
  cases h with
  | brokenDown => exact .brokenDown
  | replaced => exact .replaced
  | disposed h => exact .disposed (hd h)

theorem RunPhase.IsSpent.ne_working {phase : RunPhase} {isDisposed : Bool}
    (h : phase.IsSpent isDisposed) : phase ≠ .working := by
  rintro rfl
  cases h

namespace Provider

/-- The waiter is not served: its run was replaced, or the provider was disposed of. -/
def Finding.IsTurnedAway (f : Finding) : Prop :=
  f = .replaced ∨ f = .outcome (.error disposedError)

/-! ## Runs that are over -/

section

variable {p : Provider} {run : Nat} {r : Run}

/-- A run that works ends: that is reported, and applied as far as possible. -/
theorem finish_of_working (hr : p.runs[run]? = some r) (hw : r.phase = .working)
    (ha : p.isAbandoned = false) (result : Except Error Link) (now : Instant) (draw : Float) :
    p.finish run result now draw
      = let q := { p with log := p.log ++ [endReport r result now] }
        if !result.isOk && q.cannotFail r draw then q.halfFail.breakDown run
        else q.settle run r result now draw := by
  unfold finish
  rw [hr]
  dsimp only
  rw [hw]
  exact if_neg (by simp [ha])

/-- A run that does not work any more cannot end. -/
theorem finish_of_phase_ne (hr : p.runs[run]? = some r) (h : r.phase ≠ .working)
    (result : Except Error Link) (now : Instant) (draw : Float) :
    p.finish run result now draw = p := by
  unfold finish
  rw [hr]
  dsimp only
  split
  · rename_i hw
    exact absurd hw h
  · rfl

/-- A run that does not work any more cannot break down. -/
theorem breakDown_of_phase_ne (hr : p.runs[run]? = some r) (h : r.phase ≠ .working) :
    p.breakDown run = p := by
  unfold breakDown phase?
  rw [hr, Option.map_some]
  split
  · rename_i hw
    exact absurd (Option.some.inj hw) h
  · rfl

/-- A failure of a superseded run can be applied: it has no effect. -/
theorem cannotFail_of_isSuperseded (h : r.IsSuperseded p.generation p.isDisposed) (draw : Float) :
    p.cannotFail r draw = false := by
  unfold cannotFail
  rcases h with hd | hlt
  · simp [hd]
  · have hne : (p.generation == r.generation) = false := beq_eq_false_iff_ne.2 (by omega)
    simp [hne]

/-- **A superseded run has no effect**: its waiters are told that it was replaced, or that the
provider was disposed of. -/
theorem complete_of_isSuperseded (h : r.IsSuperseded p.generation p.isDisposed)
    (result : Except Error Link) (now : Instant) (draw : Float) :
    (p.complete r result now draw).2 = p
      ∧ ((p.complete r result now draw).1 = none ∨ p.isDisposed = true
        ∧ (p.complete r result now draw).1 = some (.error disposedError)) := by
  cases hd : p.isDisposed with
  | true =>
    rw [complete_of_isDisposed hd]
    exact ⟨rfl, .inr ⟨rfl, rfl⟩⟩
  | false =>
    rcases h with h | hlt
    · cases hd.symm.trans h
    · rw [complete_of_generation_ne hd (by omega)]
      exact ⟨rfl, .inl rfl⟩

/-- A superseded run that is settled is spent. -/
theorem settle_of_isSuperseded (h : r.IsSuperseded p.generation p.isDisposed)
    (result : Except Error Link) (now : Instant) (draw : Float) :
    ∃ phase : RunPhase, phase.IsSpent p.isDisposed
      ∧ p.settle run r result now draw = p.setPhase run phase := by
  obtain ⟨hsame, houtcome⟩ := complete_of_isSuperseded h result now draw
  refine ⟨_, ?_, by rw [settle, hsame]⟩
  rcases houtcome with houtcome | ⟨hd, houtcome⟩
  · rw [houtcome]
    exact .replaced
  · rw [houtcome]
    exact .disposed hd

/-- **A run is spent**, if it works still, and nothing else changes but what is reported. -/
def Spends (p : Provider) (run : Nat) (q : Provider) : Prop :=
  p.phase? run ≠ some .working ∧ q = p
    ∨ p.phase? run = some .working ∧ ∃ (phase : RunPhase) (log : List Metric),
      phase.IsSpent p.isDisposed ∧ q = { p with log := log }.setPhase run phase

/-- A superseded run that ends in a result is spent. -/
theorem spends_finish (ha : p.isAbandoned = false)
    (h : ∀ r, p.runs[run]? = some r → r.IsSuperseded p.generation p.isDisposed)
    (result : Except Error Link) (now : Instant) (draw : Float) :
    p.Spends run (p.finish run result now draw) := by
  unfold Spends phase?
  cases hr : p.runs[run]? with
  | none =>
    refine .inl ⟨nofun, ?_⟩
    unfold finish
    rw [hr]
  | some r =>
    rw [Option.map_some, Option.some.injEq]
    by_cases hw : r.phase = .working
    · refine .inr ⟨hw, ?_⟩
      obtain ⟨phase, hspent, hsettle⟩ := settle_of_isSuperseded
        (p := { p with log := p.log ++ [endReport r result now] }) (h r hr) result now draw
      have hcannot : cannotFail { p with log := p.log ++ [endReport r result now] } r draw
          = false := cannotFail_of_isSuperseded (h r hr) draw
      refine ⟨phase, p.log ++ [endReport r result now], hspent, ?_⟩
      rw [finish_of_working hr hw ha, ← hsettle]
      dsimp only
      rw [hcannot, Bool.and_false, if_neg Bool.false_ne_true]
    · exact .inl ⟨fun h => hw (Option.some.inj h), finish_of_phase_ne hr hw result now draw⟩

/-- A run that breaks down is spent. -/
theorem spends_breakDown (p : Provider) (run : Nat) : p.Spends run (p.breakDown run) := by
  unfold Spends breakDown
  split
  · rename_i hw
    exact .inr ⟨hw, .brokenDown, p.log, .brokenDown, rfl⟩
  · rename_i hw
    exact .inl ⟨hw, rfl⟩

/-- A run that stays in its phase leaves the provider as it is. -/
theorem setPhase_self (hr : p.runs[run]? = some r) : p.setPhase run r.phase = p := by
  have hruns : (p.setPhase run r.phase).runs = p.runs := by
    refine List.ext_getElem? fun k => ?_
    rw [getElem?_runs_setPhase]
    cases hs : p.runs[k]? with
    | none => rfl
    | some s =>
      rw [Option.map_some]
      split
      · rename_i hk
        cases hr.symm.trans (hk ▸ hs)
        rfl
      · rfl
  exact congrArg (fun runs => { p with runs := runs }) hruns

/-- **A waiter of a spent run** is told that the run was replaced, or that the provider was disposed
of, and the run stays spent. -/
theorem poll_of_isSpent (hr : p.runs[run]? = some r) (ha : p.isAbandoned = false)
    (h : r.IsSuperseded p.generation p.isDisposed) (hspent : r.phase.IsSpent p.isDisposed)
    (now : Instant) (draw : Float) :
    ((p.poll run now draw).1 = .replaced
        ∨ p.isDisposed = true ∧ (p.poll run now draw).1 = .outcome (.error disposedError))
      ∧ ∃ phase : RunPhase, phase.IsSpent p.isDisposed
        ∧ (p.poll run now draw).2 = p.setPhase run phase := by
  have hself := setPhase_self hr
  unfold poll
  rw [hr]
  dsimp only
  generalize r.phase = phase at hspent hself
  cases hspent with
  | replaced => exact ⟨.inl rfl, _, .replaced, hself.symm⟩
  | disposed hd => exact ⟨.inr ⟨hd, rfl⟩, _, .disposed hd, hself.symm⟩
  | brokenDown =>
    dsimp only
    rw [if_neg (by simp [ha]), cannotFail_of_isSuperseded h, if_neg Bool.false_ne_true]
    refine ⟨?_, settle_of_isSuperseded h _ now draw⟩
    obtain ⟨-, houtcome | ⟨hd, houtcome⟩⟩ :=
      complete_of_isSuperseded h (.error breakdownError) now draw
    · exact .inl (by rw [houtcome]; rfl)
    · exact .inr ⟨hd, by rw [houtcome]; rfl⟩

end

end Provider

end ClusterLink
