import ClusterLink.Proofs.Provider.Change

/-!
# What a provider holds fits together

The slot, the run that can be called off, the generation and the runs of a provider are separate
fields, and no change may let them fall apart. `Provider.Coherent` says how they fit together: what
is ready belongs to the present generation, a pending slot names the one run of that generation
which has not been applied, and that run can be called off.

The last point has an exception. If a run fails and the delay until the next one cannot be drawn,
the provider keeps waiting for it while there is no run to call off any more (`Provider.IsJammed`).

`Provider.Coherent.change` shows that every change keeps a provider coherent.
-/

namespace ClusterLink.Provider

/-- **The run is of the present generation and has not been applied.** -/
def IsOpen (p : Provider) (run : Nat) : Prop :=
  ∃ r, p.runs[run]? = some r ∧ r.generation = p.generation ∧ r.phase.isEnded = false

/-- **The provider waits for a run that nothing can settle**: the run broke down, it is not one to
call off, and the delay after its failure cannot be drawn. -/
def IsJammed (p : Provider) (run : Nat) : Prop :=
  p.activeRun = none ∧ (∃ r, p.runs[run]? = some r ∧ r.phase.isStuck = true)
    ∧ Jams p.backoff

/-- **The fields of a provider fit together.** -/
structure Coherent (p : Provider) : Prop where
  slot_of_isDisposed : p.isDisposed = true → p.slot = .empty
  ready : ∀ c, p.slot = .ready c → c.generation = p.generation ∧ c.trigger = p.trigger
  isOpen_of_pending : ∀ run, p.slot = .pending run → p.IsOpen run
  pending_of_isOpen : p.isDisposed = false → ∀ run, p.IsOpen run → p.slot = .pending run
  eq_of_isOpen : ∀ run run', p.IsOpen run → p.IsOpen run' → run = run'
  pending_of_active : ∀ run, p.activeRun = some run → p.slot = .pending run
  active_of_pending : ∀ run, p.slot = .pending run → p.activeRun = some run ∨ p.IsJammed run
  generation_le : ∀ (run : Nat) (r : Run), p.runs[run]? = some r → r.generation ≤ p.generation
  trigger_eq : ∀ (run : Nat) (r : Run), p.runs[run]? = some r → r.generation = p.generation →
    r.trigger = p.trigger

/-! ## Which runs are open after a change -/

/-- A run that ends is no longer open, and the others stay as they are. -/
theorem isOpen_setPhase_of_isEnded {p : Provider} {run k : Nat} {phase : RunPhase}
    (h : phase.isEnded = true) : (p.setPhase run phase).IsOpen k ↔ k ≠ run ∧ p.IsOpen k := by
  unfold IsOpen
  rw [getElem?_runs_setPhase, generation_setPhase]
  by_cases hk : run = k
  · subst hk
    simp [h]
  · simp [hk, Ne.symm hk]

/-- A run that breaks down stays open if it was. -/
theorem isOpen_setPhase_of_not_isEnded {p : Provider} {run k : Nat} {r : Run} {phase : RunPhase}
    (hr : p.runs[run]? = some r) (hw : r.phase.isEnded = false) (h : phase.isEnded = false) :
    (p.setPhase run phase).IsOpen k ↔ p.IsOpen k := by
  unfold IsOpen
  rw [getElem?_runs_setPhase, generation_setPhase]
  by_cases hk : run = k
  · subst hk
    simp [hr, hw, h]
  · simp [hk]

/-- The run that starts is open, and the others stay as they are. -/
theorem isOpen_start {p : Provider} {now : Instant} {k : Nat} :
    (p.start now).IsOpen k ↔ k = p.runs.length ∨ p.IsOpen k := by
  unfold IsOpen
  rw [getElem?_runs_start, generation_start]
  by_cases hk : k = p.runs.length
  · simp [hk, RunPhase.isEnded]
  · simp [hk]

/-- No run is open when a new generation begins. -/
theorem not_isOpen_renew {p : Provider}
    (hle : ∀ (run : Nat) (r : Run), p.runs[run]? = some r → r.generation ≤ p.generation)
    (trigger : Trigger) (k : Nat) : ¬(p.renew trigger).IsOpen k := by
  rintro ⟨r', hr', hg, -⟩
  obtain ⟨r, hr, rfl⟩ : ∃ r, p.runs[k]? = some r
      ∧ { r with isCalledOff := r.isCalledOff || p.activeRun == some k } = r' :=
    Option.map_eq_some_iff.1 ((getElem?_runs_callOff p k).symm.trans hr')
  have hle' : r.generation ≤ p.generation := hle k r hr
  have hg' : r.generation = p.generation + 1 := hg
  omega

/-- The runs of `q` are runs of `p`, as far as generations and triggers go. -/
def KeepsRuns (p q : Provider) : Prop :=
  ∀ (k : Nat) (r : Run), q.runs[k]? = some r → ∃ r', p.runs[k]? = some r'
    ∧ r'.generation = r.generation ∧ r'.trigger = r.trigger

theorem keepsRuns_callOff (p : Provider) : KeepsRuns p p.callOff := by
  intro k r hr
  rw [getElem?_runs_callOff] at hr
  obtain ⟨r', hr', rfl⟩ := Option.map_eq_some_iff.1 hr
  exact ⟨r', hr', rfl, rfl⟩

theorem keepsRuns_setPhase (p : Provider) (run : Nat) (phase : RunPhase) :
    KeepsRuns p (p.setPhase run phase) := by
  intro k r hr
  rw [getElem?_runs_setPhase] at hr
  obtain ⟨r', hr', rfl⟩ := Option.map_eq_some_iff.1 hr
  refine ⟨r', hr', ?_⟩
  split <;> exact ⟨rfl, rfl⟩

/-- Calling a run off opens no run. -/
theorem isOpen_of_isOpen_callOff {p : Provider} {k : Nat} (h : p.callOff.IsOpen k) :
    p.IsOpen k := by
  obtain ⟨r, hr, hg, hw⟩ := h
  rw [getElem?_runs_callOff] at hr
  obtain ⟨r', hr', rfl⟩ := Option.map_eq_some_iff.1 hr
  exact ⟨r', hr', hg.trans (generation_callOff p), hw⟩

/-! ## Every change keeps a provider coherent -/

namespace Coherent

variable {p : Provider}

/-- A provider that has done nothing yet is coherent. -/
theorem new (config : BackoffConfig) : Coherent (.new config) where
  slot_of_isDisposed := fun _ => rfl
  ready := fun _ h => nomatch h
  isOpen_of_pending := fun _ h => nomatch h
  pending_of_isOpen := fun _ _ h => by obtain ⟨r, hr, -⟩ := h; simp [Provider.new] at hr
  eq_of_isOpen := fun _ _ h => by obtain ⟨r, hr, -⟩ := h; simp [Provider.new] at hr
  pending_of_active := fun _ h => nomatch h
  active_of_pending := fun _ h => nomatch h
  generation_le := fun _ _ h => by simp [Provider.new] at h
  trigger_eq := fun _ _ h => by simp [Provider.new] at h

/-- With no run open, a run may start. -/
theorem start (h : Coherent p) (hd : p.isDisposed = false) (hp : ∀ run, p.slot ≠ .pending run)
    (now : Instant) : Coherent (p.start now) := by
  -- the run that starts is the only open one, as an open one would have been pending
  have hopen : ∀ k, ¬p.IsOpen k := fun k hk => hp k (h.pending_of_isOpen hd k hk)
  have honly : ∀ k, (p.start now).IsOpen k → k = p.runs.length := fun k hk =>
    (isOpen_start.1 hk).resolve_right (hopen k)
  constructor
  case slot_of_isDisposed =>
    intro hd'
    exact absurd (hd.symm.trans hd') Bool.false_ne_true
  case ready =>
    intro c hc
    cases hc
  case isOpen_of_pending =>
    intro run hrun
    cases hrun
    exact isOpen_start.2 (.inl rfl)
  case pending_of_isOpen =>
    intro _ run hrun
    rw [honly run hrun]
    rfl
  case eq_of_isOpen =>
    intro run run' hrun hrun'
    rw [honly run hrun, honly run' hrun']
  case pending_of_active =>
    intro run hrun
    cases hrun
    rfl
  case active_of_pending =>
    intro run hrun
    cases hrun
    exact .inl rfl
  case generation_le =>
    intro run r hr
    rw [getElem?_runs_start] at hr
    split at hr
    · cases hr
      exact Nat.le_refl _
    · exact h.generation_le run r hr
  case trigger_eq =>
    intro run r hr hg
    rw [getElem?_runs_start] at hr
    split at hr
    · cases hr
      rfl
    · exact h.trigger_eq run r hr hg

/-- A new generation may begin at any time. -/
theorem renew (h : Coherent p) (trigger : Trigger) : Coherent (p.renew trigger) := by
  have hopen : ∀ k, ¬(p.renew trigger).IsOpen k := not_isOpen_renew h.generation_le trigger
  have hactive : (p.renew trigger).activeRun = none := activeRun_callOff p
  have hold : ∀ (run : Nat) (r : Run), (p.renew trigger).runs[run]? = some r →
      r.generation ≤ p.generation := by
    intro run r hr
    obtain ⟨r', hr', hg, -⟩ := keepsRuns_callOff p run r hr
    rw [← hg]
    exact h.generation_le run r' hr'
  constructor
  case slot_of_isDisposed =>
    intro _
    rfl
  case ready =>
    intro c hc
    cases hc
  case isOpen_of_pending =>
    intro run hrun
    cases hrun
  case pending_of_isOpen =>
    intro _ run hrun
    exact absurd hrun (hopen run)
  case eq_of_isOpen =>
    intro run run' hrun
    exact absurd hrun (hopen run)
  case pending_of_active =>
    intro run hrun
    rw [hactive] at hrun
    cases hrun
  case active_of_pending =>
    intro run hrun
    cases hrun
  case generation_le =>
    intro run r hr
    exact Nat.le_succ_of_le (hold run r hr)
  case trigger_eq =>
    intro run r hr hg
    have hle := hold run r hr
    have hg' : r.generation = p.generation + 1 := hg
    omega

theorem advance (h : Coherent p) (hd : p.isDisposed = false) (now : Instant) (inRuntime : Bool)
    (trigger : Trigger) : Coherent (p.advance now inRuntime trigger) := by
  rw [advance_eq]
  split
  · exact (h.renew trigger).start (by rw [Provider.renew]; simpa using hd)
      (fun run hrun => nomatch hrun) now
  · exact h.renew trigger

/-- What is said of the runs carries over to a provider that keeps them. -/
theorem generation_le_of_keepsRuns (h : Coherent p) {q : Provider} (hq : KeepsRuns p q)
    (hg : q.generation = p.generation) (run : Nat) (r : Run) (hr : q.runs[run]? = some r) :
    r.generation ≤ q.generation := by
  obtain ⟨r', hr', hg', -⟩ := hq run r hr
  rw [← hg', hg]
  exact h.generation_le run r' hr'

theorem trigger_eq_of_keepsRuns (h : Coherent p) {q : Provider} (hq : KeepsRuns p q)
    (hg : q.generation = p.generation) (ht : q.trigger = p.trigger) (run : Nat) (r : Run)
    (hr : q.runs[run]? = some r) (hrg : r.generation = q.generation) : r.trigger = q.trigger := by
  obtain ⟨r', hr', hg', ht'⟩ := hq run r hr
  rw [← ht', ht]
  exact h.trigger_eq run r' hr' (hg'.trans (hrg.trans hg))

theorem dispose (h : Coherent p) (hd : p.isDisposed = false) : Coherent p.dispose := by
  rw [dispose_eq hd]
  constructor
  case slot_of_isDisposed =>
    intro _
    rfl
  case ready =>
    intro c hc
    cases hc
  case isOpen_of_pending =>
    intro run hrun
    cases hrun
  case pending_of_isOpen =>
    intro hd'
    cases hd'
  case eq_of_isOpen =>
    intro run run' hrun hrun'
    exact h.eq_of_isOpen run run' (isOpen_of_isOpen_callOff hrun) (isOpen_of_isOpen_callOff hrun')
  case pending_of_active =>
    intro run hrun
    rw [show _ = _ from activeRun_callOff p] at hrun
    cases hrun
  case active_of_pending =>
    intro run hrun
    cases hrun
  case generation_le =>
    exact h.generation_le_of_keepsRuns (keepsRuns_callOff p) (generation_callOff p)
  case trigger_eq =>
    exact h.trigger_eq_of_keepsRuns (keepsRuns_callOff p) (generation_callOff p)
      (trigger_callOff p)

/-- The task of a run may break down. -/
theorem breakDown (h : Coherent p) {run : Nat} {r : Run} (hr : p.runs[run]? = some r)
    (hw : r.phase.isEnded = false) : Coherent (p.setPhase run .brokenDown) := by
  have hopen : ∀ k, (p.setPhase run .brokenDown).IsOpen k ↔ p.IsOpen k := fun k =>
    isOpen_setPhase_of_not_isEnded hr hw rfl
  constructor
  case slot_of_isDisposed => exact h.slot_of_isDisposed
  case ready => exact h.ready
  case isOpen_of_pending =>
    intro k hk
    exact (hopen k).2 (h.isOpen_of_pending k hk)
  case pending_of_isOpen =>
    intro hd k hk
    exact h.pending_of_isOpen hd k ((hopen k).1 hk)
  case eq_of_isOpen =>
    intro k k' hk hk'
    exact h.eq_of_isOpen k k' ((hopen k).1 hk) ((hopen k').1 hk')
  case pending_of_active => exact h.pending_of_active
  case active_of_pending =>
    intro k hk
    refine (h.active_of_pending k hk).imp_right ?_
    -- the provider may have jammed for the very run whose task breaks down
    rintro ⟨ha, ⟨s, hs, hstuck⟩, hj⟩
    refine ⟨ha, ⟨_, by rw [getElem?_runs_setPhase, hs]; rfl, ?_⟩, hj⟩
    split
    · rfl
    · exact hstuck
  case generation_le => exact h.generation_le_of_keepsRuns (keepsRuns_setPhase p run _) rfl
  case trigger_eq => exact h.trigger_eq_of_keepsRuns (keepsRuns_setPhase p run _) rfl rfl

/-- A run may lapse that the provider does not wait for. -/
theorem lapse (h : Coherent p) {run : Nat} (hp : p.slot ≠ .pending run)
    (outcome : Option (Except Error Connection)) (log : List Metric) :
    Coherent ({ p with log := log }.setPhase run (.ended outcome)) := by
  have hopen : ∀ k, ({ p with log := log }.setPhase run (.ended outcome)).IsOpen k
      ↔ k ≠ run ∧ p.IsOpen k := fun k => isOpen_setPhase_of_isEnded rfl
  have hne : ∀ k, p.slot = .pending k → k ≠ run := fun k hk hkr => hp (hkr ▸ hk)
  constructor
  case slot_of_isDisposed => exact h.slot_of_isDisposed
  case ready => exact h.ready
  case isOpen_of_pending =>
    intro k hk
    exact (hopen k).2 ⟨hne k hk, h.isOpen_of_pending k hk⟩
  case pending_of_isOpen =>
    intro hd k hk
    exact h.pending_of_isOpen hd k ((hopen k).1 hk).2
  case eq_of_isOpen =>
    intro k k' hk hk'
    exact h.eq_of_isOpen k k' ((hopen k).1 hk).2 ((hopen k').1 hk').2
  case pending_of_active => exact h.pending_of_active
  case active_of_pending =>
    intro k hk
    refine (h.active_of_pending k hk).imp_right ?_
    rintro ⟨ha, ⟨s, hs, hstuck⟩, hj⟩
    refine ⟨ha, ⟨s, ?_, hstuck⟩, hj⟩
    rw [getElem?_runs_setPhase]
    simp [hs, Ne.symm (hne k hk)]
  case generation_le => exact h.generation_le_of_keepsRuns (keepsRuns_setPhase _ run _) rfl
  case trigger_eq => exact h.trigger_eq_of_keepsRuns (keepsRuns_setPhase _ run _) rfl rfl

/-- The open run may end in an outcome that leaves the slot ready or failed. -/
theorem settle (h : Coherent p) {run : Nat} (hrun : p.IsOpen run) (hd : p.isDisposed = false)
    (outcome : Option (Except Error Connection)) (slot : Slot) (backoff : Backoff)
    (log : List Metric) (hs : ∀ k, slot ≠ .pending k)
    (hc : ∀ c, slot = .ready c → c.generation = p.generation ∧ c.trigger = p.trigger) :
    Coherent ((p.holding slot backoff log).setPhase run (.ended outcome)) := by
  have hopen : ∀ k, ¬((p.holding slot backoff log).setPhase run (.ended outcome)).IsOpen k := by
    intro k hk
    have hended : (RunPhase.ended outcome).isEnded = true := rfl
    obtain ⟨hne, hk'⟩ := (isOpen_setPhase_of_isEnded hended).1 hk
    exact hne (h.eq_of_isOpen k run hk' hrun)
  constructor
  case slot_of_isDisposed =>
    intro hd'
    exact absurd (hd.symm.trans hd') Bool.false_ne_true
  case ready => exact hc
  case isOpen_of_pending =>
    intro k hk
    exact absurd hk (hs k)
  case pending_of_isOpen =>
    intro _ k hk
    exact absurd hk (hopen k)
  case eq_of_isOpen =>
    intro k k' hk
    exact absurd hk (hopen k)
  case pending_of_active =>
    intro k hk
    cases hk
  case active_of_pending =>
    intro k hk
    exact absurd hk (hs k)
  case generation_le => exact h.generation_le_of_keepsRuns (keepsRuns_setPhase _ run _) rfl
  case trigger_eq => exact h.trigger_eq_of_keepsRuns (keepsRuns_setPhase _ run _) rfl rfl

/-- The open run may jam. -/
theorem jam (h : Coherent p) {run : Nat} {r : Run} (hr : p.runs[run]? = some r)
    (hg : r.generation = p.generation) (hw : r.phase.isEnded = false) (hd : p.isDisposed = false)
    (hj : Jams p.backoff.advance) {phase : RunPhase} (hs : phase.isStuck = true)
    (log : List Metric) :
    Coherent ((p.holding p.slot p.backoff.advance log).setPhase run phase) := by
  have hpending : p.slot = .pending run := h.pending_of_isOpen hd run ⟨r, hr, hg, hw⟩
  have hphase : phase.isEnded = false := by cases phase <;> first | rfl | cases hs
  have hopen : ∀ k, ((p.holding p.slot p.backoff.advance log).setPhase run phase).IsOpen k
      ↔ p.IsOpen k := fun k =>
    isOpen_setPhase_of_not_isEnded (p := p.holding p.slot p.backoff.advance log) hr hw hphase
  constructor
  case slot_of_isDisposed => exact h.slot_of_isDisposed
  case ready => exact h.ready
  case isOpen_of_pending =>
    intro k hk
    exact (hopen k).2 (h.isOpen_of_pending k hk)
  case pending_of_isOpen =>
    intro hd k hk
    exact h.pending_of_isOpen hd k ((hopen k).1 hk)
  case eq_of_isOpen =>
    intro k k' hk hk'
    exact h.eq_of_isOpen k k' ((hopen k).1 hk) ((hopen k').1 hk')
  case pending_of_active =>
    intro k hk
    cases hk
  case active_of_pending =>
    -- this is what the exception is for
    intro k hk
    have hk' : k = run := Slot.pending.inj (hk.symm.trans hpending)
    subst hk'
    refine .inr ⟨rfl, ⟨{ r with phase := phase }, ?_, hs⟩, hj⟩
    rw [getElem?_runs_setPhase]
    simp [hr]
  case generation_le => exact h.generation_le_of_keepsRuns (keepsRuns_setPhase _ run _) rfl
  case trigger_eq => exact h.trigger_eq_of_keepsRuns (keepsRuns_setPhase _ run _) rfl rfl

/-- **Every change keeps a provider coherent.** -/
theorem change (h : Coherent p) {q : Provider} (hq : Change p q) : Coherent q := by
  cases hq with
  | stay => exact h
  | start now hd hp _ => exact h.start hd hp now
  | advance now inRuntime trigger hd => exact h.advance hd now inRuntime trigger
  | dispose hd => exact h.dispose hd
  | breakDown run r hr hw => exact h.breakDown hr hw
  | lapse run r outcome log hr hw ho =>
    -- a pending slot would name a run of the present generation, and that does not lapse
    refine h.lapse (fun hp => ?_) outcome log
    obtain ⟨r', hr', hg, -⟩ := h.isOpen_of_pending run hp
    rcases ho with ⟨hd, -⟩ | ⟨-, hg', -⟩
    · rw [h.slot_of_isDisposed hd] at hp
      cases hp
    · rw [hr] at hr'
      cases hr'
      exact hg' hg.symm
  | connect run r link log hr hw hd hg =>
    refine h.settle ⟨r, hr, hg.symm, hw⟩ hd _ _ _ log (fun _ => nofun) (fun c hc => ?_)
    cases hc
    exact ⟨hg.symm, h.trigger_eq run r hr hg.symm⟩
  | fail run r error retryAt log hr hw hd hg =>
    exact h.settle ⟨r, hr, hg.symm, hw⟩ hd _ _ _ log (fun _ => nofun) (fun _ => nofun)
  | jam run r phase log hr hw hd hg hj hs => exact h.jam hr hg.symm hw hd hj hs log

end Coherent

end ClusterLink.Provider
