import ClusterLink.Proofs.Provider.Signals

/-!
# What a generation comes to

As long as a generation lasts, what its callers are given comes from its own runs. If every run from
some point on ends in a result of some kind, then the provider shows nothing else
(`Provider.Yields.change`), and nobody is given anything else (`Provider.Awaits.advanceCall`).
-/

namespace ClusterLink

namespace Provider

variable {p q : Provider} {P : Except Error Connection → Prop} {first : Nat}

/-- A generation begins by a reset. -/
theorem Change.eq_advance (h : Change p q) (hg : q.generation = p.generation + 1) :
    ∃ now inRuntime trigger, q = p.advance now inRuntime trigger := by
  have hsame : q.generation ≠ p.generation := hg ▸ Nat.succ_ne_self _
  cases h with
  | advance now inRuntime trigger hd => exact ⟨now, inRuntime, trigger, rfl⟩
  | dispose hd =>
    rw [dispose_eq hd] at hsame
    exact absurd (generation_callOff p) hsame
  | _ => exact absurd rfl hsame

/-! ## What is shown -/

/-- **The generation yields such results**: those of its runs from `first` on, and what the provider
shows. The runs before are over. -/
structure Yields (p : Provider) (P : Except Error Connection → Prop) (first : Nat) : Prop where
  first_le : first ≤ p.runs.length
  ready : ∀ c, p.slot = .ready c → P (.ok c)
  failed : ∀ error retryAt, p.slot = .failed error retryAt → P (.error error)
  ended : ∀ (run : Nat) (r : Run), p.runs[run]? = some r → r.generation = p.generation →
    run < first → r.phase.isEnded = true
  phase : ∀ (run : Nat) (r : Run), p.runs[run]? = some r → r.generation = p.generation →
    first ≤ run → r.phase = .working ∨ ∃ result, r.phase = .ended (some result) ∧ P result

/-- A run of the generation that has not ended works, and is none of those before. -/
theorem Yields.working_of_isOpen (h : p.Yields P first) {run : Nat} {r : Run}
    (hr : p.runs[run]? = some r) (hg : r.generation = p.generation) (hw : r.phase.isEnded = false) :
    first ≤ run ∧ r.phase = .working := by
  have hle : first ≤ run := by
    refine Nat.not_lt.1 fun hlt => ?_
    cases hw.symm.trans (h.ended run r hr hg hlt)
  rcases h.phase run r hr hg hle with hworking | ⟨result, hended, -⟩
  · exact ⟨hle, hworking⟩
  · rw [hended] at hw
    cases hw

/-- **The generation goes on yielding such results** if its runs end in no other. -/
theorem Yields.change (h : p.Yields P first) (hq : Change p q) (hg : q.generation = p.generation)
    (hd : q.isDisposed = false) (hj : ¬Jams p.backoff.advance)
    (hruns : ∀ (run : Nat) (r s : Run), p.runs[run]? = some r → r.generation = p.generation →
      r.phase = .working → q.runs[run]? = some s →
      s.phase = .working ∨ ∃ result, s.phase = .ended (some result) ∧ P result) :
    q.Yields P first := by
  have hset : ∀ {o : Provider} {run : Nat} {r : Run} {phase : RunPhase}, o.runs = p.runs →
      p.runs[run]? = some r →
      (o.setPhase run phase).runs[run]? = some { r with phase := phase } := by
    intro o run r phase hruns hr
    rw [getElem?_runs_setPhase, hruns, hr, Option.map_some, if_pos rfl]
  constructor
  case first_le => exact h.first_le.trans hq.length_runs_le
  case ended =>
    intro run s hs hsg hlt
    rcases hq.run_cases hs with ⟨r, hr, hrg, hproceeds⟩ | hstarts
    · have hended := h.ended run r hr (hrg.trans (hsg.trans hg)) hlt
      cases hproceeds with
      | stays hphase => rw [hphase, hended]
      | breaks hw => cases hw.symm.trans hended
      | ends outcome hw => cases hw.symm.trans hended
    · exact absurd (h.first_le.trans (Nat.le_of_eq hstarts.run_eq.symm)) (Nat.not_le.2 hlt)
  case phase =>
    intro run s hs hsg hle
    rcases hq.run_cases hs with ⟨r, hr, hrg, hproceeds⟩ | hstarts
    · have hrg' := hrg.trans (hsg.trans hg)
      rcases h.phase run r hr hrg' hle with hw | ⟨result, hended, hP⟩
      · exact hruns run r s hr hrg' hw hs
      · cases hproceeds with
        | stays hphase => exact .inr ⟨result, hphase.trans hended, hP⟩
        | breaks hw | ends outcome hw =>
          rw [hended] at hw
          cases hw
    · exact .inl hstarts.phase_eq
  case ready =>
    intro c hc
    cases hq with
    | stay | breakDown | lapse => exact h.ready c hc
    | start => exact Slot.noConfusion hc
    | advance now inRuntime trigger =>
      exact absurd hc (slot_advance_ne_ready p now inRuntime trigger c)
    | dispose => cases (isDisposed_dispose p).symm.trans hd
    | fail => exact Slot.noConfusion hc
    | jam run r phase log hr hw hd' hrg hj' => exact absurd hj' hj
    | connect run r link log hr hw hd' hrg =>
      cases hc
      rcases hruns run r _ hr hrg.symm (h.working_of_isOpen hr hrg.symm hw).2 (hset rfl hr)
        with hworking | ⟨result, hended, hP⟩
      · cases hworking
      · cases hended
        exact hP
  case failed =>
    intro error retryAt hs
    cases hq with
    | stay | breakDown | lapse => exact h.failed error retryAt hs
    | start => exact Slot.noConfusion hs
    | advance now inRuntime trigger =>
      rw [generation_advance] at hg
      exact absurd hg (Nat.succ_ne_self _)
    | dispose => cases (isDisposed_dispose p).symm.trans hd
    | connect => exact Slot.noConfusion hs
    | jam run r phase log hr hw hd' hrg hj' => exact absurd hj' hj
    | fail run r error' retryAt' log hr hw hd' hrg =>
      cases hs
      rcases hruns run r _ hr hrg.symm (h.working_of_isOpen hr hrg.symm hw).2 (hset rfl hr)
        with hworking | ⟨result, hended, hP⟩
      · cases hworking
      · cases hended
        exact hP

/-- **A generation that begins has yielded nothing yet.** -/
theorem yields_of_advance (hp : p.Coherent) (hq : Change p q)
    (hg : q.generation = p.generation + 1) :
    q.Yields P 0 := by
  have hnew : ∀ (run : Nat) (s : Run), q.runs[run]? = some s → s.generation = q.generation →
      s.phase = .working := by
    intro run s hs hsg
    rcases hq.run_cases hs with ⟨r, hr, hrg, -⟩ | hstarts
    · -- the runs that there are belong to earlier generations
      have hle := hp.generation_le run r hr
      omega
    · exact hstarts.phase_eq
  obtain ⟨now, inRuntime, trigger, rfl⟩ := hq.eq_advance hg
  refine ⟨Nat.zero_le _, fun c hc => ?_, fun error retryAt hs => ?_,
    fun run r hr hrg hlt => absurd hlt (Nat.not_lt_zero run), fun run r hr hrg hle =>
      .inl (hnew run r hr hrg)⟩
  · exact absurd hc (slot_advance_ne_ready p now inRuntime trigger c)
  · rw [advance_eq] at hs
    split at hs <;> exact Slot.noConfusion hs

/-! ## What callers are given -/

/-- **What a call comes to** in such a generation: it is given such a result. -/
def Awaits (p : Provider) (P : Except Error Connection → Prop) (first : Nat) : CallPhase → Prop
  | .forcing _ | .asking | .gone => True
  | .waiting run => first ≤ run ∧ ∃ r, p.runs[run]? = some r ∧ r.generation = p.generation
  | .done result => P result
  | .brokenDown => False

theorem Awaits.change (hq : Change p q) (hg : q.generation = p.generation) {phase : CallPhase}
    (h : p.Awaits P first phase) : q.Awaits P first phase := by
  cases phase with
  | waiting run =>
    obtain ⟨hle, r, hr, hrg⟩ := h
    obtain ⟨s, hs, hsg, -⟩ := hq.run_persists hr
    exact ⟨hle, s, hs, hsg.trans (hrg.trans hg.symm)⟩
  | _ => exact h

/-- **Nobody is given anything else.** -/
theorem Awaits.advanceCall (hy : p.Yields P first) (hp : p.Coherent) (hd : p.isDisposed = false)
    {phase : CallPhase} (h : p.Awaits P first phase) (now : Instant) (draw : Float) :
    (p.advanceCall phase now draw).2.Awaits P first (p.advanceCall phase now draw).1 := by
  have hstart : (p.start now).Awaits P first (.waiting p.runs.length) := by
    refine ⟨hy.first_le, { generation := p.generation, trigger := p.trigger, started := now }, ?_,
      rfl⟩
    rw [getElem?_runs_start, if_pos rfl]
  cases phase with
  | forcing trigger => trivial
  | asking =>
    rw [Provider.advanceCall, current, if_neg (by simp [hd])]
    cases hs : p.slot with
    | ready c => exact hy.ready c hs
    | pending run =>
      obtain ⟨r, hr, hrg, hw⟩ := hp.isOpen_of_pending run hs
      exact ⟨(hy.working_of_isOpen hr hrg hw).1, r, hr, hrg⟩
    | failed error retryAt =>
      dsimp only
      split
      · exact hy.failed error retryAt hs
      · exact hstart
    | empty => exact hstart
  | waiting run =>
    obtain ⟨hle, r, hr, hrg⟩ := h
    rw [Provider.advanceCall, poll, hr]
    dsimp only
    rcases hy.phase run r hr hrg hle with hw | ⟨result, hended, hP⟩
    · rw [hw]
      exact ⟨hle, r, hr, hrg⟩
    · rw [hended]
      exact hP
  | _ => exact h

/-- **A call that goes on after its step waits for the run that is under way**, unless it replaces
the connection. -/
theorem Awaits.pending_of_isLive (hy : p.Yields P first) (hp : p.Coherent)
    (hd : p.isDisposed = false) {phase : CallPhase} (h : p.Awaits P first phase)
    (hforce : ∀ trigger, phase ≠ .forcing trigger) {now : Instant} {draw : Float}
    (hlive : (p.advanceCall phase now draw).1.isLive = true) :
    ∃ run, (p.advanceCall phase now draw).1 = .waiting run
      ∧ (p.advanceCall phase now draw).2.slot = .pending run := by
  cases phase with
  | forcing trigger => exact absurd rfl (hforce trigger)
  | asking =>
    rw [Provider.advanceCall, current, if_neg (by simp [hd])] at hlive ⊢
    cases hs : p.slot with
    | ready c =>
      rw [hs] at hlive
      cases hlive
    | pending run => exact ⟨run, rfl, hs⟩
    | failed error retryAt =>
      rw [hs] at hlive
      dsimp only at hlive ⊢
      split
      · rename_i hlt
        rw [if_pos hlt] at hlive
        cases hlive
      · exact ⟨p.runs.length, rfl, rfl⟩
    | empty => exact ⟨p.runs.length, rfl, rfl⟩
  | waiting run =>
    obtain ⟨hle, r, hr, hrg⟩ := h
    rw [Provider.advanceCall, poll, hr] at hlive ⊢
    dsimp only at hlive ⊢
    rcases hy.phase run r hr hrg hle with hw | ⟨result, hended, -⟩
    · rw [hw]
      exact ⟨run, rfl, hp.pending_of_isOpen hd run ⟨r, hr, hrg, by rw [hw]; rfl⟩⟩
    · rw [hended] at hlive
      cases hlive
  | done | brokenDown | gone => cases hlive

end Provider

end ClusterLink
