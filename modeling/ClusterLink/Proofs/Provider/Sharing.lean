import ClusterLink.Proofs.Provider.Answers
import ClusterLink.Proofs.Time.Spread
import Mathlib.Data.Nat.Count
import Mathlib.Logic.Function.Iterate

/-!
# One connection for all callers

A provider never works for two runs of one generation at a time. Once a run of a generation has
connected no other is started in that generation, so that all connections that are handed out with
one generation are the same connection, and every further run of the generation is owed to a failure
that was shown to callers.

`Provider.Applies` says that a run is applied from one instant to the next, and `failures` counts
the failures that were applied in a generation. What one change does to a slot that is ready or
failed, and to the number of runs, is followed through a whole history.

The run of a pending slot is one that a reset calls off, with the one exception of a jam.
-/

namespace ClusterLink

namespace Provider

/-! ## One change -/

/-- **A run is applied**: it is of the present generation, and it ends in the result. -/
structure Applies (p q : Provider) (run : Nat) (result : Except Error Connection) : Prop where
  isDisposed_eq : p.isDisposed = false
  isOpen : p.IsOpen run
  ended : ∃ r, q.runs[run]? = some r ∧ r.phase = .ended (some result)

/-- A run may start in the present generation. -/
structure IsIdle (p : Provider) : Prop where
  isDisposed_eq : p.isDisposed = false
  not_pending : ∀ run, p.slot ≠ .pending run
  not_ready : ∀ c, p.slot ≠ .ready c

/-- The number of runs that were started in a generation. -/
def started (p : Provider) (generation : Nat) : Nat :=
  (p.runs.map (·.generation)).count generation

@[simp] theorem started_setPhase (p : Provider) (run : Nat) (phase : RunPhase) (g : Nat) :
    (p.setPhase run phase).started g = p.started g := by
  unfold started
  congr 1
  refine List.ext_getElem? fun k => ?_
  rw [List.getElem?_map, List.getElem?_map, getElem?_runs_setPhase, Option.map_map]
  congr 1
  funext r
  show (if run = k then _ else _ : Run).generation = r.generation
  split <;> rfl

@[simp] theorem started_callOff (p : Provider) (g : Nat) : p.callOff.started g = p.started g := by
  unfold started
  congr 1
  refine List.ext_getElem? fun k => ?_
  rw [List.getElem?_map, List.getElem?_map, getElem?_runs_callOff, Option.map_map]
  rfl

@[simp] theorem started_start (p : Provider) (now : Instant) (g : Nat) :
    (p.start now).started g = p.started g + if p.generation = g then 1 else 0 := by
  show ((p.runs ++ [(_ : Run)]).map (·.generation)).count g = _
  rw [List.map_append, List.count_append]
  simp [started, List.count_singleton]

/-- No run has been started in a later generation. -/
theorem Coherent.started_eq_zero {p : Provider} (h : p.Coherent) {g : Nat} (hg : p.generation < g) :
    p.started g = 0 := by
  refine List.count_eq_zero.2 fun hmem => ?_
  obtain ⟨r, hr, rfl⟩ := List.mem_map.1 hmem
  obtain ⟨k, hk⟩ := List.mem_iff_getElem?.1 hr
  exact absurd (h.generation_le k r hk) (Nat.not_le.2 hg)

/-- An open run that ends in a result is applied. -/
theorem applies_setPhase {p o : Provider} {run : Nat} {r : Run} {result : Except Error Connection}
    (hr : p.runs[run]? = some r) (hw : r.phase.isEnded = false) (hd : p.isDisposed = false)
    (hg : p.generation = r.generation) (ho : o.runs = p.runs) :
    Applies p (o.setPhase run (.ended (some result))) run result where
  isDisposed_eq := hd
  isOpen := ⟨r, hr, hg.symm, hw⟩
  ended := ⟨{ r with phase := .ended (some result) }, by simp [ho, hr], rfl⟩

/-- The run that is applied is the one in the slot. -/
theorem Applies.slot_eq {p q : Provider} {run : Nat} {result : Except Error Connection}
    (h : Applies p q run result) (hp : p.Coherent) : p.slot = .pending run :=
  hp.pending_of_isOpen h.isDisposed_eq run h.isOpen

namespace Change

variable {p q : Provider}

/-- A connection that is ready stays ready until its generation is over. -/
theorem ready (h : Change p q) (hp : p.Coherent) {c : Connection} (hs : p.slot = .ready c)
    (hg : q.generation = p.generation) : q.slot = .ready c ∨ q.isDisposed = true := by
  -- no run can be applied, for it would be the one in the slot
  have hopen : ∀ {run : Nat} {r : Run}, p.runs[run]? = some r → r.phase.isEnded = false →
      p.isDisposed = false → p.generation = r.generation → False := by
    intro run r hr hw hd hrg
    have hpending := hp.pending_of_isOpen hd run ⟨r, hr, hrg.symm, hw⟩
    rw [hs] at hpending
    cases hpending
  cases h with
  | stay => exact .inl hs
  | start now hd hpend hready => exact absurd hs (hready c)
  | advance now inRuntime trigger hd =>
    rw [generation_advance] at hg
    omega
  | dispose hd => exact .inr (isDisposed_dispose p)
  | breakDown run r hr hw => exact .inl hs
  | lapse run r outcome log hr hw ho => exact .inl hs
  | connect run r link log hr hw hd hrg => exact (hopen hr hw hd hrg).elim
  | fail run r error retryAt log hr hw hd hrg => exact (hopen hr hw hd hrg).elim
  | jam run r phase log hr hw hd hrg hj hstuck => exact .inl hs

/-- A slot that shows an error has shown it before, or a run of its generation is applied. -/
theorem failed (h : Change p q) {error : Error} {retryAt : Instant}
    (hs : q.slot = .failed error retryAt) :
    q.generation = p.generation
      ∧ (p.slot = .failed error retryAt ∨ ∃ run, Applies p q run (.error error)) := by
  cases h with
  | stay => exact ⟨rfl, .inl hs⟩
  | start now hd hpend hready => cases hs
  | advance now inRuntime trigger hd =>
    rw [advance_eq] at hs
    split at hs <;> cases hs
  | dispose hd =>
    rw [dispose_eq hd] at hs
    cases hs
  | breakDown run r hr hw => exact ⟨rfl, .inl hs⟩
  | lapse run r outcome log hr hw ho => exact ⟨rfl, .inl hs⟩
  | connect run r link log hr hw hd hg => cases hs
  | fail run r error' retryAt' log hr hw hd hg =>
    cases hs
    exact ⟨rfl, .inr ⟨run, applies_setPhase hr hw hd hg rfl⟩⟩
  | jam run r phase log hr hw hd hg hj hstuck => exact ⟨rfl, .inl hs⟩

/-- **A change starts one run at most**, in an idle provider or a new generation. -/
theorem started_cases (h : Change p q) (g : Nat) :
    q.started g = p.started g
      ∨ q.started g = p.started g + 1 ∧ ¬q.IsIdle
        ∧ (p.generation = g ∧ p.IsIdle ∨ p.generation < g) := by
  cases h with
  | start now hd hpend hready =>
    rw [started_start]
    split
    · rename_i hg
      exact .inr ⟨rfl, fun hidle => hidle.not_pending _ rfl, .inl ⟨hg, hd, hpend, hready⟩⟩
    · exact .inl rfl
  | advance now inRuntime trigger hd =>
    have hrenew : (p.renew trigger).started g = p.started g := started_callOff p g
    rw [advance_eq]
    split
    · rw [started_start, hrenew]
      split
      · rename_i hg
        have hg' : p.generation + 1 = g := hg
        exact .inr ⟨rfl, fun hidle => hidle.not_pending _ rfl, .inr (by omega)⟩
      · exact .inl rfl
    · exact .inl hrenew
  | dispose hd =>
    rw [dispose_eq hd]
    exact .inl (started_callOff p g)
  | stay => exact .inl rfl
  | breakDown | lapse | connect | fail | jam => exact .inl (started_setPhase _ _ _ g)

/-- **A provider becomes idle** by a failure that is applied, or in a new generation. -/
theorem isIdle_cases (h : Change p q) (hq : q.IsIdle) :
    q.generation = p.generation
        ∧ (p.IsIdle ∨ ∃ run error, Applies p q run (.error error))
      ∨ p.generation < q.generation := by
  obtain ⟨hd', hpend', hready'⟩ := hq
  cases h with
  | stay => exact .inl ⟨rfl, .inl ⟨hd', hpend', hready'⟩⟩
  | start now hd hpend hready => exact absurd rfl (hpend' _)
  | advance now inRuntime trigger hd =>
    refine .inr ?_
    rw [generation_advance]
    exact Nat.lt_succ_self _
  | dispose hd => exact absurd (hd'.symm.trans (isDisposed_dispose p)) Bool.false_ne_true
  | breakDown run r hr hw => exact .inl ⟨rfl, .inl ⟨hd', hpend', hready'⟩⟩
  | lapse run r outcome log hr hw ho => exact .inl ⟨rfl, .inl ⟨hd', hpend', hready'⟩⟩
  | connect run r link log hr hw hd hg => exact absurd rfl (hready' _)
  | fail run r error retryAt log hr hw hd hg =>
    exact .inl ⟨rfl, .inr ⟨run, error, applies_setPhase hr hw hd hg rfl⟩⟩
  | jam run r phase log hr hw hd hg hj hstuck =>
    exact .inl ⟨rfl, .inl ⟨hd', hpend', hready'⟩⟩

/-- A pending slot without a run to call off was one before, or the run has just jammed. -/
theorem pending_cases (h : Change p q) {run : Nat} (hs : q.slot = .pending run)
    (ha : q.activeRun = none) :
    p.slot = .pending run ∧ p.activeRun = none
      ∨ p.isDisposed = false ∧ Jams p.backoff.advance := by
  cases h with
  | stay => exact .inl ⟨hs, ha⟩
  | start now hd hpend hready => cases ha
  | advance now inRuntime trigger hd =>
    rw [advance_eq] at hs ha
    split at hs
    · rename_i hin
      rw [if_pos hin] at ha
      cases ha
    · cases hs
  | dispose hd =>
    rw [dispose_eq hd] at hs
    cases hs
  | breakDown run' r hr hw => exact .inl ⟨hs, ha⟩
  | lapse run' r outcome log hr hw ho => exact .inl ⟨hs, ha⟩
  | connect run' r link log hr hw hd hg => cases hs
  | fail run' r error retryAt log hr hw hd hg => cases hs
  | jam run' r phase log hr hw hd hg hj hstuck => exact .inr ⟨hd, hj⟩

end Change

/-! ## A reset and a failure -/

/-- **A reset starts a run**, as the last one, and leaves the sequence of delays as it is. -/
theorem run_of_reset {p : Provider} (hd : p.isDisposed = false) (now : Instant)
    (trigger : Trigger) :
    (p.reset now true trigger).runs.length = p.runs.length + 1
      ∧ (p.reset now true trigger).runs[p.runs.length]?
        = some { generation := p.generation + 1, trigger := trigger, started := now }
      ∧ (p.reset now true trigger).slot = .pending p.runs.length
      ∧ (p.reset now true trigger).generation = p.generation + 1
      ∧ (p.reset now true trigger).isDisposed = false
      ∧ (p.reset now true trigger).backoff = p.backoff := by
  have hreset : p.reset now true trigger = (p.renew trigger).start now := by
    rw [reset, if_neg (by simp [hd]), advance_eq, if_pos rfl]
  have hlen : (p.renew trigger).runs.length = p.runs.length := length_runs_callOff p
  rw [hreset]
  refine ⟨?_, ?_, ?_, rfl, (isDisposed_callOff p).trans hd, backoff_callOff p⟩
  · rw [length_runs_start, hlen]
  · rw [getElem?_runs_start, if_pos hlen.symm]
    rfl
  · rw [slot_start, hlen]

section

variable {p : Provider} {run : Nat} {r : Run} (hr : p.runs[run]? = some r)
  (hphase : r.phase = .working) (hd : p.isDisposed = false) (ha : p.isAbandoned = false)
  (hg : p.generation = r.generation) {draw : Float}

include hr hphase hd ha hg

/-- A failure whose delay cannot be drawn breaks down itself, when half of it is done. -/
theorem finish_eq_of_jams
    (hj : spread? p.backoff.advance.current p.backoff.config.jitter draw = none) (error : Error)
    (now : Instant) :
    p.finish run (.error error) now draw
      = ({ p with log := p.log ++ [endReport r (.error error) now] }.halfFail).setPhase run
        .brokenDown := by
  have hcannot : ({ p with log := p.log ++ [endReport r (.error error) now] } : Provider).cannotFail
      r draw = true := by
    show (!p.isDisposed && p.generation == r.generation
      && (spread? p.backoff.advance.current p.backoff.config.jitter draw).isNone) = true
    rw [hd, hg, hj]
    simp
  -- the run that is to be called off is forgotten before the delay is drawn
  have hworking : ({ p with log := p.log ++ [endReport r (.error error) now] }.halfFail).phase? run
      = some .working := by
    simp [phase?, halfFail, hr, hphase]
  rw [finish, hr]
  dsimp only
  rw [hphase]
  dsimp only
  rw [if_neg (by simp [ha]), if_pos (by rw [hcannot]; rfl), breakDown, hworking]

/-- **A failure whose delay cannot be drawn jams the provider**: it waits for a run that it can no
longer call off. -/
theorem finish_of_jams
    (hj : spread? p.backoff.advance.current p.backoff.config.jitter draw = none) (error : Error)
    (now : Instant) :
    (p.finish run (.error error) now draw).slot = p.slot
      ∧ (p.finish run (.error error) now draw).activeRun = none := by
  rw [finish_eq_of_jams hr hphase hd ha hg hj]
  exact ⟨rfl, rfl⟩

/-- **A failure whose delay can be drawn is applied.** -/
theorem finish_eq_of_not_jams
    (hj : spread? p.backoff.advance.current p.backoff.config.jitter draw ≠ none) (error : Error)
    (now : Instant) :
    p.finish run (.error error) now draw
      = (p.holding (.failed error (retryTime now (p.backoff.next draw).1)) p.backoff.advance
          (p.log ++ [endReport r (.error error) now])).setPhase run
            (.ended (some (.error error))) := by
  have hcannot : ({ p with log := p.log ++ [endReport r (.error error) now] } : Provider).cannotFail
      r draw = false := by
    show (!p.isDisposed && p.generation == r.generation
      && (spread? p.backoff.advance.current p.backoff.config.jitter draw).isNone) = false
    rw [Option.isNone_eq_false_iff.2 (Option.isSome_iff_ne_none.2 hj), Bool.and_false]
  rw [finish, hr]
  dsimp only
  rw [hphase]
  dsimp only
  rw [if_neg (by simp [ha]), if_neg (by rw [hcannot, Bool.and_false]; exact Bool.false_ne_true),
    settle, complete_error (by exact hd) (by exact hg)]
  rfl

theorem finish_of_not_jams
    (hj : spread? p.backoff.advance.current p.backoff.config.jitter draw ≠ none) (error : Error)
    (now : Instant) :
    (p.finish run (.error error) now draw).runs.length = p.runs.length
      ∧ (p.finish run (.error error) now draw).isDisposed = false
      ∧ (p.finish run (.error error) now draw).backoff = p.backoff.advance := by
  rw [finish_eq_of_not_jams hr hphase hd ha hg hj]
  exact ⟨List.length_modify .., hd, rfl⟩

end

end Provider

/-! ## Whole histories -/

section

variable (config : BackoffConfig) (events : Nat → ProviderEvent)

open Classical in
/-- **The failures that were applied in a generation**, before the given instant. -/
noncomputable def failures (generation n : Nat) : Nat :=
  Nat.count (fun k => (providerAt config events k).generation = generation ∧ ∃ run error,
    Provider.Applies (providerAt config events k) (providerAt config events (k + 1)) run
      (.error error)) n

/-- The connection is one that somebody was given, or could have seen. -/
def HandedOut (n : Nat) (c : Connection) : Prop :=
  (providerAt config events n).slot = .ready c
    ∨ ∃ i, callAt config events n i = some (.done (.ok c))

/-- **A run of the present generation that has not been applied.** -/
def IsUnapplied (n run : Nat) : Prop :=
  (∃ r, (providerAt config events n).runs[run]? = some r
      ∧ r.generation = (providerAt config events n).generation)
    ∧ ∀ m < n, ∀ result, ¬Provider.Applies (providerAt config events m)
      (providerAt config events (m + 1)) run result

variable {config events}

theorem generation_mono {m n : Nat} (h : m ≤ n) :
    (providerAt config events m).generation ≤ (providerAt config events n).generation := by
  induction n, h using Nat.le_induction with
  | base => exact Nat.le_refl _
  | succ n _ ih => exact ih.trans (change_providerAt config events n).generation_le

/-- The trigger stays as it is while the generation does. -/
theorem trigger_eq_of_generation_eq {m n : Nat} (h : m ≤ n)
    (hg : (providerAt config events n).generation = (providerAt config events m).generation) :
    (providerAt config events n).trigger = (providerAt config events m).trigger := by
  induction n, h using Nat.le_induction with
  | base => rfl
  | succ n hmn ih =>
    have hchange := change_providerAt config events n
    have hle :
        (providerAt config events m).generation ≤ (providerAt config events n).generation :=
      generation_mono hmn
    have hle' := hchange.generation_le
    rw [hchange.trigger_eq (by omega), ih (by omega)]

/-- A run that has ended stays as it is. -/
theorem ended_mono {m n run : Nat} {outcome : Option (Except Error Connection)} (h : m ≤ n)
    (hm : ∃ r, (providerAt config events m).runs[run]? = some r ∧ r.phase = .ended outcome) :
    ∃ r, (providerAt config events n).runs[run]? = some r ∧ r.phase = .ended outcome := by
  induction n, h using Nat.le_induction with
  | base => exact hm
  | succ n _ ih => exact (change_providerAt config events n).ended_persists ih

/-- A run of the present generation that has ended was applied. -/
theorem exists_applies_of_ended {n run : Nat} {r : Run}
    {outcome : Option (Except Error Connection)}
    (hd : (providerAt config events n).isDisposed = false)
    (hr : (providerAt config events n).runs[run]? = some r)
    (hg : r.generation = (providerAt config events n).generation)
    (hphase : r.phase = .ended outcome) :
    ∃ m < n, ∃ result, Provider.Applies (providerAt config events m)
      (providerAt config events (m + 1)) run result := by
  -- the change that ended the run applied it, as its generation was the present one then too
  induction n generalizing r with
  | zero => cases hr
  | succ n ih =>
    have hchange := change_providerAt config events n
    have hd' : (providerAt config events n).isDisposed = false := by
      refine Bool.eq_false_iff.2 fun hd' => ?_
      cases hd.symm.trans (hchange.isDisposed_of_isDisposed hd')
    rcases hchange.run_cases hr with ⟨s, hs, hsg, hproceeds⟩ | hstarts
    · have hle := (coherent_providerAt config events n).generation_le run s hs
      have hsg' : s.generation = (providerAt config events n).generation := by
        have := hchange.generation_le
        omega
      cases hproceeds with
      | stays h =>
        obtain ⟨m, hm, hex⟩ := ih hd' hs hsg' (h.symm.trans hphase)
        exact ⟨m, Nat.lt_succ_of_lt hm, hex⟩
      | breaks hw hw' =>
        rw [hphase] at hw'
        cases hw'
      | ends outcome' hw h he =>
        cases he with
        | disposed hdn => cases hd'.symm.trans hdn
        | stale _ hne => exact absurd hsg'.symm hne
        | applied result _ _ _ _ _ =>
          exact ⟨n, Nat.lt_succ_self n, result, hd', ⟨s, hs, hsg', hw⟩, r, hr, h⟩
    · cases hstarts.phase_eq.symm.trans hphase

/-- In a provider that is not disposed of, the unapplied runs are the open ones. -/
theorem isUnapplied_iff {n run : Nat} (hd : (providerAt config events n).isDisposed = false) :
    IsUnapplied config events n run ↔ (providerAt config events n).IsOpen run := by
  constructor
  · rintro ⟨⟨r, hr, hg⟩, hnone⟩
    refine ⟨r, hr, hg, Bool.eq_false_iff.2 fun hended => ?_⟩
    obtain ⟨outcome, hphase⟩ : ∃ outcome, r.phase = .ended outcome := by
      cases hphase : r.phase with
      | ended outcome => exact ⟨outcome, rfl⟩
      | _ => simp [hphase, RunPhase.isEnded] at hended
    obtain ⟨m, hm, result, happlies⟩ := exists_applies_of_ended hd hr hg hphase
    exact hnone m hm result happlies
  · rintro ⟨r, hr, hg, hw⟩
    refine ⟨⟨r, hr, hg⟩, fun m hm result happlies => ?_⟩
    obtain ⟨s, hs, hphase⟩ := ended_mono (Nat.succ_le_of_lt hm) happlies.ended
    rw [hr] at hs
    cases hs
    rw [hphase] at hw
    cases hw

/-- Nothing starts from the disposal on. -/
theorem IsUnapplied.of_succ {n run : Nat} (h : IsUnapplied config events (n + 1) run)
    (hd : (providerAt config events (n + 1)).isDisposed = true) :
    IsUnapplied config events n run := by
  obtain ⟨⟨r, hr, hg⟩, hnone⟩ := h
  have hchange := change_providerAt config events n
  have hgen : (providerAt config events (n + 1)).generation
      = (providerAt config events n).generation := by
    rcases hchange.generation_eq with hgen | ⟨-, hd'⟩
    · exact hgen
    · cases hd.symm.trans hd'
  refine ⟨?_, fun m hm => hnone m (Nat.lt_succ_of_lt hm)⟩
  rcases hchange.run_cases hr with ⟨s, hs, hsg, -⟩ | hstarts
  · exact ⟨s, hs, hsg.trans (hg.trans hgen)⟩
  · have hempty := (coherent_providerAt config events (n + 1)).slot_of_isDisposed hd
    cases hstarts.slot_eq.symm.trans hempty

/-- **No two unapplied runs of one generation coexist.** -/
theorem IsUnapplied.unique {n run run' : Nat} (h : IsUnapplied config events n run)
    (h' : IsUnapplied config events n run') : run = run' := by
  induction n with
  | zero =>
    obtain ⟨⟨r, hr, -⟩, -⟩ := h
    cases hr
  | succ n ih =>
    cases hd : (providerAt config events (n + 1)).isDisposed with
    | true => exact ih (h.of_succ hd) (h'.of_succ hd)
    | false =>
      exact (coherent_providerAt config events (n + 1)).eq_of_isOpen run run'
        ((isUnapplied_iff hd).1 h) ((isUnapplied_iff hd).1 h')

/-- A connection that is ready stays ready until its generation is over. -/
theorem slot_of_ready {m n : Nat} {c : Connection} (h : m ≤ n)
    (hs : (providerAt config events m).slot = .ready c)
    (hg : (providerAt config events n).generation = (providerAt config events m).generation) :
    (providerAt config events n).slot = .ready c
      ∨ (providerAt config events n).isDisposed = true := by
  induction n, h using Nat.le_induction with
  | base => exact .inl hs
  | succ n hmn ih =>
    have hchange := change_providerAt config events n
    have hle :
        (providerAt config events m).generation ≤ (providerAt config events n).generation :=
      generation_mono hmn
    have hle' := hchange.generation_le
    rcases ih (by omega) with h | h
    · exact hchange.ready (coherent_providerAt config events n) h (by omega)
    · exact .inr (hchange.isDisposed_of_isDisposed h)

/-- A connection that was handed out was ready. -/
theorem HandedOut.exists_ready {n : Nat} {c : Connection} (h : HandedOut config events n c) :
    ∃ k ≤ n, (providerAt config events k).slot = .ready c := by
  rcases h with h | ⟨i, hi⟩
  · exact ⟨n, Nat.le_refl n, h⟩
  · -- no call is under way at the start of a history
    have hstart : ∀ call, callAt config events 0 i = some call →
        Follows config events 0 0 call :=
      fun _ h => nomatch h
    obtain ⟨k, -, hkn, hshows | ⟨-, hok⟩⟩ := follows_callAt (Nat.zero_le n) hstart hi
    · exact ⟨k, hkn, hshows⟩
    · cases hok

/-- Two connections that were ready with one generation are the same. -/
theorem eq_of_ready {m n : Nat} {c c' : Connection} (h : m ≤ n)
    (hs : (providerAt config events m).slot = .ready c)
    (hs' : (providerAt config events n).slot = .ready c') (hg : c.generation = c'.generation) :
    c = c' := by
  have hc := (coherent_providerAt config events m).ready c hs
  have hc' := (coherent_providerAt config events n).ready c' hs'
  rcases slot_of_ready h hs (by omega) with h | hd
  · exact Slot.ready.inj (h.symm.trans hs')
  · have hempty := (coherent_providerAt config events n).slot_of_isDisposed hd
    cases hs'.symm.trans hempty

/-- **All connections that are handed out with one generation are the same.** -/
theorem HandedOut.eq_of_generation_eq {m n : Nat} {c c' : Connection}
    (h : HandedOut config events m c) (h' : HandedOut config events n c')
    (hg : c.generation = c'.generation) : c = c' := by
  obtain ⟨k, -, hk⟩ := h.exists_ready
  obtain ⟨k', -, hk'⟩ := h'.exists_ready
  rcases Nat.le_total k k' with hle | hle
  · exact eq_of_ready hle hk hk' hg
  · exact (eq_of_ready hle hk' hk hg.symm).symm

/-- **The error of a failed slot is the one of the last run that was applied** in its generation. -/
theorem exists_applies_of_failed {n : Nat} {error : Error} {retryAt : Instant}
    (hs : (providerAt config events n).slot = .failed error retryAt) :
    ∃ m < n, (providerAt config events m).generation = (providerAt config events n).generation
      ∧ (∃ run, Provider.Applies (providerAt config events m) (providerAt config events (m + 1))
          run (.error error))
      ∧ ∀ k, m < k → k < n → ∀ run result, ¬Provider.Applies (providerAt config events k)
          (providerAt config events (k + 1)) run result := by
  induction n with
  | zero => cases hs
  | succ n ih =>
    obtain ⟨hg, hold | happlies⟩ := (change_providerAt config events n).failed hs
    · obtain ⟨m, hm, hgm, hlast, hnone⟩ := ih hold
      refine ⟨m, Nat.lt_succ_of_lt hm, hgm.trans hg.symm, hlast,
        fun k hmk hkn run result h => ?_⟩
      rcases Nat.lt_succ_iff_lt_or_eq.1 hkn with hkn | rfl
      · exact hnone k hmk hkn run result h
      · -- the run that is applied would be in the slot, which is failed
        cases hold.symm.trans (h.slot_eq (coherent_providerAt config events k))
    · exact ⟨n, Nat.lt_succ_self n, hg.symm, happlies, fun k hnk hkn => by omega⟩

open Classical in
theorem failures_le_succ (generation n : Nat) :
    failures config events generation n ≤ failures config events generation (n + 1) := by
  unfold failures
  exact Nat.count_monotone _ (Nat.le_succ n)

theorem failures_succ {generation n run : Nat} {error : Error}
    (hg : (providerAt config events n).generation = generation)
    (h : Provider.Applies (providerAt config events n) (providerAt config events (n + 1)) run
      (.error error)) :
    failures config events generation (n + 1) = failures config events generation n + 1 := by
  unfold failures
  rw [Nat.count_succ, if_pos ⟨hg, run, error, h⟩]

/-- **Every run of a generation but the first is owed to a failure that was applied in it**; when
the provider is idle, the first one is too. -/
theorem started_le (generation n : Nat) :
    (providerAt config events n).started generation ≤ failures config events generation n + 1
      ∧ ((providerAt config events n).generation = generation →
        (providerAt config events n).IsIdle →
        (providerAt config events n).started generation
          ≤ failures config events generation n) := by
  -- a run that starts uses up the failure by which the provider became idle, so the two bounds are
  -- carried together
  induction n with
  | zero => exact ⟨Nat.zero_le _, fun _ _ => Nat.zero_le _⟩
  | succ n ih =>
    have hchange := change_providerAt config events n
    have hmono :
        failures config events generation n ≤ failures config events generation (n + 1) :=
      failures_le_succ generation n
    have hzero : (providerAt config events n).generation < generation →
        (providerAt config events n).started generation = 0 :=
      (coherent_providerAt config events n).started_eq_zero
    rcases hchange.started_cases generation with hsame | ⟨hmore, hidle, ⟨hg, hold⟩ | hlt⟩
    · refine ⟨by omega, fun hg hidle => ?_⟩
      rcases hchange.isIdle_cases hidle with ⟨hgen, hold | ⟨run, error, happlies⟩⟩ | hgen
      · have := ih.2 (hgen.symm.trans hg) hold
        omega
      · have := failures_succ (hgen.symm.trans hg) happlies
        omega
      · have := hzero (by omega)
        omega
    · have := ih.2 hg hold
      exact ⟨by omega, fun _ h => absurd h hidle⟩
    · have := hzero hlt
      exact ⟨by omega, fun _ h => absurd h hidle⟩

/-! ## When a provider jams -/

/-- **A delay cannot be drawn** exactly if the spread is no number and the delay is not zero. -/
theorem Provider.jams_iff {b : Backoff} :
    Provider.Jams b ↔ b.config.jitter.isNaN = true ∧ b.current.isZero = false := by
  unfold Provider.Jams
  simp only [spread?_eq_none_iff]
  exact exists_const Float

theorem config_iterate_advance (config : BackoffConfig) (k : Nat) :
    (Backoff.advance^[k] (.start config)).config = config := by
  induction k with
  | zero => rfl
  | succ k ih => rw [Function.iterate_succ_apply', Backoff.config_advance, ih]

/-- At every instant, a number of delays have been reached since the start of the sequence. -/
theorem exists_backoff_eq (n : Nat) :
    ∃ k, (providerAt config events n).backoff = Backoff.advance^[k] (.start config) := by
  induction n with
  | zero => exact ⟨0, rfl⟩
  | succ n ih =>
    obtain ⟨k, hk⟩ := ih
    rcases (change_providerAt config events n).backoff_cases with h | h | h
    · exact ⟨k, h.trans hk⟩
    · exact ⟨k + 1, by rw [h, hk, Function.iterate_succ_apply']⟩
    · exact ⟨0, by rw [h, hk, Backoff.reset, config_iterate_advance]; rfl⟩

/-- A pending slot without a run to call off goes back to a delay that could not be drawn. -/
theorem exists_jams_of_pending {n run : Nat}
    (hs : (providerAt config events n).slot = .pending run)
    (ha : (providerAt config events n).activeRun = none) :
    ∃ k, Provider.Jams (Backoff.advance^[k + 1] (.start config)) := by
  induction n with
  | zero => cases hs
  | succ n ih =>
    rcases (change_providerAt config events n).pending_cases hs ha with ⟨hs, ha⟩
      | ⟨-, hjams⟩
    · exact ih hs ha
    · obtain ⟨k, hk⟩ : ∃ k, (providerAt config events n).backoff
          = Backoff.advance^[k] (.start config) := exists_backoff_eq n
      exact ⟨k, by rwa [Function.iterate_succ_apply', ← hk]⟩

/-- **The connection is reset and fails**, again and again. -/
def failing (draw : Float) (n : Nat) : ProviderEvent :=
  if n % 2 = 0 then .reset 0 true .rediscover
  else .finish (n / 2) (.error Provider.breakdownError) 0 draw

theorem providerAt_failing (config : BackoffConfig) (draw : Float) (k : Nat) :
    providerAt config (failing draw) (2 * k + 1)
        = (providerAt config (failing draw) (2 * k)).reset 0 true .rediscover
      ∧ providerAt config (failing draw) (2 * k + 2)
        = (providerAt config (failing draw) (2 * k + 1)).finish k (.error Provider.breakdownError) 0
          draw := by
  have heven : failing draw (2 * k) = .reset 0 true .rediscover := if_pos (by omega)
  have hodd : failing draw (2 * k + 1) = .finish k (.error Provider.breakdownError) 0 draw := by
    rw [failing, if_neg (by omega), show (2 * k + 1) / 2 = k by omega]
  constructor
  · show ((providerHistory config (failing draw) (2 * k)).perform
      (failing draw (2 * k))).provider = _
    rw [heven]
    rfl
  · show ((providerHistory config (failing draw) (2 * k + 1)).perform
      (failing draw (2 * k + 1))).provider = _
    rw [hodd]
    rfl

/-- **While it does not jam, every failure takes the provider one delay further.** -/
theorem backoff_failing (draw : Float) {k : Nat}
    (h : ∀ j < k, ¬Provider.Jams (Backoff.advance^[j + 1] (.start config))) :
    (providerAt config (failing draw) (2 * k)).isDisposed = false
      ∧ (providerAt config (failing draw) (2 * k)).runs.length = k
      ∧ (providerAt config (failing draw) (2 * k)).backoff
        = Backoff.advance^[k] (.start config) := by
  induction k with
  | zero => exact ⟨rfl, rfl, rfl⟩
  | succ k ih =>
    obtain ⟨hd, hlen, hbackoff⟩ := ih fun j hj => h j (Nat.lt_succ_of_lt hj)
    obtain ⟨hreset, hfinish⟩ := providerAt_failing config draw k
    obtain ⟨hlen', hrun, -, hg, hd', hbackoff'⟩ := Provider.run_of_reset hd 0 .rediscover
    rw [hlen, ← hreset] at hrun
    rw [← hreset] at hlen' hg hd' hbackoff'
    have hdraw : spread? (providerAt config (failing draw) (2 * k + 1)).backoff.advance.current
        (providerAt config (failing draw) (2 * k + 1)).backoff.config.jitter draw ≠ none := by
      intro hnone
      -- a delay that could not be drawn would have jammed the provider at the `k`-th failure
      refine h k (Nat.lt_succ_self k) ⟨draw, ?_⟩
      rwa [hbackoff', hbackoff, ← Backoff.config_advance,
        ← Function.iterate_succ_apply' Backoff.advance] at hnone
    obtain ⟨hlen'', hd'', hbackoff''⟩ := Provider.finish_of_not_jams hrun rfl hd'
      (isAbandoned_providerAt config (failing draw) (2 * k + 1)) hg hdraw Provider.breakdownError 0
    rw [show 2 * (k + 1) = 2 * k + 2 by omega, hfinish]
    refine ⟨hd'', by rw [hlen'', hlen', hlen], ?_⟩
    rw [hbackoff'', hbackoff', hbackoff, Function.iterate_succ_apply']

/-- **Once a delay cannot be drawn, the provider may jam**: its runs fail until that delay comes. -/
theorem exists_pending_of_jams {k : Nat}
    (h : ∀ j < k, ¬Provider.Jams (Backoff.advance^[j + 1] (.start config)))
    (hj : Provider.Jams (Backoff.advance^[k + 1] (.start config))) :
    ∃ events n run, (providerAt config events n).slot = .pending run
      ∧ (providerAt config events n).activeRun = none := by
  obtain ⟨draw, hdraw⟩ := hj
  obtain ⟨hd, hlen, hbackoff⟩ := backoff_failing draw h
  obtain ⟨hreset, hfinish⟩ := providerAt_failing config draw k
  obtain ⟨-, hrun, hslot, hg, hd', hbackoff'⟩ := Provider.run_of_reset hd 0 .rediscover
  rw [hlen, ← hreset] at hrun hslot
  rw [← hreset] at hg hd' hbackoff'
  have hjams : spread? (providerAt config (failing draw) (2 * k + 1)).backoff.advance.current
      (providerAt config (failing draw) (2 * k + 1)).backoff.config.jitter draw = none := by
    rwa [hbackoff', hbackoff, ← Backoff.config_advance,
      ← Function.iterate_succ_apply' Backoff.advance]
  obtain ⟨hslot', hactive⟩ := Provider.finish_of_jams hrun rfl hd'
    (isAbandoned_providerAt config (failing draw) (2 * k + 1)) hg hjams Provider.breakdownError 0
  exact ⟨failing draw, 2 * k + 2, k, by rw [hfinish, hslot', hslot], by rw [hfinish, hactive]⟩

/-- **No history jams** if the spread is a number or there is never a delay, and only then. -/
theorem pending_iff_active_iff :
    (∀ (events : Nat → ProviderEvent) (n : Nat),
        (∃ run, (providerAt config events n).slot = .pending run)
          ↔ (providerAt config events n).activeRun.isSome = true)
      ↔ config.jitter.isNaN = false
        ∨ ∀ k, (Backoff.advance^[k + 1] (.start config)).current.isZero = true := by
  constructor
  · intro h
    by_contra hneither
    obtain ⟨hnan, hdelay⟩ := not_or.1 hneither
    obtain ⟨k, hk⟩ := not_forall.1 hdelay
    have hjams : ∃ k, Provider.Jams (Backoff.advance^[k + 1] (.start config)) := by
      refine ⟨k, Provider.jams_iff.2 ⟨?_, Bool.eq_false_iff.2 hk⟩⟩
      rw [config_iterate_advance]
      exact Bool.eq_true_of_not_eq_false hnan
    classical
    -- the first delay that cannot be drawn
    obtain ⟨events, n, run, hs, ha⟩ :=
      exists_pending_of_jams (fun j hj => Nat.find_min hjams hj) (Nat.find_spec hjams)
    have hsome := (h events n).1 ⟨run, hs⟩
    rw [ha] at hsome
    cases hsome
  · intro h events n
    constructor
    · rintro ⟨run, hs⟩
      refine Option.isSome_iff_ne_none.2 fun ha => ?_
      obtain ⟨k, hj⟩ := exists_jams_of_pending hs ha
      obtain ⟨hnan, hdelay⟩ := Provider.jams_iff.1 hj
      rw [config_iterate_advance] at hnan
      rcases h with h | h
      · exact Bool.false_ne_true (h.symm.trans hnan)
      · exact Bool.false_ne_true (hdelay.symm.trans (h k))
    · intro ha
      obtain ⟨run, hrun⟩ := Option.isSome_iff_exists.1 ha
      exact ⟨run, (coherent_providerAt config events n).pending_of_active run hrun⟩

end

/-! ## The result -/

/-- **All callers share one connection.** At every instant of every history, a provider that is
disposed of holds nothing, a connection that is ready is of the present generation, a run that can
be called off is the one in the slot, the run in the slot is the one run of its generation that has
not been applied, and a failed slot holds the error of the run of its generation that was applied
last. Every run of a generation but the first is owed to a failure that was applied in it, and all
connections handed out with one generation are the same.

The run in the slot can be called off unless it has jammed, and a provider has such histories
exactly if its spread is no number and its sequence of delays comes to one that is not zero. -/
theorem callers_share_connection (config : BackoffConfig) :
    (∀ (events : Nat → ProviderEvent) (n : Nat),
      let p := providerAt config events n
      (p.isDisposed = true → p.slot = .empty)
      ∧ (∀ c, p.slot = .ready c → c.generation = p.generation ∧ c.trigger = p.trigger)
      ∧ (∀ run, p.activeRun = some run → p.slot = .pending run)
      ∧ (∀ run, p.slot = .pending run → p.activeRun = some run ∨ p.IsJammed run)
      ∧ (∀ run, p.slot = .pending run → IsUnapplied config events n run)
      ∧ (∀ run run', IsUnapplied config events n run → IsUnapplied config events n run' →
        run = run')
      ∧ (∀ error retryAt, p.slot = .failed error retryAt →
        ∃ m < n, (providerAt config events m).generation = p.generation
          ∧ (∃ run, Provider.Applies (providerAt config events m)
              (providerAt config events (m + 1)) run (.error error))
          ∧ ∀ k, m < k → k < n → ∀ run result,
            ¬Provider.Applies (providerAt config events k) (providerAt config events (k + 1))
              run result)
      ∧ (∀ generation, p.started generation ≤ failures config events generation n + 1)
      ∧ ∀ m c c', HandedOut config events m c → HandedOut config events n c' →
        c.generation = c'.generation → c = c')
    ∧ ((∀ (events : Nat → ProviderEvent) (n : Nat),
          (∃ run, (providerAt config events n).slot = .pending run)
            ↔ (providerAt config events n).activeRun.isSome = true)
        ↔ config.jitter.isNaN = false
          ∨ ∀ k, (Backoff.advance^[k + 1] (.start config)).current.isZero = true) := by
  refine ⟨fun events n => ?_, pending_iff_active_iff⟩
  · have hp := coherent_providerAt config events n
    refine ⟨hp.slot_of_isDisposed, hp.ready, hp.pending_of_active, hp.active_of_pending,
      fun run hs => ?_, fun run run' => IsUnapplied.unique, ?_, ?_, ?_⟩
    · have hd : (providerAt config events n).isDisposed = false :=
        Bool.eq_false_iff.2 fun hd => by cases hs.symm.trans (hp.slot_of_isDisposed hd)
      exact (isUnapplied_iff hd).2 (hp.isOpen_of_pending run hs)
    · intro error retryAt hs
      exact exists_applies_of_failed hs
    · intro generation
      exact (started_le generation n).1
    · intro m c c' hc hc' hg
      exact hc.eq_of_generation_eq hc' hg

/-- A spread that is no number: the first run fails, and the provider goes on waiting for it without
a run to call off. -/
theorem pending_of_jitter_notANumber :
    let p := providerAt { jitter := 0.0 / 0.0 }
      (fun
        | 0 => .reset 0 true .rediscover
        | _ => .finish 0 (.error (.connection "refused")) 10000000 0.5) 2
    p.slot = .pending 0 ∧ p.activeRun = none := ⟨rfl, rfl⟩

end ClusterLink
