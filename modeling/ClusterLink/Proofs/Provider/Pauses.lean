import ClusterLink.Proofs.Provider.Sharing

/-!
# Pauses between runs

A run that fails leaves a pause behind: until it is over, callers are turned away with the error of
the run. Here are the steps of a pause, one change of the provider at a time (`Change.failed_cases`,
`Change.pending`) and one event at a time (`Service.Effect`): a run starts only when a caller asks,
and a pause begins only with a failure that is applied, at the time and with the draw of the event.

How long a pause is depends on how far the sequence of delays has come, and that changes only when a
run is applied (`Change.backoff_eq`).
-/

namespace ClusterLink

namespace Provider

variable {p q : Provider}

/-! ## One change -/

@[simp] theorem length_runs_setPhase (p : Provider) (run : Nat) (phase : RunPhase) :
    (p.setPhase run phase).runs.length = p.runs.length := List.length_modify ..

/-- A run that is applied is shown to callers. -/
theorem Change.shows_of_applies (h : Change p q) {run : Nat} {result : Except Error Connection}
    (ha : Applies p q run result) :
    q.Shows result ∧ q.isDisposed = false ∧ q.generation = p.generation := by
  obtain ⟨hd, ⟨r, hr, hg, hw⟩, s, hs, hphase⟩ := ha
  obtain ⟨s', hs', -, hproceeds⟩ := h.run_persists hr
  cases hs.symm.trans hs'
  cases hproceeds with
  | stays hsame => rw [← hsame, hphase] at hw; cases hw
  | breaks _ hw' => rw [hphase] at hw'; cases hw'
  | ends outcome _ hphase' he =>
    cases hphase.symm.trans hphase'
    cases he with
    | disposed hd' => cases hd.symm.trans hd'
    | applied _ _ _ hshows hq hgq => exact ⟨hshows, hq, hgq⟩

theorem not_shows_of_pending {run : Nat} (h : p.slot = .pending run)
    (result : Except Error Connection) : ¬p.Shows result := by
  intro hshows
  cases result with
  | ok c => cases h.symm.trans hshows
  | error error =>
    obtain ⟨retryAt, hs⟩ := hshows
    cases h.symm.trans hs

theorem not_shows_of_empty (h : p.slot = .empty) (result : Except Error Connection) :
    ¬p.Shows result := by
  intro hshows
  cases result with
  | ok c => cases h.symm.trans hshows
  | error error =>
    obtain ⟨retryAt, hs⟩ := hshows
    cases h.symm.trans hs

/-- **How the sequence of delays goes on**: it begins anew when a run connects, goes on by one delay
when a run fails, and stays where it is otherwise. -/
theorem Change.backoff_eq (h : Change p q) (hp : p.Coherent) (hj : ¬Jams p.backoff.advance) :
    (∃ run c, Applies p q run (.ok c)) ∧ q.backoff = p.backoff.reset
      ∨ (∃ run error, Applies p q run (.error error)) ∧ q.backoff = p.backoff.advance
      ∨ (∀ run result, ¬Applies p q run result) ∧ q.backoff = p.backoff := by
  -- a run that is applied was in the slot, and its outcome is in the slot afterwards
  have hnone : (∀ run, p.slot = .pending run → ∀ result, ¬q.Shows result) →
      ∀ run result, ¬Applies p q run result := fun hslot run result ha =>
    hslot run (ha.slot_eq hp) result (h.shows_of_applies ha).1
  have hkeeps : q.slot = p.slot → ∀ run result, ¬Applies p q run result := fun hslot =>
    hnone fun run hs => not_shows_of_pending (hslot.trans hs)
  cases h with
  | stay => exact .inr (.inr ⟨hkeeps rfl, rfl⟩)
  | start now =>
    exact .inr (.inr ⟨hnone fun _ _ => not_shows_of_pending (slot_start p now), rfl⟩)
  | advance now inRuntime trigger hd =>
    refine .inr (.inr ⟨hnone fun _ _ => ?_, ?_⟩)
    · rw [advance_eq]
      split
      · exact not_shows_of_pending (slot_start ..)
      · exact not_shows_of_empty rfl
    · rw [advance_eq]
      split <;> exact backoff_callOff p
  | dispose hd =>
    refine .inr (.inr ⟨hnone fun _ _ => ?_, ?_⟩) <;> rw [dispose_eq hd]
    · exact not_shows_of_empty rfl
    · exact backoff_callOff p
  | breakDown | lapse => exact .inr (.inr ⟨hkeeps rfl, rfl⟩)
  | connect run r link log hr hw hd hg =>
    exact .inl ⟨⟨run, _, applies_setPhase hr hw hd hg rfl⟩, rfl⟩
  | fail run r error retryAt log hr hw hd hg =>
    exact .inr (.inl ⟨⟨run, error, applies_setPhase hr hw hd hg rfl⟩, rfl⟩)
  | jam run r phase log hr hw hd hg hj' => exact absurd hj' hj

/-- **What becomes of a run that is under way**: it goes on, is applied, or its generation ends. -/
theorem Change.pending (h : Change p q) {run : Nat} (hp : p.Coherent)
    (hs : p.slot = .pending run) :
    q.slot = .pending run ∧ q.runs.length = p.runs.length
      ∨ (∃ result, Applies p q run result)
      ∨ q.generation = p.generation + 1 ∨ q.isDisposed = true := by
  -- a run that is applied is the one in the slot
  have hsame : ∀ {k : Nat} {r : Run}, p.runs[k]? = some r → r.phase.isEnded = false →
      p.isDisposed = false → p.generation = r.generation → k = run := by
    intro k r hr hw hd hg
    exact Slot.pending.inj ((hp.pending_of_isOpen hd k ⟨r, hr, hg.symm, hw⟩).symm.trans hs)
  cases h with
  | stay => exact .inl ⟨hs, rfl⟩
  | start now hd hpend => exact absurd hs (hpend run)
  | advance now inRuntime trigger => exact .inr (.inr (.inl (generation_advance ..)))
  | dispose => exact .inr (.inr (.inr (isDisposed_dispose p)))
  | breakDown | lapse | jam => exact .inl ⟨hs, length_runs_setPhase _ _ _⟩
  | connect k r link log hr hw hd hg | fail k r error retryAt log hr hw hd hg =>
    cases hsame hr hw hd hg
    exact .inr (.inl ⟨_, applies_setPhase hr hw hd hg rfl⟩)

/-- **What becomes of a pause**: it goes on, a run starts, or the generation ends. -/
theorem Change.failed_cases (h : Change p q) {error : Error} {retryAt : Instant} (hp : p.Coherent)
    (hs : p.slot = .failed error retryAt) :
    q.slot = .failed error retryAt ∧ q.runs.length = p.runs.length
      ∨ q.runs.length = p.runs.length + 1 ∧ q.generation = p.generation
      ∨ q.generation = p.generation + 1 ∨ q.isDisposed = true := by
  -- no run is under way that could be applied
  have hopen : ∀ {k : Nat} {r : Run}, p.runs[k]? = some r → r.phase.isEnded = false →
      p.isDisposed = false → p.generation = r.generation → False := by
    intro k r hr hw hd hg
    cases hs.symm.trans (hp.pending_of_isOpen hd k ⟨r, hr, hg.symm, hw⟩)
  cases h with
  | stay => exact .inl ⟨hs, rfl⟩
  | start now => exact .inr (.inl ⟨length_runs_start p now, rfl⟩)
  | advance now inRuntime trigger => exact .inr (.inr (.inl (generation_advance ..)))
  | dispose => exact .inr (.inr (.inr (isDisposed_dispose p)))
  | breakDown | lapse => exact .inl ⟨hs, length_runs_setPhase _ _ _⟩
  | connect k r link log hr hw hd hg => exact (hopen hr hw hd hg).elim
  | fail k r error' retryAt' log hr hw hd hg => exact (hopen hr hw hd hg).elim
  | jam k r phase log hr hw hd hg => exact (hopen hr hw hd hg).elim

/-! ## One event -/

@[simp] theorem length_runs_settle (p : Provider) (run : Nat) (r : Run)
    (result : Except Error Link) (now : Instant) (draw : Float) :
    (p.settle run r result now draw).runs.length = p.runs.length := by
  unfold settle setPhase
  rw [runs_complete]
  exact List.length_modify ..

@[simp] theorem length_runs_breakDown (p : Provider) (run : Nat) :
    (p.breakDown run).runs.length = p.runs.length := by
  unfold breakDown
  split
  · exact length_runs_setPhase ..
  · rfl

theorem length_runs_dispose (p : Provider) : p.dispose.runs.length = p.runs.length := by
  unfold dispose
  split
  · rfl
  · exact length_runs_callOff p

@[simp] theorem length_runs_finish (p : Provider) (run : Nat) (result : Except Error Link)
    (now : Instant) (draw : Float) :
    (p.finish run result now draw).runs.length = p.runs.length := by
  unfold finish
  split
  · rfl
  · split
    · split
      · exact length_runs_setPhase ..
      · dsimp only
        split
        · exact length_runs_breakDown ..
        · exact length_runs_settle ..
    · rfl

@[simp] theorem length_runs_poll (p : Provider) (run : Nat) (now : Instant) (draw : Float) :
    (p.poll run now draw).2.runs.length = p.runs.length := by
  unfold poll
  split
  · rfl
  · split
    · rfl
    · rfl
    · rfl
    · split
      · exact length_runs_setPhase ..
      · split
        · exact length_runs_setPhase ..
        · exact length_runs_settle ..

/-- A pause that a run leaves behind lasts from the instant at which the run was settled. -/
theorem retryAt_of_settle {p : Provider} {run : Nat} {r : Run} {result : Except Error Link}
    {now : Instant} {draw : Float} {error : Error} {retryAt : Instant}
    (h : (p.settle run r result now draw).slot = .failed error retryAt) :
    p.slot = .failed error retryAt ∨ retryAt = retryTime now (p.backoff.next draw).1 := by
  rw [settle, slot_setPhase] at h
  unfold complete at h
  split at h
  · exact .inl h
  · split at h
    · exact .inl h
    · split at h
      · cases h
      · cases h
        exact .inr rfl

theorem retryAt_of_finish {run : Nat} {result : Except Error Link} {now : Instant} {draw : Float}
    {error : Error} {retryAt : Instant}
    (h : (p.finish run result now draw).slot = .failed error retryAt) :
    p.slot = .failed error retryAt ∨ retryAt = retryTime now (p.backoff.next draw).1 := by
  unfold finish at h
  split at h
  · exact .inl h
  · split at h
    · split at h
      · exact .inl h
      · dsimp only at h
        split at h
        · rw [slot_breakDown] at h
          exact .inl h
        · have hsettle := retryAt_of_settle h
          exact hsettle
    · exact .inl h

theorem retryAt_of_poll {run : Nat} {now : Instant} {draw : Float} {error : Error}
    {retryAt : Instant} (h : (p.poll run now draw).2.slot = .failed error retryAt) :
    p.slot = .failed error retryAt ∨ retryAt = retryTime now (p.backoff.next draw).1 := by
  unfold poll at h
  split at h
  · exact .inl h
  · split at h
    · exact .inl h
    · exact .inl h
    · exact .inl h
    · split at h
      · exact .inl h
      · split at h
        · exact .inl h
        · exact retryAt_of_settle h

theorem reset_cases (p : Provider) (now : Instant) (inRuntime : Bool) (trigger : Trigger) :
    p.reset now inRuntime trigger = p
      ∨ p.reset now inRuntime trigger = p.advance now inRuntime trigger := by
  unfold reset
  split
  · exact .inl rfl
  · exact .inr rfl

theorem resetFrom_cases (p : Provider) (generation : Nat) (now : Instant) (inRuntime : Bool)
    (trigger : Trigger) :
    p.resetFrom generation now inRuntime trigger = p
      ∨ p.resetFrom generation now inRuntime trigger = p.advance now inRuntime trigger := by
  unfold resetFrom
  split
  · exact .inl rfl
  · exact .inr rfl

theorem observe_cases (p : Provider) (generation : Nat) (status : Status) (now : Instant)
    (inRuntime : Bool) :
    p.observe generation status now inRuntime = p
      ∨ ∃ trigger,
        p.observe generation status now inRuntime = p.advance now inRuntime trigger := by
  unfold observe
  split
  · exact .inl rfl
  · rename_i trigger _
    split
    · exact .inl rfl
    · exact (resetFrom_cases p generation now inRuntime trigger).imp_right fun h =>
        ⟨trigger, h⟩

/-- **A new generation begins** with a run, or with nothing if none can be started. -/
theorem slot_advance (p : Provider) (now : Instant) (inRuntime : Bool) (trigger : Trigger) :
    (p.advance now inRuntime trigger).slot
      = if inRuntime then .pending p.runs.length else .empty := by
  rw [advance_eq]
  split
  · rw [slot_start]
    exact congrArg Slot.pending (length_runs_callOff p)
  · rfl

theorem slot_advance_ne_failed (p : Provider) (now : Instant) (inRuntime : Bool) (trigger : Trigger)
    (error : Error) (retryAt : Instant) :
    (p.advance now inRuntime trigger).slot ≠ .failed error retryAt := by
  intro h
  rw [slot_advance] at h
  split at h <;> cases h

/-- Asking begins no pause. -/
theorem failed_of_current {now : Instant} {error : Error} {retryAt : Instant}
    (h : (p.current now).2.slot = .failed error retryAt) : p.slot = .failed error retryAt := by
  unfold current at h
  split at h
  · exact h
  · split at h
    · exact h
    · exact h
    · split at h
      · exact h
      · cases h
    · cases h

/-- Disposal begins no pause. -/
theorem failed_of_dispose {error : Error} {retryAt : Instant}
    (h : p.dispose.slot = .failed error retryAt) : p.slot = .failed error retryAt := by
  unfold dispose at h
  split at h
  · exact h
  · cases h

/-- Who asks during a pause is turned away; who asks after it starts a run. -/
theorem current_of_failed {error : Error} {retryAt : Instant} (hd : p.isDisposed = false)
    (hs : p.slot = .failed error retryAt) (now : Instant) :
    p.current now = if now < retryAt then (.answer (.error error), p)
      else (.wait p.runs.length, p.start now) := by
  rw [current, if_neg (by simp [hd]), hs]

/-- Who asks while a run is under way waits for it. -/
theorem current_of_pending {run : Nat} (hd : p.isDisposed = false) (hs : p.slot = .pending run)
    (now : Instant) : p.current now = (.wait run, p) := by
  rw [current, if_neg (by simp [hd]), hs]

/-- Who asks when there is nothing starts a run. -/
theorem current_of_empty (hd : p.isDisposed = false) (hs : p.slot = .empty) (now : Instant) :
    p.current now = (.wait p.runs.length, p.start now) := by
  rw [current, if_neg (by simp [hd]), hs]

/-- **Who asks in a new generation waits for its first run**, whether the reset has started that or
the caller does. -/
theorem current_of_advance (hd : p.isDisposed = false) (now : Instant) (inRuntime : Bool)
    (trigger : Trigger) (now' : Instant) :
    let q := p.advance now inRuntime trigger
    (q.current now').1 = .wait p.runs.length
      ∧ (q.current now').2.slot = .pending p.runs.length
      ∧ (q.current now').2.generation = q.generation
      ∧ (q.current now').2.trigger = q.trigger := by
  intro q
  have hdq : q.isDisposed = false := by
    show (p.advance now inRuntime trigger).isDisposed = false
    rw [advance_eq]
    split <;> exact (isDisposed_callOff p).trans hd
  have hslot : q.slot = if inRuntime then .pending p.runs.length else .empty := slot_advance ..
  cases inRuntime with
  | true =>
    rw [if_pos rfl] at hslot
    rw [current_of_pending hdq hslot]
    exact ⟨rfl, hslot, rfl, rfl⟩
  | false =>
    rw [if_neg Bool.false_ne_true] at hslot
    have hlength : q.runs.length = p.runs.length := length_runs_callOff p
    rw [current_of_empty hdq hslot, hlength]
    exact ⟨rfl, congrArg Slot.pending hlength, rfl, rfl⟩

end Provider

/-! ## Events -/

/-- When an event happens, if it brings a time. -/
def ProviderEvent.time? : ProviderEvent → Option Instant
  | .advance _ now _ | .reset now _ _ | .resetFrom _ now _ _ | .observe _ _ now _
  | .finish _ _ now _ => some now
  | _ => none

/-- The draw that an event brings. -/
def ProviderEvent.draw? : ProviderEvent → Option Float
  | .advance _ _ draw | .finish _ _ _ draw => some draw
  | _ => none

namespace Service

variable {s : Service} {event : ProviderEvent}

/-- **A caller asks for the connection.** -/
def Asks (s : Service) (event : ProviderEvent) (i : Nat) (now : Instant) : Prop :=
  s.callers[i]? = some .asking ∧ ∃ draw, event = .advance i now draw

theorem perform_of_asks {i : Nat} {now : Instant} (h : s.Asks event i now) :
    (s.perform event).provider = (s.provider.current now).2
      ∧ (s.perform event).callers[i]? = some (s.provider.current now).1.phase := by
  obtain ⟨hcall, draw, rfl⟩ := h
  exact (perform_advance hcall now draw).symm

/-- **What an event does to the provider.** -/
inductive Effect (s : Service) (event : ProviderEvent) : Provider → Prop where
  | stay : Effect s event s.provider
  /-- A reset, a failed call, or a caller that replaces the connection. -/
  | advance (now : Instant) (inRuntime : Bool) (trigger : Trigger) :
      Effect s event (s.provider.advance now inRuntime trigger)
  | dispose : Effect s event s.provider.dispose
  | breakDown (run : Nat) : Effect s event (s.provider.breakDown run)
  | finish (run : Nat) (result : Except Error Link) (now : Instant) (draw : Float)
      (ht : event.time? = some now) (hd : event.draw? = some draw) :
      Effect s event (s.provider.finish run result now draw)
  /-- A caller comes back to the run for which it waits. -/
  | poll (run : Nat) (now : Instant) (draw : Float) (ht : event.time? = some now)
      (hd : event.draw? = some draw) : Effect s event (s.provider.poll run now draw).2
  | ask (i : Nat) (now : Instant) (h : s.Asks event i now) :
      Effect s event (s.provider.current now).2

theorem effect_perform (s : Service) (event : ProviderEvent) :
    Effect s event (s.perform event).provider := by
  have hreset : ∀ (now : Instant) (inRuntime : Bool) (trigger : Trigger) {q : Provider},
      q = s.provider ∨ q = s.provider.advance now inRuntime trigger → Effect s event q := by
    rintro now inRuntime trigger q (rfl | rfl)
    · exact .stay
    · exact .advance now inRuntime trigger
  cases event with
  | come | giveUp => exact .stay
  | reset now inRuntime trigger =>
    exact hreset now inRuntime trigger (Provider.reset_cases ..)
  | resetFrom generation now inRuntime trigger =>
    exact hreset now inRuntime trigger (Provider.resetFrom_cases ..)
  | observe generation status now inRuntime =>
    rcases s.provider.observe_cases generation status now inRuntime with h | ⟨trigger, h⟩
    · exact hreset now inRuntime .rediscover (.inl h)
    · exact hreset now inRuntime trigger (.inr h)
  | dispose => exact .dispose
  | finish run result now draw => exact .finish run result now draw rfl rfl
  | breakDown run => exact .breakDown run
  | advance i now draw =>
    show Effect s _ (s.stepCaller i now draw).provider
    unfold stepCaller
    cases hcall : s.callers[i]? with
    | none => exact .stay
    | some call =>
      cases call with
      | forcing trigger => exact hreset now true trigger (Provider.reset_cases ..)
      | asking => exact .ask i now ⟨hcall, draw, rfl⟩
      | waiting run => exact .poll run now draw rfl rfl
      | done | brokenDown | gone => exact .stay

/-- **A run starts** when a caller asks, or in a new generation. -/
theorem length_runs_perform (h : ∀ i now, ¬s.Asks event i now) :
    (s.perform event).provider.runs.length = s.provider.runs.length
      ∨ (s.perform event).provider.generation = s.provider.generation + 1 := by
  have heffect := s.effect_perform event
  generalize (s.perform event).provider = q at heffect
  cases heffect with
  | stay => exact .inl rfl
  | advance => exact .inr (Provider.generation_advance ..)
  | dispose => exact .inl (Provider.length_runs_dispose _)
  | breakDown run => exact .inl (Provider.length_runs_breakDown ..)
  | finish run result now draw => exact .inl (Provider.length_runs_finish ..)
  | poll run now draw => exact .inl (Provider.length_runs_poll ..)
  | ask i now hasks => exact absurd hasks (h i now)

/-- **A pause begins with a failure** that is applied at the time of the event, and with its
draw. -/
theorem retryAt_of_perform {error : Error} {retryAt : Instant}
    (h : (s.perform event).provider.slot = .failed error retryAt) :
    s.provider.slot = .failed error retryAt
      ∨ ∃ now draw, event.time? = some now ∧ event.draw? = some draw
        ∧ retryAt = Provider.retryTime now (s.provider.backoff.next draw).1 := by
  have heffect := s.effect_perform event
  generalize (s.perform event).provider = q at h heffect
  cases heffect with
  | stay => exact .inl h
  | advance => exact (Provider.slot_advance_ne_failed _ _ _ _ _ _ h).elim
  | dispose => exact .inl (Provider.failed_of_dispose h)
  | breakDown run => exact .inl ((Provider.slot_breakDown ..).symm.trans h)
  | finish run result now draw ht hd =>
    exact (Provider.retryAt_of_finish h).imp_right fun heq => ⟨now, draw, ht, hd, heq⟩
  | poll run now draw ht hd =>
    exact (Provider.retryAt_of_poll h).imp_right fun heq => ⟨now, draw, ht, hd, heq⟩
  | ask i now hasks => exact .inl (Provider.failed_of_current h)

end Service

end ClusterLink
