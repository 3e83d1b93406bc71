import ClusterLink.Proofs.Resolver.Flight

/-!
# The ticks of the refresh in the background

The refresh in the background is one task in the life of a resolver: the first call that starts it
does, unless there is no interval or the resolver was shut down, and from then on only a shutdown
ends it (`DiscoveryRun.starts_iff`, `DiscoveryRun.isAlive_iff`). It is either waiting for its next
tick or busy with one call for a refresh, whose result it does not look at.

When the next tick is due is kept all along (`RefreshPhase.due?`). It is one interval away when the
task takes its first step, and each time a tick is taken it moves on by a number of intervals
(`Resolver.exists_nextTick`), so every tick is due at a multiple of the interval, and at a later one
than all ticks before it. As long as its resolutions come to an end there is always another tick
(`DiscoveryRun.LetsRun.exists_issues_of_starts`). All this together is
`DiscoveryRun.refresh_keeps_ticks`.
-/

namespace ClusterLink

/-- When the next tick of the refresh in the background is due. -/
def RefreshPhase.due? : RefreshPhase → Option Instant
  | .ticking due | .refreshing _ due => some due
  | _ => none

/-- How many more steps a call takes at most. -/
def RefreshCall.stepsAhead : RefreshCall → Nat
  | .fresh => 5
  | .admitted => 4
  | .joining => 3
  | .waiting _ => 2
  | .leaving .. => 1
  | .done _ | .gone => 0

namespace Resolver

variable {r r' : Resolver}

/-! ## One tick -/

/-- **The next tick is due some intervals after the last one**, and at most one after the last one
is taken. -/
theorem exists_nextTick {period : Duration} (hp : 0 < period.nanos) {due now : Nat}
    (h : due ≤ now) : ∃ k, 0 < k ∧ nextTick period due now = due + k * period.nanos
      ∧ nextTick period due now ≤ now + period.nanos := by
  unfold nextTick
  split
  · -- the intervals that have passed since, and one more
    have hdiv : (now - due) / period.nanos * period.nanos + (now - due) % period.nanos
        = now - due :=
      Nat.div_add_mod' _ _
    have hmod : (now - due) % period.nanos < period.nanos := Nat.mod_lt _ hp
    refine ⟨(now - due) / period.nanos + 1, Nat.succ_pos _, ?_, Nat.sub_le _ _⟩
    rw [Nat.succ_mul]
    generalize (now - due) / period.nanos * period.nanos = passed at *
    generalize (now - due) % period.nanos = rest at *
    show (now + period.nanos - rest : Nat) = due + (passed + period.nanos)
    omega
  · exact ⟨1, Nat.one_pos, by rw [Nat.one_mul], Nat.add_le_add_right h _⟩

/-! ## One event -/

theorem startRefresh_iff : r.startRefresh.1 = true
    ↔ r.settings.interval ≠ none ∧ r.isShutDown = false ∧ r.refresh = .off := by
  have hoff : r.refresh.isOff = true ↔ r.refresh = .off := by
    cases r.refresh <;> simp [RefreshPhase.isOff]
  rw [← hoff, startRefresh]
  cases r.settings.interval <;> cases r.isShutDown <;> cases r.refresh.isOff <;> simp

theorem stepsAhead_lt_of_advanceCall {call call' : RefreshCall} {isCancelled : Bool}
    (h : r.advanceCall call isCancelled = some (call', r')) :
    call'.stepsAhead < call.stepsAhead := by
  cases callStep_of_advanceCall h <;> simp [RefreshCall.stepsAhead]

/-- **A step of the refresh in the background**, from one phase to the next. -/
inductive Move (r : Resolver) (now : Instant) : RefreshPhase → RefreshPhase → Prop where
  | begin (period : Duration) (hp : r.settings.interval = some period) :
      Move r now .starting (.ticking (now + period.nanos))
  | tick (period : Duration) (hp : r.settings.interval = some period) (due : Instant)
      (hdue : due ≤ now) :
      Move r now (.ticking due) (.refreshing .fresh (nextTick period due now))
  | go (call call' : RefreshCall) (due : Instant) (r' : Resolver)
      (hcall : r.advanceCall call r.isShutDown = some (call', r'))
      (hne : ∀ result, call' ≠ .done result) :
      Move r now (.refreshing call due) (.refreshing call' due)
  | settle (call : RefreshCall) (result : Except Error Resolution) (due : Instant) (r' : Resolver)
      (hcall : r.advanceCall call r.isShutDown = some (.done result, r')) :
      Move r now (.refreshing call due) (.ticking due)

theorem move_of_refreshStep {now : Instant} (h : r.refreshStep now = some r') :
    Move r now r.refresh r'.refresh := by
  unfold refreshStep at h
  split at h
  · cases h
  · rename_i period hp
    split at h
    · cases h
    · rename_i hphase
      cases h
      rw [hphase]
      exact .begin period hp
    · rename_i due hphase
      split at h
      · cases h
      · rename_i hdue
        cases h
        rw [hphase]
        exact .tick period hp due (Nat.not_lt.1 hdue)
    · rename_i call due hphase
      rw [hphase]
      split at h
      · cases h
      · rename_i result r'' hcall
        cases h
        exact .settle call result due r'' hcall
      · rename_i call' r'' hne hcall
        cases h
        exact .go call call' due r'' hcall fun result heq => hne result heq

/-- **When the refresh in the background takes no step**: there is none, its tick is not due, or its
call has to wait. -/
theorem refreshStep_eq_none_iff {now : Instant} : r.refreshStep now = none
    ↔ r.settings.interval = none ∨ r.refresh = .off
      ∨ (∃ due, r.refresh = .ticking due ∧ now < due)
      ∨ ∃ call due, r.refresh = .refreshing call due
        ∧ r.advanceCall call r.isShutDown = none := by
  unfold refreshStep
  cases r.settings.interval with
  | none => simp
  | some period =>
    cases r.refresh with
    | off => simp
    | starting => simp
    | ticking due => simp
    | refreshing call due =>
      simp only [reduceCtorEq, false_and, exists_false, false_or, RefreshPhase.refreshing.injEq]
      constructor
      · intro h
        split at h
        · exact ⟨call, due, ⟨rfl, rfl⟩, ‹_›⟩
        · cases h
        · cases h
      · rintro ⟨call', due', ⟨rfl, rfl⟩, hcall⟩
        rw [hcall]

/-- **What an event does to the refresh in the background**, which goes from one phase to the
next. -/
inductive Beat (r : Resolver) : DiscoveryEvent → RefreshPhase → RefreshPhase → Prop where
  /-- It is not started, takes no step and is not stopped. -/
  | rest (event : DiscoveryEvent) (phase : RefreshPhase)
      (hstart : event = .startRefresh → r.startRefresh.1 = false)
      (hidle : ∀ now, event = .refreshStep now → r.refreshStep now = none)
      (hstop : event ≠ .shutdown) : Beat r event phase phase
  | start (h : r.startRefresh.1 = true) : Beat r .startRefresh .off .starting
  | step (now : Instant) (before after : RefreshPhase) (hstep : r.refreshStep now ≠ none)
      (hmove : Move r now before after) : Beat r (.refreshStep now) before after
  | stop (phase : RefreshPhase) : Beat r .shutdown phase .off

namespace Beat

variable {event : DiscoveryEvent} {before after : RefreshPhase}

/-- **It is started once, and stopped by a shutdown only.** -/
theorem ne_off_iff (h : Beat r event before after) : after ≠ .off
    ↔ event ≠ .shutdown
      ∧ (before ≠ .off ∨ event = .startRefresh ∧ r.startRefresh.1 = true) := by
  cases h with
  | rest _ _ hstart hidle hstop =>
    have hnot : ¬(event = .startRefresh ∧ r.startRefresh.1 = true) := fun h => by
      cases (hstart h.1).symm.trans h.2
    simp only [ne_eq, hstop, not_false_eq_true, true_and, hnot, or_false]
  | start h => simp [h]
  | step now _ _ hstep hmove => cases hmove <;> simp
  | stop => simp

/-- **Where it is known when the next tick is due**, that has been so before, or the first tick is
still to come, or a tick is taken. -/
theorem due?_cases {due' : Instant} (h : Beat r event before after)
    (hdue' : after.due? = some due') :
    before.due? = some due'
      ∨ ∃ now period, event = .refreshStep now ∧ r.settings.interval = some period
        ∧ (before = .starting ∧ due' = now + period.nanos
          ∨ ∃ due, before = .ticking due ∧ due ≤ now
            ∧ due' = nextTick period due now) := by
  cases h with
  | rest => exact .inl hdue'
  | step now _ _ hstep hmove =>
    cases hmove with
    | begin period hp =>
      cases hdue'
      exact .inr ⟨now, period, rfl, hp, .inl ⟨rfl, rfl⟩⟩
    | tick period hp due hdue =>
      cases hdue'
      exact .inr ⟨now, period, rfl, hp, .inr ⟨due, rfl, hdue, rfl⟩⟩
    | go | settle => exact .inl hdue'
  | start | stop => cases hdue'

/-- A refresh in the background that takes no step and is not stopped stays as it is. -/
theorem phase_eq (h : Beat r event before after) (hoff : before ≠ .off)
    (hstop : event ≠ .shutdown)
    (hidle : ∀ now, event = .refreshStep now → r.refreshStep now = none) : after = before := by
  cases h with
  | rest => rfl
  | start => exact absurd rfl hoff
  | step now _ _ hstep => exact absurd (hidle now rfl) hstep
  | stop => exact absurd rfl hstop

/-- A step that is taken is a move. -/
theorem move {now : Instant} (h : Beat r (.refreshStep now) before after)
    (hstep : r.refreshStep now ≠ none) : Move r now before after := by
  cases h with
  | rest _ _ _ hidle => exact absurd (hidle now rfl) hstep
  | step _ _ _ _ hmove => exact hmove

end Beat

theorem beat_refreshStep (r : Resolver) (now : Instant) :
    Beat r (.refreshStep now) r.refresh ((r.refreshStep now).getD r).refresh := by
  cases hstep : r.refreshStep now with
  | none =>
    refine .rest _ _ nofun (fun now' h => ?_) nofun
    cases h
    exact hstep
  | some r' => exact .step now _ _ (by rw [hstep]; nofun) (move_of_refreshStep hstep)

theorem beat_startRefresh (r : Resolver) :
    Beat r .startRefresh r.refresh r.startRefresh.2.refresh := by
  by_cases hstart : r.startRefresh.1 = true
  · have hphase : r.startRefresh.2.refresh = .starting := by
      unfold startRefresh at hstart ⊢
      split at hstart
      · cases hstart
      · rename_i hcond
        rw [if_neg hcond]
    rw [hphase, (startRefresh_iff.1 hstart).2.2]
    exact .start hstart
  · have hphase : r.startRefresh.2.refresh = r.refresh := by
      unfold startRefresh at hstart ⊢
      split at hstart
      · rename_i hcond
        rw [if_pos hcond]
      · exact absurd rfl hstart
    rw [hphase]
    exact .rest _ _ (fun _ => Bool.eq_false_iff.2 hstart) nofun nofun

theorem refresh_shutdown (r : Resolver) : r.shutdown.refresh = .off := by
  unfold shutdown stopRefresh
  split <;> rfl

end Resolver

/-- **Every event does one of these** to the refresh in the background. -/
theorem Discovery.beat_perform (d : Discovery) (event : DiscoveryEvent) :
    Resolver.Beat d.resolver event d.resolver.refresh (d.perform event).resolver.refresh := by
  -- what is no concern of the refresh in the background leaves it as it is
  have hrest : ∀ {r : Resolver}, r.refresh = d.resolver.refresh → event ≠ .startRefresh →
      (∀ now, event ≠ .refreshStep now) → event ≠ .shutdown →
        Resolver.Beat d.resolver event d.resolver.refresh r.refresh := fun hr hstart hstep hstop =>
    hr ▸ .rest event _ (fun h => absurd h hstart) (fun now h => absurd h (hstep now)) hstop
  cases event with
  | startRefresh => exact Resolver.beat_startRefresh d.resolver
  | refreshStep now => exact Resolver.beat_refreshStep d.resolver now
  | shutdown =>
    have hoff : (d.perform .shutdown).resolver.refresh = .off :=
      Resolver.refresh_shutdown d.resolver
    rw [hoff]
    exact .stop _
  | come => exact hrest rfl nofun nofun nofun
  | cancel i =>
    refine hrest ?_ nofun nofun nofun
    show (d.cancelRequest i).resolver.refresh = _
    unfold cancelRequest
    split <;> rfl
  | advance i =>
    refine hrest ?_ nofun nofun nofun
    show (d.stepRequest i).resolver.refresh = _
    unfold stepRequest
    split
    · rfl
    · split
      · rfl
      · exact Resolver.refresh_advanceCall ‹_›
  | drop i =>
    refine hrest ?_ nofun nofun nofun
    show (d.dropRequest i).resolver.refresh = _
    unfold dropRequest
    split
    · rfl
    · exact Resolver.refresh_quit _ _
  | step id resumed arrange now draw =>
    exact hrest (Resolver.progress_step d.cache d.resolver id resumed arrange now draw).refresh_eq
      nofun nofun nofun
  | answer id outcome now =>
    exact hrest (Resolver.progress_takeIn d.cache d.resolver id outcome now).refresh_eq
      nofun nofun nofun
  | breakDown id =>
    exact hrest (Resolver.progress_breakDown d.cache d.resolver id).refresh_eq nofun nofun nofun
  | use use => exact hrest rfl nofun nofun nofun

/-! ## Whole runs -/

namespace DiscoveryRun

/-- **A clock** of a run, read by the refresh in the background. It never goes back. -/
structure Clock (x : DiscoveryRun) where
  time : Nat → Instant
  time_le : ∀ {m n : Nat}, m ≤ n → time m ≤ time n
  reads : ∀ {n : Nat} {now : Instant}, x.events n = .refreshStep now → now = time n

section

variable (x : DiscoveryRun)

/-- How far the refresh in the background has come after the first `n` events. -/
def refreshAt (n : Nat) : RefreshPhase := (x.state n).resolver.refresh

/-- The refresh in the background takes a step. -/
def Beats (n : Nat) : Prop := ∃ now, x.events n = .refreshStep now

/-- The refresh in the background is started. -/
def Starts (n : Nat) : Prop :=
  x.events n = .startRefresh ∧ (x.state n).resolver.startRefresh.1 = true

/-- The refresh in the background, started by event `k`, takes its first step. -/
def SetsOut (k n : Nat) : Prop :=
  x.Starts k ∧ k < n ∧ x.Beats n ∧ ∀ i, k < i → i < n → ¬x.Beats i

/-- The tick that is due at the given instant is taken, and a refresh is issued. -/
def Issues (n : Nat) (due : Instant) : Prop :=
  x.refreshAt n = .ticking due ∧ ∃ next, x.refreshAt (n + 1) = .refreshing .fresh next

/-- The refresh that was issued last ends in the result. -/
def Ends (n : Nat) (result : Except Error Resolution) : Prop :=
  ∃ call due r, x.Beats n ∧ x.refreshAt n = .refreshing call due
    ∧ (x.state n).resolver.advanceCall call (x.state n).resolver.isShutDown
      = some (.done result, r)

/-- **The refresh in the background is let run**: it takes its steps, time goes on, every resolution
that it waits for is over one day, and nobody shuts the resolver down. -/
structure LetsRun (clock : x.Clock) : Prop where
  beats : ∀ n, ∃ m, n ≤ m ∧ x.Beats m
  time : ∀ t, ∃ n, t ≤ clock.time n
  settles : ∀ n id due, x.refreshAt n = .refreshing (.waiting id) due →
    ∃ m result, (x.state m).resolver.result? id = some result
  up : ∀ n, x.events n ≠ .shutdown

end

variable {x : DiscoveryRun} {clock : x.Clock} {k m n : Nat} {due due' : Instant}

theorem beat (x : DiscoveryRun) (n : Nat) :
    Resolver.Beat (x.state n).resolver (x.events n) (x.refreshAt n) (x.refreshAt (n + 1)) :=
  Discovery.beat_perform (x.state n) (x.events n)

/-! ### Start and end -/

theorem isShutDown_iff (x : DiscoveryRun) (n : Nat) :
    (x.state n).resolver.isShutDown = true ↔ ∃ m, m < n ∧ x.events m = .shutdown := by
  constructor
  · intro h
    induction n with
    | zero => cases h
    | succ n ih =>
      by_cases hstop : x.events n = .shutdown
      · exact ⟨n, Nat.lt_succ_self n, hstop⟩
      · obtain ⟨m, hmn, hm⟩ :=
          ih (((Discovery.change_perform _ _).isShutDown_eq hstop).symm.trans h)
        exact ⟨m, Nat.lt_succ_of_lt hmn, hm⟩
  · rintro ⟨m, hmn, hm⟩
    refine (x.grows (Nat.succ_le_of_lt hmn)).isShutDown ?_
    show ((x.state m).perform (x.events m)).resolver.isShutDown = true
    rw [hm]
    show (x.state m).resolver.shutdown.isShutDown = true
    unfold Resolver.shutdown Resolver.stopRefresh
    split
    · exact (Resolver.Spares.quit { (x.state m).resolver with isShutDown := true } _).isShutDown_eq
    · rfl

theorem Starts.not_shutdown (h : x.Starts n) :
    ∀ m, m < n → x.events m ≠ .shutdown := fun m hm hstop => by
  cases (Resolver.startRefresh_iff.1 h.2).2.1.symm.trans ((x.isShutDown_iff n).2 ⟨m, hm, hstop⟩)

/-- **The refresh in the background lives** from its start to a shutdown. -/
theorem isAlive_iff (x : DiscoveryRun) (n : Nat) :
    x.refreshAt n ≠ .off ↔ (∃ k, k < n ∧ x.Starts k) ∧ ∀ m, m < n →
      x.events m ≠ .shutdown := by
  induction n with
  | zero => simp [refreshAt, state]
  | succ n ih =>
    have hbeat : x.refreshAt (n + 1) ≠ .off
        ↔ x.events n ≠ .shutdown ∧ (x.refreshAt n ≠ .off ∨ x.Starts n) :=
      (x.beat n).ne_off_iff
    rw [hbeat, ih, Nat.forall_lt_succ_right, Nat.exists_lt_succ_right]
    constructor
    · rintro ⟨hstop, ⟨hstarted, hup⟩ | h⟩
      · exact ⟨.inl hstarted, hup, hstop⟩
      · exact ⟨.inr h, h.not_shutdown, hstop⟩
    · rintro ⟨hstarted | h, hup, hstop⟩
      · exact ⟨hstop, .inl ⟨hstarted, hup⟩⟩
      · exact ⟨hstop, .inr h⟩

/-- **The first call that starts the refresh in the background does**, unless the resolver was shut
down. -/
theorem starts_iff (x : DiscoveryRun) (n : Nat) :
    (x.state n).resolver.startRefresh.1 = true ↔ x.settings.interval ≠ none
      ∧ ∀ m, m < n → x.events m ≠ .startRefresh ∧ x.events m ≠ .shutdown := by
  have hoff : ∀ n, (x.state n).resolver.refresh = .off
      ↔ ¬((∃ k, k < n ∧ x.Starts k) ∧ ∀ m, m < n →
        x.events m ≠ .shutdown) := fun n =>
    not_iff_not.1 ((x.isAlive_iff n).trans Classical.not_not.symm)
  have hup : ∀ n, (x.state n).resolver.isShutDown = false ↔ ∀ m, m < n →
      x.events m ≠ .shutdown :=
    fun n => by
      rw [← Bool.not_eq_true, x.isShutDown_iff n]
      simp
  have hanswer : ∀ n, (x.state n).resolver.startRefresh.1 = true
      ↔ x.settings.interval ≠ none ∧ (∀ m, m < n → x.events m ≠ .shutdown)
        ∧ ¬∃ k, k < n ∧ x.Starts k := fun n => by
    rw [Resolver.startRefresh_iff, (x.seeds_and_settings_eq n).2, hoff, hup]
    exact and_congr_right fun _ => and_congr_right fun hup => not_congr (and_iff_left hup)
  rw [hanswer]
  refine and_congr_right fun hinterval =>
    ⟨fun ⟨hup, hnone⟩ m hm => ⟨fun hm' => hnone ?_, hup m hm⟩,
      fun h => ⟨fun m hm => (h m hm).2, fun ⟨k, hk, hstarts⟩ => (h k hk).1 hstarts.1⟩⟩
  -- the earlier call has started it, unless it was started already
  by_cases hearlier : ∃ k, k < m ∧ x.Starts k
  · obtain ⟨k, hk, hstarts⟩ := hearlier
    exact ⟨k, Nat.lt_trans hk hm, hstarts⟩
  · exact ⟨m, hm, hm',
      (hanswer m).2 ⟨hinterval, fun i hi => hup i (Nat.lt_trans hi hm), hearlier⟩⟩

theorem Starts.eq (h : x.Starts m) (h' : x.Starts n) : m = n := by
  have hnot : ∀ {m n : Nat}, x.Starts m → x.Starts n → ¬m < n := fun h h' hlt =>
    ((((x.starts_iff _).1 h'.2).2 _ hlt).1 h.1).elim
  exact Nat.le_antisymm (Nat.not_lt.1 (hnot h' h)) (Nat.not_lt.1 (hnot h h'))

/-! ### Ticks -/

/-- **When a living refresh in the background takes no step**: its tick is not due, or its call has
to wait. -/
theorem idle_iff (h : x.refreshAt n ≠ .off) {now : Instant} :
    (x.state n).resolver.refreshStep now = none
    ↔ (∃ due, x.refreshAt n = .ticking due ∧ now < due) ∨ ∃ call due,
      x.refreshAt n = .refreshing call due
      ∧ (x.state n).resolver.advanceCall call (x.state n).resolver.isShutDown = none := by
  have hinterval : (x.state n).resolver.settings.interval ≠ none := by
    obtain ⟨⟨k, -, hstarts⟩, -⟩ := (x.isAlive_iff n).1 h
    rw [(x.seeds_and_settings_eq n).2]
    exact ((x.starts_iff k).1 hstarts.2).1
  rw [Resolver.refreshStep_eq_none_iff, or_iff_right hinterval]
  exact or_iff_right h

theorem Issues.tick (h : x.Issues n due) : ∃ now period, x.events n = .refreshStep now
    ∧ x.settings.interval = some period ∧ due ≤ now
    ∧ x.refreshAt (n + 1) = .refreshing .fresh (Resolver.nextTick period due now) := by
  obtain ⟨hticking, next, hnext⟩ := h
  have hbeat := x.beat n
  rw [hticking, hnext] at hbeat
  generalize x.events n = event at hbeat ⊢
  cases hbeat with
  | step now _ _ hstep hmove =>
    cases hmove with
    | tick period hp _ hdue =>
      exact ⟨now, period, rfl, (x.seeds_and_settings_eq n).2 ▸ hp, hdue, hnext⟩

/-- A tick is taken in the course of the life of the refresh in the background. -/
theorem Issues.isAlive (h : x.Issues n due) :
    (∃ k, k < n ∧ x.Starts k) ∧ ∀ m, m < n → x.events m ≠ .shutdown :=
  (x.isAlive_iff n).1 fun hoff => by cases hoff.symm.trans h.1

/-- Until it takes its first step, the refresh in the background has just been started. -/
theorem starts_of_starting (h : x.refreshAt n = .starting) :
    ∃ k, k < n ∧ x.Starts k ∧ ∀ i, k < i → i < n → ¬x.Beats i := by
  induction n with
  | zero => cases h
  | succ n ih =>
    have hbeat := x.beat n
    rw [h] at hbeat
    generalize hevent : x.events n = event at hbeat
    generalize hbefore : x.refreshAt n = before at hbeat
    cases hbeat with
    | rest _ _ _ hidle =>
      obtain ⟨k, hk, hstarts, hnone⟩ := ih hbefore
      refine ⟨k, Nat.lt_succ_of_lt hk, hstarts, fun i hki hi => ?_⟩
      rcases Nat.lt_succ_iff_lt_or_eq.1 hi with hi | rfl
      · exact hnone i hki hi
      · rintro ⟨now, hnow⟩
        have hwaits := (idle_iff (hbefore ▸ nofun)).1 (hidle now (hevent.symm.trans hnow))
        simp [hbefore] at hwaits
    | start hstarts =>
      exact ⟨n, Nat.lt_succ_self n, ⟨hevent, hstarts⟩, fun i hni hi => by omega⟩
    | step now _ _ hstep hmove => cases hmove

section

variable (clock : x.Clock) (hvalid : x.settings.validate = .ok ())

include hvalid in
theorem nanos_pos {period : Duration} (hp : x.settings.interval = some period) : 0 < period.nanos :=
  Duration.isZero_eq_false_iff.1 ((ResolverSettings.validate_eq_ok_iff.1 hvalid).interval period hp)

include hvalid in
/-- **The next tick is due at a multiple of the interval**, counted from the first step. -/
theorem due_eq (hdue : (x.refreshAt n).due? = some due) : ∃ k j i period,
    x.settings.interval = some period ∧ x.SetsOut k j ∧ j < n ∧ 0 < i
      ∧ due = clock.time j + i * period.nanos := by
  induction n generalizing due with
  | zero => cases hdue
  | succ n ih =>
    rcases (x.beat n).due?_cases hdue with hbefore | ⟨now, period, hevent, hp, hcases⟩
    · obtain ⟨k, j, i, period, hp, hsetsOut, hj, hi, heq⟩ := ih hbefore
      exact ⟨k, j, i, period, hp, hsetsOut, Nat.lt_succ_of_lt hj, hi, heq⟩
    · rw [(x.seeds_and_settings_eq n).2] at hp
      rcases hcases with ⟨hstarting, rfl⟩ | ⟨due', hticking, hle, rfl⟩
      · obtain ⟨k, hk, hstarts, hnone⟩ := starts_of_starting hstarting
        refine ⟨k, n, 1, period, hp, ⟨hstarts, hk, ⟨now, hevent⟩, hnone⟩,
          Nat.lt_succ_self n, Nat.one_pos, ?_⟩
        rw [Nat.one_mul, clock.reads hevent]
      · have hdue' : (x.refreshAt n).due? = some due' := congrArg RefreshPhase.due? hticking
        obtain ⟨k, j, i, period', hp', hsetsOut, hj, hi, heq⟩ := ih hdue'
        cases hp.symm.trans hp'
        obtain ⟨l, hl, hnext, -⟩ := Resolver.exists_nextTick (nanos_pos hvalid hp) hle
        refine ⟨k, j, i + l, period, hp, hsetsOut, Nat.lt_succ_of_lt hj,
          Nat.add_pos_left hi l, ?_⟩
        rw [hnext, heq, Nat.add_mul, Nat.add_assoc]

include hvalid in
/-- **Once a tick is taken, a later one is next.** -/
theorem due_lt_of_issues (h : x.Issues m due) (hmn : m < n)
    (hdue : (x.refreshAt n).due? = some due') :
    due < due' := by
  obtain ⟨now, period, hevent, hp, hle, hnext⟩ := h.tick
  have hpos := nanos_pos hvalid hp
  -- each further tick is later than the one before it
  have hlater : ∀ {due now : Instant}, due ≤ now → due < Resolver.nextTick period due now :=
    fun hle => by
      obtain ⟨l, hl, heq, -⟩ := Resolver.exists_nextTick hpos hle
      rw [heq]
      exact Nat.lt_add_of_pos_right (Nat.mul_pos hl hpos)
  induction hmn generalizing due' with
  | refl =>
    rw [hnext] at hdue
    cases hdue
    exact hlater hle
  | @step n hmn ih =>
    rcases (x.beat n).due?_cases hdue with hbefore | ⟨now', period', -, hp', hcases⟩
    · exact ih hbefore
    · rw [(x.seeds_and_settings_eq n).2] at hp'
      cases hp.symm.trans hp'
      rcases hcases with ⟨hstarting, -⟩ | ⟨due'', hticking, hle', rfl⟩
      · -- the first step comes before all ticks
        obtain ⟨k, -, hstarts, hnone⟩ := starts_of_starting hstarting
        obtain ⟨⟨k', hk', hstarts'⟩, -⟩ := h.isAlive
        cases hstarts.eq hstarts'
        exact absurd ⟨now, hevent⟩ (hnone m hk' hmn)
      · exact Nat.lt_trans (ih (congrArg RefreshPhase.due? hticking)) (hlater hle')

end

/-! ### Calls -/

/-- The call of the refresh in the background is not over. -/
theorem stepsAhead_pos {call : RefreshCall} (h : x.refreshAt n = .refreshing call due) :
    0 < call.stepsAhead := by
  induction n generalizing call due with
  | zero => cases h
  | succ n ih =>
    have hbeat := x.beat n
    rw [h] at hbeat
    generalize x.events n = event at hbeat
    generalize hbefore : x.refreshAt n = before at hbeat
    cases hbeat with
    | rest => exact ih hbefore
    | step now _ _ hstep hmove =>
      cases hmove with
      | tick => exact Nat.succ_pos 4
      | go old _ _ r' hcall hne =>
        cases Resolver.callStep_of_advanceCall hcall with
        | refused | disposed | left => exact absurd rfl (hne _)
        | _ => exact Nat.succ_pos _

/-- **A refresh is over before the next one is issued.** -/
theorem exists_ends (h : x.Issues m due) (hmn : m < n)
    (hup : ∀ i, i < n → x.events i ≠ .shutdown) :
    (∃ call next, x.refreshAt n = .refreshing call next)
      ∨ ∃ i result, m < i ∧ i < n ∧ x.Ends i result := by
  induction hmn with
  | refl => exact .inl ⟨_, h.2⟩
  | @step n hmn ih =>
    rcases ih fun i hi => hup i (Nat.lt_succ_of_lt hi) with ⟨call, next, hcall⟩
      | ⟨i, result, hmi, hin, hends⟩
    · have hbeat := x.beat n
      rw [hcall] at hbeat
      generalize hevent : x.events n = event at hbeat
      generalize x.refreshAt (n + 1) = after at hbeat ⊢
      cases hbeat with
      | rest => exact .inl ⟨call, next, rfl⟩
      | step now _ _ hstep hmove =>
        cases hmove with
        | go _ call' => exact .inl ⟨call', next, rfl⟩
        | settle _ result _ r' hover =>
          exact .inr ⟨n, result, hmn, Nat.lt_succ_self n, call, next, r', ⟨now, hevent⟩,
            hcall, hover⟩
      | stop => exact absurd hevent (hup n (Nat.lt_succ_self n))
    · exact .inr ⟨i, result, hmi, Nat.lt_succ_of_lt hin, hends⟩

/-! ### The refreshing goes on -/

/-- **A step that can be taken from some instant on is taken.** -/
theorem LetsRun.exists_move (hrun : x.LetsRun clock) {phase : RefreshPhase}
    (h : x.refreshAt n = phase) (hne : phase ≠ .off)
    (hready : ∃ ready, ∀ m, ready ≤ m → x.refreshAt m = phase →
      (x.state m).resolver.refreshStep (clock.time m) ≠ none) :
    ∃ m now, n ≤ m ∧ x.refreshAt m = phase
      ∧ Resolver.Move (x.state m).resolver now phase (x.refreshAt (m + 1)) := by
  obtain ⟨ready, hready⟩ := hready
  by_contra hnone
  have hmoves : ∀ m now, n ≤ m → x.refreshAt m = phase → x.events m = .refreshStep now →
      (x.state m).resolver.refreshStep now = none := by
    intro m now hnm hphase hnow
    by_contra hstep
    have hbeat := x.beat m
    rw [hnow, hphase] at hbeat
    exact hnone ⟨m, now, hnm, hphase, hbeat.move hstep⟩
  have hstays : ∀ m, n ≤ m → x.refreshAt m = phase := by
    intro m hnm
    induction hnm with
    | refl => exact h
    | @step m hnm ih =>
      exact ((x.beat m).phase_eq (ih ▸ hne) (hrun.up m) fun now => hmoves m now hnm ih).trans ih
  obtain ⟨m, hm, now, hnow⟩ := hrun.beats (max n ready)
  have hnm : n ≤ m := Nat.le_trans (Nat.le_max_left n ready) hm
  have hstep := hready m (Nat.le_trans (Nat.le_max_right n ready) hm) (hstays m hnm)
  exact hstep (clock.reads hnow ▸ hmoves m now hnm (hstays m hnm) hnow)

/-- A tick is taken. -/
theorem LetsRun.exists_issues (hrun : x.LetsRun clock) (h : x.refreshAt n = .ticking due) :
    ∃ m, n ≤ m ∧ x.Issues m due := by
  obtain ⟨ready, hready⟩ := hrun.time due
  have hdue : ∀ m, ready ≤ m → x.refreshAt m = .ticking due →
      (x.state m).resolver.refreshStep (clock.time m) ≠ none := fun m hm hticking hnone => by
    have hearly : clock.time m < due := by
      simpa [hticking] using (idle_iff (hticking ▸ nofun)).1 hnone
    exact absurd (Nat.le_trans hready (clock.time_le hm)) (Nat.not_le.2 hearly)
  obtain ⟨m, now, hnm, hticking, hmove⟩ := hrun.exists_move h nofun ⟨ready, hdue⟩
  refine ⟨m, hnm, hticking, ?_⟩
  generalize x.refreshAt (m + 1) = after at hmove ⊢
  cases hmove with
  | tick => exact ⟨_, rfl⟩

/-- A call has to wait for its resolution, and for nothing else. -/
theorem LetsRun.exists_ready (hrun : x.LetsRun clock) {call : RefreshCall}
    (h : x.refreshAt n = .refreshing call due) : ∃ ready, ∀ m, ready ≤ m →
      (x.state m).resolver.advanceCall call (x.state m).resolver.isShutDown ≠ none := by
  cases call with
  | waiting id =>
    obtain ⟨ready, result, hresult⟩ := hrun.settles n id due h
    refine ⟨ready, fun m hm => ?_⟩
    rw [Resolver.advanceCall, (x.grows hm).result?_eq hresult]
    split <;> simp
  | fresh | admitted =>
    refine ⟨0, fun m _ => ?_⟩
    rw [Resolver.advanceCall]
    split <;> simp
  | joining | leaving =>
    refine ⟨0, fun m _ => ?_⟩
    rw [Resolver.advanceCall]
    simp
  | done | gone => cases stepsAhead_pos h

/-- A refresh comes to its end. -/
theorem LetsRun.exists_ticking (hrun : x.LetsRun clock) {call : RefreshCall}
    (h : x.refreshAt n = .refreshing call due) :
    ∃ m, n ≤ m ∧ x.refreshAt m = .ticking due := by
  induction hleft : call.stepsAhead using Nat.strongRecOn generalizing n call with
  | ind left ih =>
    obtain ⟨ready, hready⟩ := hrun.exists_ready h
    obtain ⟨m, now, hnm, -, hmove⟩ := hrun.exists_move h (by simp)
      ⟨ready, fun m hm hcall hnone =>
      hready m hm (by simpa [hcall] using (idle_iff (by simp [hcall])).1 hnone)⟩
    generalize hafter : x.refreshAt (m + 1) = after at hmove
    cases hmove with
    | go _ call' _ r' hcall =>
      obtain ⟨m', hm', hticking⟩ :=
        ih _ (hleft ▸ Resolver.stepsAhead_lt_of_advanceCall hcall) hafter rfl
      exact ⟨m', Nat.le_trans hnm (Nat.le_of_succ_le hm'), hticking⟩
    | settle => exact ⟨m + 1, Nat.le_succ_of_le hnm, hafter⟩

/-- The refresh in the background takes its first step. -/
theorem LetsRun.exists_ticking_of_starting (hrun : x.LetsRun clock)
    (h : x.refreshAt n = .starting) :
    ∃ m due, n ≤ m ∧ x.refreshAt m = .ticking due := by
  obtain ⟨m, now, hnm, -, hmove⟩ := hrun.exists_move h nofun ⟨0, fun m _ hstarting hnone => by
    simpa [hstarting] using (idle_iff (hstarting ▸ nofun)).1 hnone⟩
  generalize hafter : x.refreshAt (m + 1) = after at hmove
  cases hmove with
  | begin => exact ⟨m + 1, _, Nat.le_succ_of_le hnm, hafter⟩

/-- **A refresh in the background that is let run goes on for ever**, whatever its refreshes end
in. -/
theorem LetsRun.exists_issues_of_starts (hrun : x.LetsRun clock) (h : x.Starts k) (n : Nat) :
    ∃ m due, n ≤ m ∧ x.Issues m due := by
  have halive : x.refreshAt (max n (k + 1)) ≠ .off :=
    (x.isAlive_iff _).2 ⟨⟨k, Nat.le_max_right n (k + 1), h⟩, fun m _ => hrun.up m⟩
  have hticking : ∃ m due, max n (k + 1) ≤ m ∧ x.refreshAt m = .ticking due := by
    cases hphase : x.refreshAt (max n (k + 1)) with
    | off => exact absurd hphase halive
    | starting => exact hrun.exists_ticking_of_starting hphase
    | ticking due => exact ⟨_, due, Nat.le_refl _, hphase⟩
    | refreshing call due =>
      obtain ⟨m, hm, hticking⟩ := hrun.exists_ticking hphase
      exact ⟨m, due, hm, hticking⟩
  obtain ⟨m, due, hm, hticking⟩ := hticking
  obtain ⟨m', hm', hissues⟩ := hrun.exists_issues hticking
  exact ⟨m', due, Nat.le_trans (Nat.le_max_left n (k + 1)) (Nat.le_trans hm hm'), hissues⟩

/-! ### The whole life -/

/-- **The refresh in the background keeps to its ticks**, in a run with the given clock. -/
structure KeepsTicks (x : DiscoveryRun) (clock : x.Clock) : Prop where
  /-- A call starts it if it is the first to do so and the resolver was not shut down. -/
  starts_iff : ∀ n, (x.state n).resolver.startRefresh.1 = true ↔ x.settings.interval ≠ none
    ∧ ∀ m, m < n → x.events m ≠ .startRefresh ∧ x.events m ≠ .shutdown
  /-- It lives from its start to a shutdown, whatever its refreshes end in. -/
  isAlive_iff : ∀ n, x.refreshAt n ≠ .off
    ↔ (∃ k, k < n ∧ x.Starts k) ∧ ∀ m, m < n → x.events m ≠ .shutdown
  /-- A refresh is over before the next one is issued. -/
  apart : ∀ m n due due', x.Issues m due → x.Issues n due' → m < n →
    ∃ i result, m < i ∧ i < n ∧ x.Ends i result
  /-- After a result the next tick is waited for. -/
  ticks_on : ∀ n result, x.Ends n result → ∃ due, x.refreshAt (n + 1) = .ticking due
  /-- A refresh is issued no earlier than the multiple of the interval at which its tick is due,
  counted from the first step after the start. -/
  on_multiple : ∀ n due, x.Issues n due → ∃ k j i period, x.settings.interval = some period
    ∧ x.SetsOut k j ∧ j < n ∧ 0 < i ∧ due = clock.time j + i * period.nanos
    ∧ due ≤ clock.time n
  /-- That is a full interval after the start at the earliest. -/
  not_early : ∀ k n due period, x.Starts k → x.Issues n due →
    x.settings.interval = some period → k < n ∧ clock.time k + period.nanos ≤ clock.time n
  /-- No multiple has more than one tick. -/
  due_lt : ∀ m n due due', x.Issues m due → x.Issues n due' → m < n → due < due'
  /-- From a shutdown on no refresh is issued. -/
  not_issues : ∀ m n due, x.events m = .shutdown → m ≤ n → ¬x.Issues n due
  /-- There is no end to the refreshes, as long as it is let run. -/
  goes_on : ∀ k, x.Starts k → x.LetsRun clock → ∀ n, ∃ m due, n ≤ m ∧ x.Issues m due

/-- **One refresh in the background runs from its start to the shutdown**, whose refreshes come one
at a time and at the multiples of the interval. -/
theorem refresh_keeps_ticks (x : DiscoveryRun) (clock : x.Clock)
    (hvalid : x.settings.validate = .ok ()) :
    KeepsTicks x clock where
  starts_iff := x.starts_iff
  isAlive_iff := x.isAlive_iff
  apart := fun m n due due' h h' hmn => by
    refine (exists_ends h hmn h'.isAlive.2).resolve_left ?_
    rintro ⟨call, next, hcall⟩
    cases hcall.symm.trans h'.1
  ticks_on := fun n result ⟨call, due, r, ⟨now, hnow⟩, hcall, hends⟩ => by
    have hstep : (x.state n).resolver.refreshStep now ≠ none := fun hnone => by
      simpa [hcall, hends] using (idle_iff (hcall ▸ nofun)).1 hnone
    have hbeat := x.beat n
    rw [hnow, hcall] at hbeat
    have hmove := hbeat.move hstep
    generalize x.refreshAt (n + 1) = after at hmove ⊢
    cases hmove with
    | go _ call' _ r' hadvance hne =>
      cases hadvance.symm.trans hends
      exact absurd rfl (hne result)
    | settle => exact ⟨due, rfl⟩
  on_multiple := fun n due h => by
    obtain ⟨k, j, i, period, hp, hsetsOut, hj, hi, heq⟩ :=
      due_eq clock hvalid (congrArg RefreshPhase.due? h.1)
    obtain ⟨now, -, hevent, -, hle, -⟩ := h.tick
    exact ⟨k, j, i, period, hp, hsetsOut, hj, hi, heq, clock.reads hevent ▸ hle⟩
  not_early := fun k n due period hstarts h hp => by
    obtain ⟨k', j, i, period', hp', ⟨hstarts', hkj, -⟩, hj, hi, heq⟩ :=
      due_eq clock hvalid (congrArg RefreshPhase.due? h.1)
    obtain ⟨now, -, hevent, -, hle, -⟩ := h.tick
    cases hstarts.eq hstarts'
    cases hp.symm.trans hp'
    refine ⟨Nat.lt_trans hkj hj, ?_⟩
    calc clock.time k + period.nanos
        ≤ clock.time j + i * period.nanos :=
          Nat.add_le_add (clock.time_le (Nat.le_of_lt hkj)) (Nat.le_mul_of_pos_left _ hi)
      _ = due := heq.symm
      _ ≤ clock.time n := clock.reads hevent ▸ hle
  due_lt := fun m n due due' h h' hmn =>
    due_lt_of_issues hvalid h hmn (congrArg RefreshPhase.due? h'.1)
  not_issues := fun m n due hstop hmn h => by
    rcases Nat.lt_or_eq_of_le hmn with hmn | rfl
    · exact h.isAlive.2 m hmn hstop
    · obtain ⟨now, -, hevent, -⟩ := h.tick
      cases hstop.symm.trans hevent
  goes_on := fun k h hrun => hrun.exists_issues_of_starts h

/-- The refresh in the background is started at once, and takes a step every ten milliseconds. -/
def steadyRefresh : DiscoveryRun where
  seeds := [⟨"seed", 1⟩]
  settings := { interval := some (.ofMillis 20) }
  cache := { channels := { factory := .refusing [] } }
  events
    | 0 => .startRefresh
    | n + 1 => .refreshStep (n * 10000000)

/-- The clock of this run. -/
def steadyClock : steadyRefresh.Clock where
  time n := (n - 1) * 10000000
  time_le h := Nat.mul_le_mul_right _ (Nat.sub_le_sub_right h 1)
  reads {n now} h := by
    cases n with
    | zero => cases h
    | succ n =>
      cases h
      rfl

/-- The first refresh is issued when one interval has passed. -/
theorem refresh_keeps_ticks_of_steady : steadyRefresh.settings.validate = .ok ()
    ∧ steadyRefresh.Issues 3 20000000 ∧ steadyRefresh.KeepsTicks steadyClock :=
  ⟨rfl, ⟨rfl, _, rfl⟩, refresh_keeps_ticks steadyRefresh steadyClock rfl⟩

end DiscoveryRun

end ClusterLink
