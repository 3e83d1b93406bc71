import ClusterLink.Proofs.Provider.Outcomes
import ClusterLink.Proofs.Provider.Pauses
import ClusterLink.Proofs.Time.Growth

/-!
# Runs after a failure

Over a whole history, a run that fails is followed by a pause (`Pause`): until it is over, callers
are turned away with the error of the run and nothing is started; the first caller after it starts
another run, of the same generation and with the same trigger, and whoever asks until that one is
applied waits for it. A new generation or the disposal of the provider ends a pause at once.

How long a pause is depends on the number of failures that were applied since a run connected, in
whichever generations they were (`setbacks`): the sequence of delays is as far along as there were
setbacks (`backoff_providerAt`), and the delay is spread by a draw that comes with the failure.

Time is taken to go on from one event to the next (`Timed`). If it did not, a caller whose clock
says that the pause lasts could find a run that another caller has started.
-/

namespace ClusterLink

/-! ## The sequence of delays -/

namespace BackoffConfig

/-- **The delays, one after the other**, before they are spread. The one with the number zero is
where the sequence begins; it is never waited for. -/
def delay (c : BackoffConfig) (n : Nat) : Duration := (Backoff.grow c)^[n] c.initial

theorem current_iterate_advance (c : BackoffConfig) (n : Nat) :
    (Backoff.advance^[n] (.start c)).current = c.delay n := by
  induction n with
  | zero => rfl
  | succ n ih =>
    rw [Function.iterate_succ_apply', Backoff.current_advance, config_iterate_advance, ih, delay,
      delay, Function.iterate_succ_apply']

/-- **Each delay follows the one before it.** -/
theorem follows_delay {c : BackoffConfig} (h : c.validate = .ok ()) (n : Nat) :
    Backoff.Follows c (c.delay n) (c.delay (n + 1)) := by
  rw [delay, delay, Function.iterate_succ_apply']
  exact Backoff.follows_grow (isUsable_of_validate h) _

/-- The delays of a usable sequence can be spread. -/
theorem exists_spread {c : BackoffConfig} (h : c.validate = .ok ()) (d : Duration) (draw : Float) :
    ∃ delay, spread? d c.jitter draw = some delay := by
  refine Option.ne_none_iff_exists'.1 fun hnone => ?_
  have hnan := ((spread?_eq_none_iff d c.jitter draw).1 hnone).1
  rw [isNaN_jitter h] at hnan
  cases hnan

end BackoffConfig

/-! ## Histories -/

section

variable (config : BackoffConfig) (events : Nat → ProviderEvent)

/-- **Time goes on** from one event to the next. -/
def Timed : Prop :=
  ∀ m n now now', m ≤ n → (events m).time? = some now →
    (events n).time? = some now' → now ≤ now'

open Classical in
/-- **The failures that were applied since a run connected**, before the given instant. -/
noncomputable def setbacks : Nat → Nat
  | 0 => 0
  | n + 1 =>
    if ∃ run c, Provider.Applies (providerAt config events n)
      (providerAt config events (n + 1)) run (.ok c) then 0
    else if ∃ run error, Provider.Applies (providerAt config events n)
      (providerAt config events (n + 1)) run (.error error) then setbacks n + 1
    else setbacks n

/-- A caller asks for the connection. -/
abbrev Asks (n i : Nat) (now : Instant) : Prop :=
  (providerHistory config events n).Asks (events n) i now

/-- **The generation lasts** from one instant to another, and the provider is not disposed of. -/
structure Lasts (m n : Nat) : Prop where
  generation_eq : (providerAt config events n).generation = (providerAt config events m).generation
  isDisposed_eq : (providerAt config events n).isDisposed = false

/-- A caller has asked at or after an instant of time. -/
def AskedSince (m n : Nat) (time : Instant) : Prop :=
  ∃ k i now, m ≤ k ∧ k < n ∧ Asks config events k i now ∧ time ≤ now

/-- The run has been applied. -/
def AppliedSince (m n run : Nat) : Prop :=
  ∃ k result, m ≤ k ∧ k < n ∧ Provider.Applies (providerAt config events k)
    (providerAt config events (k + 1)) run result

variable {config events}

theorem not_jams_providerAt (hvalid : config.validate = .ok ()) (n : Nat) :
    ¬Provider.Jams (providerAt config events n).backoff.advance := by
  obtain ⟨k, hk⟩ : ∃ k, (providerAt config events n).backoff
      = Backoff.advance^[k] (.start config) := exists_backoff_eq n
  rw [Provider.jams_iff, hk, Backoff.config_advance, config_iterate_advance,
    BackoffConfig.isNaN_jitter hvalid]
  nofun

/-- A run that connects is no setback. -/
theorem setbacks_of_connected {n run : Nat} {c : Connection}
    (h : Provider.Applies (providerAt config events n) (providerAt config events (n + 1)) run
      (.ok c)) : setbacks config events (n + 1) = 0 :=
  if_pos ⟨run, c, h⟩

/-- A run that is applied does not both connect and fail. -/
theorem not_connected_of_failed {n run : Nat} {error : Error}
    (h : Provider.Applies (providerAt config events n) (providerAt config events (n + 1)) run
      (.error error)) :
    ¬∃ run c, Provider.Applies (providerAt config events n) (providerAt config events (n + 1))
      run (.ok c) := by
  rintro ⟨run', c, h'⟩
  obtain ⟨retryAt, hfailed⟩ := ((change_providerAt config events n).shows_of_applies h).1
  have hready := ((change_providerAt config events n).shows_of_applies h').1
  cases hfailed.symm.trans hready

theorem setbacks_of_failed {n run : Nat} {error : Error}
    (h : Provider.Applies (providerAt config events n) (providerAt config events (n + 1)) run
      (.error error)) : setbacks config events (n + 1) = setbacks config events n + 1 := by
  rw [setbacks, if_neg (not_connected_of_failed h), if_pos ⟨run, error, h⟩]

/-- **The sequence of delays is as far along as there were setbacks.** -/
theorem backoff_providerAt (hvalid : config.validate = .ok ()) (n : Nat) :
    (providerAt config events n).backoff
      = Backoff.advance^[setbacks config events n] (.start config) := by
  induction n with
  | zero => rfl
  | succ n ih =>
    rcases (change_providerAt config events n).backoff_eq (coherent_providerAt config events n)
      (not_jams_providerAt hvalid n) with ⟨⟨run, c, h⟩, hb⟩ | ⟨⟨run, error, h⟩, hb⟩
        | ⟨hnone, hb⟩
    · rw [hb, setbacks_of_connected h, ih, Backoff.reset, config_iterate_advance]
      rfl
    · rw [hb, setbacks_of_failed h, ih, Function.iterate_succ_apply']
    · have hsame : setbacks config events (n + 1) = setbacks config events n := by
        rw [setbacks, if_neg, if_neg]
        · rintro ⟨run, error, h⟩
          exact hnone run _ h
        · rintro ⟨run, c, h⟩
          exact hnone run _ h
      rw [hb, hsame, ih]

/-- **The delay after a failure** is the one with the number of setbacks, spread. -/
theorem exists_delay_of_failed (hvalid : config.validate = .ok ()) {n run : Nat} {error : Error}
    (h : Provider.Applies (providerAt config events n) (providerAt config events (n + 1)) run
      (.error error)) (draw : Float) :
    ∃ delay, spread? (config.delay (setbacks config events (n + 1))) config.jitter draw
      = some delay
      ∧ ((providerAt config events n).backoff.next draw).1 = delay := by
  -- the delay that is spread is the one after those that were reached before
  have hdelay : (providerAt config events n).backoff.advance.current
      = config.delay (setbacks config events (n + 1)) := by
    rw [backoff_providerAt hvalid, ← Function.iterate_succ_apply' Backoff.advance,
      BackoffConfig.current_iterate_advance, setbacks_of_failed h]
  have hjitter : (providerAt config events n).backoff.config.jitter = config.jitter := by
    rw [backoff_providerAt hvalid, config_iterate_advance]
  obtain ⟨delay, hspread⟩ := BackoffConfig.exists_spread hvalid
    (config.delay (setbacks config events (n + 1))) draw
  refine ⟨delay, hspread, ?_⟩
  rw [Backoff.next, hdelay, hjitter, spread, hspread]
  rfl

/-- The run that callers wait for is one of the present generation. -/
theorem exists_run_of_pending {n run : Nat} (h : (providerAt config events n).slot = .pending run) :
    ∃ r, (providerAt config events n).runs[run]? = some r
      ∧ r.generation = (providerAt config events n).generation
      ∧ r.trigger = (providerAt config events n).trigger := by
  have hcoherent := coherent_providerAt config events n
  obtain ⟨r, hr, hg, -⟩ := hcoherent.isOpen_of_pending run h
  exact ⟨r, hr, hg, hcoherent.trigger_eq run r hr hg⟩

/-! ## While a generation lasts -/

namespace Lasts

variable {m n : Nat}

theorem pred (h : Lasts config events m (n + 1)) (hm : m ≤ n) : Lasts config events m n := by
  have hchange := change_providerAt config events n
  have hle : (providerAt config events m).generation ≤ (providerAt config events n).generation :=
    generation_mono hm
  refine ⟨?_, Bool.eq_false_iff.2 fun hd => ?_⟩
  · have := hchange.generation_le
    have := h.generation_eq
    omega
  · cases h.isDisposed_eq.symm.trans (hchange.isDisposed_of_isDisposed hd)

/-- Neither does a new generation begin nor is the provider disposed of. -/
theorem not_ended (h : Lasts config events m (n + 1)) (hm : m ≤ n) :
    ¬((providerAt config events (n + 1)).generation = (providerAt config events n).generation + 1
      ∨ (providerAt config events (n + 1)).isDisposed = true) := by
  rintro (hg | hd)
  · have hpred := (h.pred hm).generation_eq
    have hg' := h.generation_eq
    omega
  · cases h.isDisposed_eq.symm.trans hd

end Lasts

theorem AskedSince.succ {m n : Nat} {time : Instant} (h : AskedSince config events m n time) :
    AskedSince config events m (n + 1) time := by
  obtain ⟨k, i, now, hmk, hkn, hasks⟩ := h
  exact ⟨k, i, now, hmk, Nat.lt_succ_of_lt hkn, hasks⟩

theorem AppliedSince.succ {m n run : Nat} (h : AppliedSince config events m n run) :
    AppliedSince config events m (n + 1) run := by
  obtain ⟨k, result, hmk, hkn, happlies⟩ := h
  exact ⟨k, result, hmk, Nat.lt_succ_of_lt hkn, happlies⟩

/-- Nobody asks later than anybody does. -/
theorem not_askedSince_succ {m n : Nat} {time : Instant}
    (h : ¬AskedSince config events m n time)
    (hnow : ∀ i now, Asks config events n i now → now < time) :
    ¬AskedSince config events m (n + 1) time := by
  rintro ⟨k, i, now, hmk, hkn, hasks, hle⟩
  rcases Nat.lt_succ_iff_lt_or_eq.1 hkn with hkn | rfl
  · exact h ⟨k, i, now, hmk, hkn, hasks, hle⟩
  · exact absurd (hnow i now hasks) (Nat.not_lt.2 hle)

/-- **How a pause goes on.** Until somebody asks after it nothing changes for callers; then a run is
under way, the next one there is, until it is applied. -/
theorem pause_cases {n m : Nat} {error : Error} {retryAt : Instant}
    (hs : (providerAt config events n).slot = .failed error retryAt) (hm : n ≤ m)
    (hlasts : Lasts config events n m) :
    ¬AskedSince config events n m retryAt
        ∧ (providerAt config events m).slot = .failed error retryAt
        ∧ (providerAt config events m).runs.length = (providerAt config events n).runs.length
      ∨ AskedSince config events n m retryAt
        ∧ ((providerAt config events m).slot = .pending (providerAt config events n).runs.length
            ∧ (providerAt config events m).runs.length
              = (providerAt config events n).runs.length + 1
          ∨ AppliedSince config events n m (providerAt config events n).runs.length) := by
  induction m, hm using Nat.le_induction with
  | base =>
    refine .inl ⟨?_, hs, rfl⟩
    rintro ⟨k, -, -, hnk, hkn, -⟩
    omega
  | succ m hnm ih =>
    have hpred := hlasts.pred hnm
    have hended := hlasts.not_ended hnm
    have hchange := change_providerAt config events m
    have hcoherent := coherent_providerAt config events m
    rcases ih hpred with ⟨hquiet, hslot, hlength⟩
      | ⟨hasked, ⟨hslot, hlength⟩ | happlied⟩
    · by_cases hasks : ∃ i now, Asks config events m i now
      · obtain ⟨i, now, hasks⟩ := hasks
        have hprovider : providerAt config events (m + 1)
            = ((providerAt config events m).current now).2 := (Service.perform_of_asks hasks).1
        rw [Provider.current_of_failed hpred.isDisposed_eq hslot] at hprovider
        by_cases hnow : now < retryAt
        · rw [if_pos hnow] at hprovider
          rw [hprovider]
          refine .inl ⟨not_askedSince_succ hquiet fun i' now' hasks' => ?_, hslot, hlength⟩
          -- at one instant one caller asks
          obtain ⟨-, draw, hevent⟩ := hasks
          obtain ⟨-, draw', hevent'⟩ := hasks'
          cases hevent.symm.trans hevent'
          exact hnow
        · rw [if_neg hnow] at hprovider
          refine .inr
            ⟨⟨m, i, now, hnm, Nat.lt_succ_self m, hasks, Nat.not_lt.1 hnow⟩, .inl ?_⟩
          rw [hprovider, Provider.slot_start, Provider.length_runs_start, hlength]
          exact ⟨rfl, rfl⟩
      · have hnone : ∀ i now, ¬Asks config events m i now := fun i now h =>
          hasks ⟨i, now, h⟩
        have hruns : (providerAt config events (m + 1)).runs.length
            = (providerAt config events m).runs.length :=
          (Service.length_runs_perform hnone).resolve_right fun hg => hended (.inl hg)
        rcases hchange.failed_cases hcoherent hslot with ⟨hslot', -⟩ | ⟨hmore, -⟩ | hg
        · exact .inl ⟨not_askedSince_succ hquiet fun i now h => absurd h (hnone i now), hslot',
            hruns.trans hlength⟩
        · omega
        · exact absurd hg hended
    · rcases hchange.pending hcoherent hslot with ⟨hslot', hruns⟩ | ⟨result, happlies⟩ | hg
      · exact .inr ⟨hasked.succ, .inl ⟨hslot', hruns.trans hlength⟩⟩
      · exact .inr ⟨hasked.succ, .inr ⟨m, result, hnm, Nat.lt_succ_self m, happlies⟩⟩
      · exact absurd hg hended
    · exact .inr ⟨hasked.succ, .inr happlied.succ⟩

/-! ## The result -/

variable (config events) in
/-- **The pause after a failure** that was applied just before the instant `n`, and what follows
while the generation lasts. -/
structure Pause (n : Nat) (error : Error) (retryAt : Instant) : Prop where
  /-- Until somebody asks after the pause, the error is kept and no run starts. -/
  kept : ∀ m, n ≤ m → Lasts config events n m → ¬AskedSince config events n m retryAt →
    (providerAt config events m).slot = .failed error retryAt
      ∧ (providerAt config events m).runs.length = (providerAt config events n).runs.length
  /-- Who asks during the pause is turned away with the error, and nothing changes. -/
  turned_away : ∀ m i now, n ≤ m → Lasts config events n m → Asks config events m i now →
    now < retryAt → callAt config events (m + 1) i = some (.done (.error error))
      ∧ providerAt config events (m + 1) = providerAt config events m
  /-- Once somebody has asked after the pause, one more run has started, of the same generation and
  with the same trigger, and no other one starts until it is applied. -/
  one_run : ∀ m, n ≤ m → Lasts config events n m → AskedSince config events n m retryAt →
    ¬AppliedSince config events n m (providerAt config events n).runs.length →
    (providerAt config events m).slot = .pending (providerAt config events n).runs.length
      ∧ (providerAt config events m).runs.length = (providerAt config events n).runs.length + 1
      ∧ ∃ r,
        (providerAt config events m).runs[(providerAt config events n).runs.length]? = some r
        ∧ r.generation = (providerAt config events n).generation
        ∧ r.trigger = (providerAt config events n).trigger
  /-- Who asks after the pause waits for that run. -/
  joined : ∀ m i now, n ≤ m → Lasts config events n m → Asks config events m i now →
    retryAt ≤ now →
    ¬AppliedSince config events n m (providerAt config events n).runs.length →
    callAt config events (m + 1) i = some (.waiting (providerAt config events n).runs.length)
  /-- Who waits for it gets the result with which it is applied. -/
  told : ∀ k m i now draw result, k < m → Provider.Applies (providerAt config events k)
      (providerAt config events (k + 1)) (providerAt config events n).runs.length result →
    callAt config events m i = some (.waiting (providerAt config events n).runs.length) →
    events m = .advance i now draw → callAt config events (m + 1) i = some (.done result)

/-- A failed slot is followed by a pause. -/
theorem pause_of_failed (htimed : Timed events) {n : Nat} {error : Error} {retryAt : Instant}
    (hs : (providerAt config events n).slot = .failed error retryAt) :
    Pause config events n error retryAt where
  kept := fun m hm hlasts hquiet => by
    rcases pause_cases hs hm hlasts with ⟨-, h⟩ | ⟨hasked, -⟩
    · exact h
    · exact absurd hasked hquiet
  turned_away := fun m i now hm hlasts hasks hnow => by
    have hquiet : ¬AskedSince config events n m retryAt := by
      rintro ⟨k, i', now', -, hkm, ⟨-, draw', hevent'⟩, hle⟩
      -- an earlier caller cannot have looked at a later clock
      obtain ⟨-, draw, hevent⟩ := hasks
      have hearlier : now' ≤ now :=
        htimed k m now' now (Nat.le_of_lt hkm) (by rw [hevent']; rfl) (by rw [hevent]; rfl)
      exact absurd hnow (Nat.not_lt.2 (Nat.le_trans hle hearlier))
    obtain ⟨hprovider, hcall⟩ := Service.perform_of_asks hasks
    rcases pause_cases hs hm hlasts with ⟨-, hslot, -⟩ | ⟨hasked, -⟩
    · rw [Provider.current_of_failed hlasts.isDisposed_eq hslot, if_pos hnow] at hprovider hcall
      exact ⟨hcall, hprovider⟩
    · exact absurd hasked hquiet
  one_run := fun m hm hlasts hasked hnot => by
    rcases pause_cases hs hm hlasts with ⟨hquiet, -⟩ | ⟨-, ⟨hslot, hlength⟩ | happlied⟩
    · exact absurd hasked hquiet
    · obtain ⟨r, hr, hg, htrigger⟩ := exists_run_of_pending hslot
      exact ⟨hslot, hlength, r, hr, hg.trans hlasts.generation_eq,
        htrigger.trans (trigger_eq_of_generation_eq hm hlasts.generation_eq)⟩
    · exact absurd happlied hnot
  joined := fun m i now hm hlasts hasks hnow hnot => by
    obtain ⟨-, hcall⟩ := Service.perform_of_asks hasks
    rcases pause_cases hs hm hlasts with ⟨-, hslot, hlength⟩
      | ⟨-, ⟨hslot, -⟩ | happlied⟩
    · rw [Provider.current_of_failed hlasts.isDisposed_eq hslot, if_neg (Nat.not_lt.2 hnow),
        hlength] at hcall
      exact hcall
    · rw [Provider.current_of_pending hlasts.isDisposed_eq hslot] at hcall
      exact hcall
    · exact absurd happlied hnot
  told := fun k m i now draw result hkm happlies hcall hevent => by
    obtain ⟨r, hr, hphase⟩ := ended_mono (Nat.succ_le_of_lt hkm) happlies.ended
    rw [(callAt_succ_of_advance hcall hevent).1, Provider.advanceCall, Provider.poll, hr]
    dsimp only
    rw [hphase]
    rfl

variable (config events) in
/-- **How a provider comes back to a cluster that it cannot reach.** -/
structure PacesRuns : Prop where
  /-- The delays begin with the initial one, and each is the product of the one before it. -/
  delays : config.delay 0 = config.initial
    ∧ ∀ k, Backoff.Follows config (config.delay k) (config.delay (k + 1))
  /-- A failure that is applied is one setback more, and a pause follows: it lasts for the delay
  with the number of setbacks, spread, or for a day if its end cannot be told. -/
  pauses : ∀ n run error, Provider.Applies (providerAt config events n)
      (providerAt config events (n + 1)) run (.error error) →
    setbacks config events (n + 1) = setbacks config events n + 1
      ∧ (∃ r, (providerAt config events n).runs[run]? = some r
        ∧ r.generation = (providerAt config events (n + 1)).generation
        ∧ r.trigger = (providerAt config events (n + 1)).trigger)
      ∧ ∃ now draw delay retryAt, (events n).time? = some now ∧ (events n).draw? = some draw
        ∧ spread? (config.delay (setbacks config events (n + 1))) config.jitter draw = some delay
        ∧ (now + delay.nanos < Provider.instantLimit → retryAt = now + delay.nanos)
        ∧ (Provider.instantLimit ≤ now + delay.nanos →
          retryAt = now + Provider.longestRetryDelay.nanos)
        ∧ Pause config events (n + 1) error retryAt
  /-- A run of the present generation that ends in a failure is applied. -/
  applies : ∀ n run r error now draw, (providerAt config events n).isDisposed = false →
    (providerAt config events n).runs[run]? = some r → r.phase = .working →
    r.generation = (providerAt config events n).generation →
    events n = .finish run (.error error) now draw →
    Provider.Applies (providerAt config events n) (providerAt config events (n + 1)) run
      (.error error)
  /-- A new generation ends the pause at once: whoever asks next waits for a run of it. -/
  reset_ends : ∀ n i now, (providerAt config events (n + 1)).generation
      ≠ (providerAt config events n).generation → Asks config events (n + 1) i now →
    callAt config events (n + 2) i = some (.waiting (providerAt config events n).runs.length)
      ∧ ∃ r, (providerAt config events (n + 2)).runs[(providerAt config events n).runs.length]?
          = some r
        ∧ r.generation = (providerAt config events (n + 1)).generation
        ∧ r.trigger = (providerAt config events (n + 1)).trigger
  /-- A reset begins a new generation. -/
  resets : ∀ n now inRuntime trigger, (providerAt config events n).isDisposed = false →
    events n = .reset now inRuntime trigger →
    (providerAt config events (n + 1)).generation = (providerAt config events n).generation + 1
      ∧ (providerAt config events (n + 1)).trigger = trigger
  /-- A run that connects takes the delays back to where they begin. -/
  restarts : ∀ n run c, Provider.Applies (providerAt config events n)
      (providerAt config events (n + 1)) run (.ok c) →
    setbacks config events (n + 1) = 0
      ∧ (providerAt config events (n + 1)).backoff = .start config

/-- **A provider paces its runs**: after every failure it pauses, the longer the more failures there
were since a run connected; the first caller after a pause starts one run for all callers; and a
reset or a run that connects puts an end to it. -/
theorem runs_are_paced (hvalid : config.validate = .ok ()) (htimed : Timed events) :
    PacesRuns config events where
  delays := ⟨rfl, BackoffConfig.follows_delay hvalid⟩
  pauses := fun n run error happlies => by
    have hchange := change_providerAt config events n
    have hcoherent := coherent_providerAt config events n
    obtain ⟨⟨retryAt, hs⟩, -, hg⟩ := hchange.shows_of_applies happlies
    obtain ⟨r, hr, hrg, -⟩ := happlies.isOpen
    refine ⟨setbacks_of_failed happlies, ⟨r, hr, hrg.trans hg.symm,
      (hcoherent.trigger_eq run r hr hrg).trans (hchange.trigger_eq hg).symm⟩, ?_⟩
    rcases Service.retryAt_of_perform hs with hbefore | ⟨now, draw, ht, hd, hretry⟩
    · cases hbefore.symm.trans (happlies.slot_eq hcoherent)
    · obtain ⟨delay, hspread, hnext⟩ := exists_delay_of_failed hvalid happlies draw
      rw [hnext, Provider.retryTime] at hretry
      refine ⟨now, draw, delay, retryAt, ht, hd, hspread, fun hlt => ?_, fun hle => ?_,
        pause_of_failed htimed hs⟩
      · rw [hretry, if_pos hlt]
      · rw [hretry, if_neg (Nat.not_lt.2 hle)]
  applies := fun n run r error now draw hd hr hphase hg hevent => by
    have hstep : providerAt config events (n + 1)
        = (providerAt config events n).finish run (.error error) now draw := by
      show ((providerHistory config events n).perform (events n)).provider = _
      rw [hevent]
      rfl
    have hdraw : spread? (providerAt config events n).backoff.advance.current
        (providerAt config events n).backoff.config.jitter draw ≠ none :=
      fun hnone => not_jams_providerAt hvalid n ⟨draw, hnone⟩
    rw [hstep, Provider.finish_eq_of_not_jams hr hphase hd (isAbandoned_providerAt config events n)
      hg.symm hdraw]
    exact Provider.applies_setPhase hr (by rw [hphase]; rfl) hd hg.symm rfl
  reset_ends := fun n i now hg hasks => by
    have hchange := change_providerAt config events n
    obtain ⟨hg', hd⟩ := hchange.generation_eq.resolve_left hg
    obtain ⟨now', inRuntime, trigger, hadvance⟩ := hchange.eq_advance hg'
    obtain ⟨hprovider, hcall⟩ := Service.perform_of_asks hasks
    have hopen : (providerAt config events n).isDisposed = false := by
      refine Bool.eq_false_iff.2 fun hd' => ?_
      cases hd.symm.trans (hchange.isDisposed_of_isDisposed hd')
    -- the run is the next one there is, whether the reset or the caller starts it
    have hwait := Provider.current_of_advance hopen now' inRuntime trigger now
    rw [← hadvance] at hwait
    obtain ⟨hdemand, hpending, hgeneration, htrigger⟩ := hwait
    rw [hdemand] at hcall
    have hprovider' : providerAt config events (n + 2)
        = ((providerAt config events (n + 1)).current now).2 := hprovider
    rw [← hprovider'] at hpending hgeneration htrigger
    obtain ⟨r, hr, hrg, htr⟩ := exists_run_of_pending hpending
    exact ⟨hcall, r, hr, hrg.trans hgeneration, htr.trans htrigger⟩
  resets := fun n now inRuntime trigger hd hevent => by
    have hstep : providerAt config events (n + 1)
        = (providerAt config events n).advance now inRuntime trigger := by
      show ((providerHistory config events n).perform (events n)).provider = _
      rw [hevent]
      exact if_neg (by simp [hd])
    rw [hstep]
    exact ⟨Provider.generation_advance .., Provider.trigger_advance ..⟩
  restarts := fun n run c happlies => by
    have hzero := setbacks_of_connected happlies
    refine ⟨hzero, ?_⟩
    rw [backoff_providerAt hvalid, hzero]
    rfl

end

/-- A caller asks, and the run that it starts fails ten milliseconds later. -/
def oneFailure : Nat → ProviderEvent
  | 0 => .come none
  | 1 => .advance 0 0 0.5
  | 2 => .finish 0 (.error (.connection "refused")) 10000000 0.5
  | _ => .giveUp 0

theorem timed_oneFailure : Timed oneFailure := by
  intro m n now now' hmn hm hn
  match m, n with
  | 0, _ | _ + 3, _ => cases hm
  | 1, _ =>
    cases hm
    exact Nat.zero_le _
  | 2, 2 =>
    cases hm
    cases hn
    exact Nat.le_refl _
  | 2, 0 | 2, _ + 3 => cases hn
  | 2, 1 => exact absurd hmn (by decide)

/-- The failure is followed by a pause. -/
theorem runs_are_paced_of_oneFailure :
    ({} : BackoffConfig).validate = .ok () ∧ Timed oneFailure
      ∧ ∃ retryAt, Pause {} oneFailure 3 (.connection "refused") retryAt := by
  have hvalid : ({} : BackoffConfig).validate = .ok () := rfl
  have hpaced : PacesRuns {} oneFailure := runs_are_paced hvalid timed_oneFailure
  have happlies := hpaced.applies 2 0 { generation := 0, trigger := .rediscover, started := 0 }
    (.connection "refused") 10000000 0.5 rfl rfl rfl rfl rfl
  obtain ⟨-, -, -, -, -, retryAt, -, -, -, -, -, hpause⟩ := hpaced.pauses 2 0 _ happlies
  exact ⟨hvalid, timed_oneFailure, retryAt, hpause⟩

end ClusterLink
