import ClusterLink.Proofs.Time.Accuracy

/-!
# How delays grow

The delays of a sequence are products that are rounded twice, to a double and to nanoseconds, and
are cut at the maximum. None of this turns two delays around (`Backoff.grow_mono`). So the sequence
never shrinks if its first step does not, and if that shrinks, so does the sequence
(`Backoff.isSteady_iff_grow`).

With a multiplier above one the first step never shrinks: the product is the next double at least,
and that is not less than the delay. A multiplier of one leaves the seconds of the delay as they
are. But these have fifty-three bits, which do not tell all nanoseconds of a delay of `2 ^ 23`
seconds or more, and then the delay may come back shorter than it was (`Backoff.delays_grow`).
-/

namespace ClusterLink

theorem Duration.eq_of_nanos {d e : Duration} (h : d.nanos = e.nanos) : d = e := by
  cases d
  cases e
  cases h
  rfl

/-! ## Usable parameters -/

theorem HasMagnitude.le_iff {x y : Float} {m n : Nat} (hx : HasMagnitude x m)
    (hy : HasMagnitude y n) (h : m < magnitudeLimit ∨ n < magnitudeLimit) :
    x ≤ y ↔ m ≤ n := by
  rw [le_iff_isLE, hx.compare_eq hy h, Option.any_some, Nat.isLE_compare]

namespace BackoffConfig

/-- **What a usable sequence begins with and goes on by.** -/
structure IsUsable (c : BackoffConfig) : Prop where
  initial_pos : 0 < c.initial.nanos
  initial_le : c.initial.nanos ≤ c.max.nanos
  multiplier : ∃ m, HasMagnitude c.multiplier m ∧ magnitudeOne ≤ m ∧ m < magnitudeLimit

/-- A finite number that is not less than one has a magnitude that is not less than that of one. -/
theorem exists_magnitude_of_one_le {x : Float} (hfinite : x.isFinite = true) (hone : 1.0 ≤ x) :
    ∃ m, HasMagnitude x m ∧ magnitudeOne ≤ m ∧ m < magnitudeLimit := by
  have hone' : (1.0 : Float).toModel.unpack = .finite .positive (2 ^ 52) (-52) (by decide) := rfl
  have hfinite' : x.toModel.unpack.isFinite = true := hfinite
  have hle := le_iff_isLE.1 hone
  rw [hone'] at hle
  rcases unpack_cases x with hx | ⟨s, hx⟩ | ⟨s, hx⟩
    | ⟨s, m, e, hm, hx, hlt, hlow, hhigh, hnormal⟩
  · rw [hx] at hfinite'
    cases hfinite'
  · rw [hx] at hle
    cases hle
  · rw [hx] at hfinite'
    cases hfinite'
  · cases s with
    | negative =>
      rw [hx] at hle
      cases hle
    | positive =>
      have hmagnitude : HasMagnitude x _ := .finite m e hm hlt hlow hhigh hnormal hx
      exact ⟨_, hmagnitude, (hasMagnitude_one.le_iff hmagnitude (.inl magnitudeOne_lt)).1 hone,
        lt_magnitudeLimit hlt hhigh⟩

theorem isUsable_of_validate {c : BackoffConfig} (h : c.validate = .ok ()) : c.IsUsable := by
  obtain ⟨hzero, hmax, ⟨hfinite, hone⟩, -⟩ := validate_eq_ok_iff.1 h
  exact ⟨Duration.isZero_eq_false_iff.1 hzero, hmax, exists_magnitude_of_one_le hfinite hone⟩

end BackoffConfig

namespace Backoff

variable {c : BackoffConfig} {d e : Duration} {m : Nat}

/-! ## One step -/

/-- **One step of the sequence**, in whole numbers. A product that is too long for a duration is
longer than the maximum. -/
theorem nanos_grow (hm : HasMagnitude c.multiplier m) (hlt : m < magnitudeLimit) (d : Duration) :
    (grow c d).nanos = min (nearestNanos (roundOn 1074 1 (d.magnitude * m))) c.max.nanos := by
  have hproduct := (hasMagnitude_seconds d).mul hm d.magnitude_lt hlt
  unfold grow
  rw [Duration.nanos_min, ofSeconds?_eq hproduct]
  split
  · rfl
  · rename_i hbeyond
    have hmax := c.max.nanos_lt
    show min c.max.nanos c.max.nanos = min _ c.max.nanos
    omega

/-- **One delay follows another**: the seconds of the delay before and the multiplier make a product
that is rounded to a double, then to nanoseconds, and cut at the maximum. -/
def Follows (c : BackoffConfig) (d e : Duration) : Prop :=
  ∃ m, HasMagnitude c.multiplier m
    ∧ HasMagnitude (d.seconds * c.multiplier) (roundOn 1074 1 (d.magnitude * m))
    ∧ e.nanos = min (nearestNanos (roundOn 1074 1 (d.magnitude * m))) c.max.nanos

theorem follows_grow (h : c.IsUsable) (d : Duration) : Follows c d (grow c d) := by
  obtain ⟨m, hm, -, hlt⟩ := h.multiplier
  exact ⟨m, hm, (hasMagnitude_seconds d).mul hm d.magnitude_lt hlt, nanos_grow hm hlt d⟩

/-- **A step keeps the order of two delays.** -/
theorem grow_mono (h : c.IsUsable) (hde : d.nanos ≤ e.nanos) :
    (grow c d).nanos ≤ (grow c e).nanos := by
  obtain ⟨m, hm, -, hlt⟩ := h.multiplier
  rw [nanos_grow hm hlt, nanos_grow hm hlt]
  have hproduct : nearestNanos (roundOn 1074 1 (d.magnitude * m))
      ≤ nearestNanos (roundOn 1074 1 (e.magnitude * m)) :=
    nearestNanos_mono (roundOn_mono 1074 Nat.one_pos
      (Nat.mul_le_mul_right m (Duration.magnitude_mono hde)))
  exact Nat.le_min.2 ⟨Nat.le_trans (Nat.min_le_left _ _) hproduct, Nat.min_le_right _ _⟩

/-- **The first step does not shrink the delay** exactly if the multiplier is above one or the delay
does not come back shorter from its seconds. -/
theorem le_grow_iff (h : c.IsUsable) : c.initial.nanos ≤ (grow c c.initial).nanos
    ↔ 1.0 < c.multiplier
      ∨ ∀ d, Duration.ofSeconds? c.initial.seconds = some d →
        c.initial.nanos ≤ d.nanos := by
  obtain ⟨m, hm, hone, hlt⟩ := h.multiplier
  rw [nanos_grow hm hlt, Nat.le_min, and_iff_left h.initial_le,
    hasMagnitude_one.lt_iff hm (.inr hlt), ofSeconds?_eq (hasMagnitude_seconds c.initial)]
  rcases Nat.lt_or_eq_of_le hone with habove | heq
  · exact ⟨fun _ => .inl habove, fun _ => Duration.le_nearestNanos_mul c.initial hm habove⟩
  · -- a product with one is rounded no more
    have hproduct : roundOn 1074 1 (c.initial.magnitude * m) = c.initial.magnitude := by
      obtain ⟨i, hi⟩ : ∃ i, i = 1074 := ⟨1074, rfl⟩
      have hround := roundOn_mul 0 c.initial.magnitude i Nat.one_pos
      rw [Nat.zero_add] at hround
      rw [← heq, magnitudeOne_eq, ← hi, hround]
      exact roundOn_roundOn _
    rw [hproduct, ← heq, or_iff_right (Nat.lt_irrefl _)]
    constructor
    · intro hle d hd
      split at hd
      · cases hd
        exact hle
      · cases hd
    · intro hle
      by_cases hbelow : nearestNanos c.initial.magnitude < durationLimit
      · exact hle ⟨_, hbelow⟩ (dif_pos hbelow)
      · exact Nat.le_trans (Nat.le_of_lt c.initial.nanos_lt) (Nat.not_lt.1 hbelow)

/-- A delay of less than `2 ^ 23` seconds comes back as it was. -/
theorem le_grow_of_short (h : c.IsUsable) (hshort : c.initial.nanos < 8388608 * nanosPerSecond) :
    c.initial.nanos ≤ (grow c c.initial).nanos := by
  refine (le_grow_iff h).2 (.inr fun d hd => ?_)
  rw [ofSeconds?_eq (hasMagnitude_seconds c.initial)] at hd
  split at hd
  · cases hd
    exact Nat.le_of_eq (Duration.nearestNanos_magnitude hshort).symm
  · cases hd

end Backoff

/-! ## Many steps -/

/-- **A call** to a sequence of delays. -/
inductive BackoffCall where
  | next (draw : Float)
  | reset

namespace Backoff

variable {c : BackoffConfig}

/-- What a call leaves of the sequence. -/
def perform (b : Backoff) : BackoffCall → Backoff
  | .next draw => (b.next draw).2
  | .reset => b.reset

/-- **The sequence after some calls.** -/
def after (c : BackoffConfig) (calls : List BackoffCall) : Backoff := calls.foldl perform (start c)

/-- **No delay is shorter than the initial one, or than the one before it** unless there was a
reset. -/
def IsSteady (c : BackoffConfig) : Prop :=
  ∀ calls, c.initial.nanos ≤ (after c calls).current.nanos
    ∧ ∀ draw, (after c calls).current.nanos ≤ (after c (calls ++ [.next draw])).current.nanos

theorem after_append (c : BackoffConfig) (calls : List BackoffCall) (call : BackoffCall) :
    after c (calls ++ [call]) = (after c calls).perform call := by
  rw [after, List.foldl_append, List.foldl_cons, List.foldl_nil, after]

theorem config_after (c : BackoffConfig) (calls : List BackoffCall) :
    (after c calls).config = c := by
  induction calls using List.reverseRecOn with
  | nil => rfl
  | append_singleton calls call ih =>
    rw [after_append]
    cases call <;> exact ih

theorem current_after_next (c : BackoffConfig) (calls : List BackoffCall) (draw : Float) :
    (after c (calls ++ [.next draw])).current = grow c (after c calls).current := by
  rw [after_append]
  show grow (after c calls).config (after c calls).current = _
  rw [config_after]

theorem current_after_reset (c : BackoffConfig) (calls : List BackoffCall) :
    (after c (calls ++ [.reset])).current = c.initial := by
  rw [after_append]
  show (after c calls).config.initial = _
  rw [config_after]

theorem current_le_max (h : c.IsUsable) (calls : List BackoffCall) :
    (after c calls).current.nanos ≤ c.max.nanos := by
  induction calls using List.reverseRecOn with
  | nil => exact h.initial_le
  | append_singleton calls call ih =>
    cases call with
    | next draw =>
      rw [current_after_next]
      exact grow_le_max c _
    | reset =>
      rw [current_after_reset]
      exact h.initial_le

/-- **A sequence is steady if its first step is.** -/
theorem isSteady_iff_grow (h : c.IsUsable) :
    IsSteady c ↔ c.initial.nanos ≤ (grow c c.initial).nanos := by
  constructor
  · intro hsteady
    have hfirst := (hsteady []).2 0.5
    rwa [current_after_next] at hfirst
  · intro hfirst
    have hboth : ∀ calls, c.initial.nanos ≤ (after c calls).current.nanos
        ∧ (after c calls).current.nanos ≤ (grow c (after c calls).current).nanos := by
      intro calls
      induction calls using List.reverseRecOn with
      | nil => exact ⟨Nat.le_refl _, hfirst⟩
      | append_singleton calls call ih =>
        cases call with
        | next draw =>
          rw [current_after_next]
          exact ⟨Nat.le_trans ih.1 ih.2, grow_mono h ih.2⟩
        | reset =>
          rw [current_after_reset]
          exact ⟨Nat.le_refl _, hfirst⟩
    intro calls
    refine ⟨(hboth calls).1, fun draw => ?_⟩
    rw [current_after_next]
    exact (hboth calls).2

/-- **How the delays of a sequence grow.** -/
structure DelaysGrow (c : BackoffConfig) : Prop where
  le_max : ∀ calls, (after c calls).current.nanos ≤ c.max.nanos
  reset : ∀ calls, (after c (calls ++ [.reset])).current = c.initial
  /-- Without jitter, what is waited is the delay. -/
  unspread : c.jitter ≤ 0.0 → ∀ calls draw,
    ((after c calls).next draw).1 = (after c (calls ++ [.next draw])).current
  /-- The seconds of the delay and the multiplier make a product that is rounded to a double, then
  to nanoseconds, and cut at the maximum; one that is no duration counts as the maximum. -/
  product : ∃ m, HasMagnitude c.multiplier m ∧ ∀ calls draw, ∃ n,
    HasMagnitude (after c calls).current.seconds (after c calls).current.magnitude
      ∧ n = roundOn 1074 1 ((after c calls).current.magnitude * m)
      ∧ HasMagnitude ((after c calls).current.seconds * c.multiplier) n
      ∧ (after c (calls ++ [.next draw])).current.nanos = min (nearestNanos n) c.max.nanos
      ∧ (durationLimit ≤ nearestNanos n → (after c (calls ++ [.next draw])).current = c.max)
  /-- The sequence is steady if the multiplier is above one, or the initial delay does not come back
  shorter from its own seconds, and only then. -/
  isSteady_iff : IsSteady c ↔ 1.0 < c.multiplier
    ∨ ∀ d, Duration.ofSeconds? c.initial.seconds = some d → c.initial.nanos ≤ d.nanos
  /-- It is steady if the initial delay is shorter than `2 ^ 23` seconds. -/
  isSteady_of_short : c.initial.nanos < 8388608 * nanosPerSecond → IsSteady c

/-- **Delays grow up to the maximum**, and shrink only where the seconds of the initial delay do not
tell its nanoseconds and the multiplier is one. -/
theorem delays_grow (hvalid : c.validate = .ok ()) : DelaysGrow c where
  le_max := current_le_max (BackoffConfig.isUsable_of_validate hvalid)
  reset := current_after_reset c
  unspread := fun hjitter calls draw => by
    have hleaves : leavesDelay (after c calls).advance.current c.jitter = true := by
      simp [leavesDelay, hjitter]
    rw [after_append]
    show spread (after c calls).advance.current (after c calls).config.jitter draw
      = (after c calls).advance.current
    rw [config_after, spread, spread?, if_pos hleaves, Option.getD_some]
  product := by
    obtain ⟨m, hm, -, hlt⟩ := (BackoffConfig.isUsable_of_validate hvalid).multiplier
    refine ⟨m, hm, fun calls draw => ⟨_, hasMagnitude_seconds _, rfl,
      (hasMagnitude_seconds _).mul hm (Duration.magnitude_lt _) hlt, ?_, fun hbeyond => ?_⟩⟩
    · rw [current_after_next, nanos_grow hm hlt]
    · have hstep := nanos_grow hm hlt (after c calls).current
      rw [Nat.min_eq_right (Nat.le_trans (Nat.le_of_lt c.max.nanos_lt) hbeyond)] at hstep
      rw [current_after_next]
      exact Duration.eq_of_nanos hstep
  isSteady_iff := (isSteady_iff_grow (BackoffConfig.isUsable_of_validate hvalid)).trans
    (le_grow_iff (BackoffConfig.isUsable_of_validate hvalid))
  isSteady_of_short := fun hshort =>
    (isSteady_iff_grow (BackoffConfig.isUsable_of_validate hvalid)).2
      (le_grow_of_short (BackoffConfig.isUsable_of_validate hvalid) hshort)

/-- The delays are steady unless other parameters are chosen. -/
theorem delays_grow_of_default :
    ({} : BackoffConfig).validate = .ok () ∧ DelaysGrow {} ∧ IsSteady {} :=
  ⟨rfl, delays_grow rfl, (delays_grow rfl).isSteady_of_short (by decide)⟩

/-- Eight nanoseconds more than `2 ^ 23` seconds, again and again. -/
def longDelay : BackoffConfig where
  initial := ⟨8388608000000008, by decide⟩
  max := ⟨9000000000000000, by decide⟩
  multiplier := 1.0
  jitter := 0.0

/-- The second delay is a nanosecond shorter than the initial one. -/
theorem shrinks_of_longDelay : longDelay.validate = .ok ()
    ∧ (after longDelay [.next 0.5]).current.nanos < longDelay.initial.nanos
    ∧ (after longDelay [.next 0.5]).current.nanos < (after longDelay []).current.nanos := by
  decide

end Backoff

end ClusterLink
