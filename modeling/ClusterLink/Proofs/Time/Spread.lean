import ClusterLink.Proofs.Time.Arithmetic
import ClusterLink.Time.Backoff

/-!
# When a delay can be spread

A delay is spread between two ends, and there is something to draw from if the lower end is not
above the upper one. Rounding does not turn the ends around, so a delay cannot be spread in one case
only: the factor is no number, and the delay is not zero (`spread?_eq_none_iff`).
-/

namespace ClusterLink

open Float.Model Float.Model.UnpackedFloat

/-! ## No number -/

theorem isNaN_iff_unpack {x : Float} : x.isNaN = true ↔ x.toModel.unpack = .notANumber :=
  UnpackedFloat.isNaN_iff

theorem not_le_of_isNaN {x : Float} (h : x.isNaN = true) (y : Float) : ¬x ≤ y := by
  rw [le_iff_isLE, isNaN_iff_unpack.1 h]
  exact Bool.false_ne_true

theorem not_lt_of_isNaN {x : Float} (h : x.isNaN = true) (y : Float) : ¬x < y ∧ ¬y < x := by
  rw [lt_iff_compare, lt_iff_compare, isNaN_iff_unpack.1 h]
  cases y.toModel.unpack <;> exact ⟨nofun, nofun⟩

theorem isNaN_sub {y : Float} (x : Float) (h : y.isNaN = true) : (x - y).isNaN = true := by
  rw [isNaN_iff_unpack]
  show (Float.Model.pack (UnpackedFloat.sub .binary64 x.toModel.unpack y.toModel.unpack)).unpack = _
  rw [isNaN_iff_unpack.1 h]
  cases x.toModel.unpack <;> exact unpack_pack_notANumber

theorem isNaN_mul {y : Float} (x : Float) (h : y.isNaN = true) : (x * y).isNaN = true := by
  rw [isNaN_iff_unpack]
  show (Float.Model.pack (UnpackedFloat.mul .binary64 x.toModel.unpack y.toModel.unpack)).unpack = _
  rw [isNaN_iff_unpack.1 h]
  cases x.toModel.unpack <;> exact unpack_pack_notANumber

/-! ## Seconds -/

theorem hasMagnitude_one : HasMagnitude 1.0 magnitudeOne := by
  have hvalue : 2 ^ 52 * 2 ^ ((-52 : Int) + 1074).toNat = magnitudeOne := by
    rw [magnitudeOne_eq, ← Nat.pow_add]
    congr 1
  exact hvalue ▸ .finite (2 ^ 52) (-52) (by decide) (by decide) (by decide) (by decide)
    (.inl (Nat.le_refl _)) rfl

theorem roundOn_mul_magnitudeOne {m : Nat} (h : m < 2 ^ 53) :
    roundOn 0 1 (m * magnitudeOne) = m * magnitudeOne := by
  obtain ⟨j, hone⟩ : ∃ j, magnitudeOne = 2 ^ j := ⟨1074, magnitudeOne_eq⟩
  rw [hone]
  exact roundOn_of_lt h (Nat.zero_le j)

theorem roundOn_le {i n : Nat} (h : n ≤ 2 ^ i * magnitudeOne) :
    roundOn 0 1 n ≤ 2 ^ i * magnitudeOne := by
  obtain ⟨j, hone⟩ : ∃ j, magnitudeOne = 2 ^ j := ⟨1074, magnitudeOne_eq⟩
  have hpow := roundOn_two_pow (i + j)
  rw [Nat.pow_add, ← hone] at hpow
  exact hpow ▸ roundOn_mono 0 Nat.one_pos h

/-- **The seconds of a duration**, as they are rounded. -/
def Duration.magnitude (d : Duration) : Nat :=
  roundOn 0 1 (roundOn 0 1 (d.wholeSeconds * magnitudeOne)
    + roundOn 0 nanosPerSecond (d.subsecNanos * magnitudeOne))

theorem Duration.wholeSeconds_lt (d : Duration) : d.wholeSeconds < 2 ^ 64 := by
  rw [Duration.wholeSeconds, Nat.div_lt_iff_lt_mul (by decide)]
  exact d.nanos_lt

theorem Duration.subsecNanos_lt (d : Duration) : d.subsecNanos < nanosPerSecond :=
  Nat.mod_lt _ (by decide)

theorem Duration.magnitude_lt (d : Duration) : d.magnitude < magnitudeLimit := by
  have hleft : roundOn 0 1 (d.wholeSeconds * magnitudeOne) ≤ 2 ^ 64 * magnitudeOne :=
    roundOn_le (Nat.mul_le_mul_right _ (Nat.le_of_lt d.wholeSeconds_lt))
  have hright : roundOn 0 nanosPerSecond (d.subsecNanos * magnitudeOne) ≤ 2 ^ 0 * magnitudeOne :=
    calc roundOn 0 nanosPerSecond (d.subsecNanos * magnitudeOne)
        ≤ roundOn 0 nanosPerSecond (nanosPerSecond * magnitudeOne) :=
          roundOn_mono 0 (by decide) (Nat.mul_le_mul_right _ (Nat.le_of_lt d.subsecNanos_lt))
      _ = roundOn 0 (1 * nanosPerSecond) (magnitudeOne * nanosPerSecond) := by
          rw [Nat.one_mul, Nat.mul_comm]
      _ = roundOn 0 1 magnitudeOne := roundOn_mul_mul 0 magnitudeOne 1 (by decide)
      _ ≤ 2 ^ 0 * magnitudeOne := roundOn_le (Nat.le_of_eq (Nat.one_mul _).symm)
  have hsum : 2 ^ 64 * magnitudeOne + 2 ^ 0 * magnitudeOne ≤ 2 ^ 65 * magnitudeOne := by
    rw [← Nat.add_mul]
    exact Nat.mul_le_mul_right _ (by decide)
  calc d.magnitude ≤ 2 ^ 65 * magnitudeOne :=
        roundOn_le (Nat.le_trans (Nat.add_le_add hleft hright) hsum)
    _ < magnitudeLimit := two_pow_mul_lt (by decide)

/-- **The seconds of a duration are finite** and not negative. -/
theorem hasMagnitude_seconds (d : Duration) : HasMagnitude d.seconds d.magnitude := by
  have hexact : ∀ {n : Nat}, n < 2 ^ 53 →
      HasMagnitude (UInt64.ofNat n).toFloat (n * magnitudeOne) := by
    intro n hn
    have htoNat : (UInt64.ofNat n).toNat = n := UInt64.toNat_ofNat_of_lt' (by
      show n < 2 ^ 64
      omega)
    have h := hasMagnitude_toFloat (UInt64.ofNat n)
    rwa [htoNat, roundOn_mul_magnitudeOne hn] at h
  have hlimit : ∀ {n : Nat}, n < 2 ^ 53 → n * magnitudeOne < magnitudeLimit := fun hn =>
    Nat.lt_of_le_of_lt (Nat.mul_le_mul_right _ (Nat.le_of_lt hn)) (two_pow_mul_lt (by decide))
  have hwhole : (UInt64.ofNat d.wholeSeconds).toNat = d.wholeSeconds :=
    UInt64.toNat_ofNat_of_lt' d.wholeSeconds_lt
  have hsubsec : d.subsecNanos < 2 ^ 53 := Nat.lt_trans d.subsecNanos_lt (by decide)
  have hnanos : nanosPerSecond < 2 ^ 53 := by decide
  have hleft := hasMagnitude_toFloat (UInt64.ofNat d.wholeSeconds)
  have hright := (hexact hsubsec).div (hexact hnanos) (hlimit hsubsec) (hlimit hnanos)
    (Nat.mul_pos (by decide) magnitudeOne_pos)
  rw [hwhole] at hleft
  rw [roundOn_mul_mul _ _ _ magnitudeOne_pos] at hright
  exact hleft.add hright

/-! ## The ends of a spread -/

/-- **The ends of a spread are in order**, by whatever part of itself a duration is spread. -/
theorem low_le_high (d : Duration) {f : Float} {n : Nat} (hf : HasMagnitude f n)
    (hn : n ≤ magnitudeOne) : d.seconds * (1.0 - f) ≤ d.seconds * (1.0 + f) := by
  have hle : roundOn 0 1 (magnitudeOne - n) ≤ roundOn 0 1 (magnitudeOne + n) :=
    roundOn_mono 0 Nat.one_pos (by omega)
  have hsum : roundOn 0 1 (magnitudeOne + n) < magnitudeLimit :=
    Nat.lt_of_le_of_lt (roundOn_le (i := 1) (by omega)) (two_pow_mul_lt (by decide))
  have hlow := (hasMagnitude_seconds d).mul (hasMagnitude_one.sub hf magnitudeOne_lt hn)
    d.magnitude_lt (Nat.lt_of_le_of_lt hle hsum)
  have hhigh := (hasMagnitude_seconds d).mul (hasMagnitude_one.add hf) d.magnitude_lt hsum
  exact hlow.le hhigh (roundOn_mono 1074 Nat.one_pos (Nat.mul_le_mul_left _ hle))

/-- A factor above zero is brought between zero and one. -/
theorem hasMagnitude_clampFactor {f : Float} (hnan : f.isNaN = false) (hpos : ¬f ≤ 0.0) :
    ∃ n, HasMagnitude (clampFactor f) n ∧ n ≤ magnitudeOne := by
  have hzero : HasMagnitude 0.0 0 := .zero .positive rfl
  obtain ⟨n, hf⟩ := exists_magnitude hnan hpos
  have hnonneg : ¬f < 0.0 := by
    rw [hf.lt_iff hzero (.inr magnitudeLimit_pos)]
    exact Nat.not_lt_zero n
  unfold clampFactor
  rw [if_neg hnonneg]
  by_cases hbeyond : 1.0 < f
  · rw [if_pos hbeyond]
    exact ⟨_, hasMagnitude_one, Nat.le_refl _⟩
  · rw [if_neg hbeyond]
    rw [hasMagnitude_one.lt_iff hf (.inl magnitudeOne_lt)] at hbeyond
    exact ⟨n, hf, Nat.not_lt.1 hbeyond⟩

theorem isNaN_clampFactor {f : Float} (h : f.isNaN = true) : (clampFactor f).isNaN = true := by
  unfold clampFactor
  rwa [if_neg (not_lt_of_isNaN h 0.0).1, if_neg (not_lt_of_isNaN h 1.0).2]

/-- **A delay cannot be spread** exactly if the factor is no number and the delay is not zero. -/
theorem spread?_eq_none_iff (d : Duration) (f draw : Float) :
    spread? d f draw = none ↔ f.isNaN = true ∧ d.isZero = false := by
  unfold spread? leavesDelay
  dsimp only
  by_cases hzero : d.isZero = true
  · rw [if_pos (by rw [hzero, Bool.or_true]), hzero]
    exact ⟨nofun, fun h => nomatch h.2⟩
  rw [Bool.not_eq_true] at hzero
  by_cases hnan : f.isNaN = true
  · have hlow : (d.seconds * (1.0 - clampFactor f)).isNaN = true :=
      isNaN_mul _ (isNaN_sub _ (isNaN_clampFactor hnan))
    rw [if_neg (by simp [hzero, not_le_of_isNaN hnan]), if_neg (not_le_of_isNaN hlow _)]
    exact ⟨fun _ => ⟨hnan, hzero⟩, fun _ => rfl⟩
  · rw [Bool.not_eq_true] at hnan
    refine iff_of_false ?_ (fun h => by rw [hnan] at h; exact Bool.false_ne_true h.1)
    by_cases hpos : f ≤ 0.0
    · rw [if_pos (by simp [hpos])]
      exact nofun
    · obtain ⟨n, hf, hn⟩ := hasMagnitude_clampFactor hnan hpos
      rw [if_neg (by simp [hpos, hzero]), if_pos (low_le_high d hf hn)]
      exact nofun

/-- The jitter of a usable sequence of delays is a number. -/
theorem BackoffConfig.isNaN_jitter {c : BackoffConfig} (h : c.validate = .ok ()) :
    c.jitter.isNaN = false := by
  obtain ⟨-, -, -, -, hle⟩ := validate_eq_ok_iff.1 h
  exact Bool.eq_false_iff.2 fun hnan => not_le_of_isNaN hnan 1.0 hle

end ClusterLink
