import ClusterLink.Proofs.Time.Spread

/-!
# From a double to nanoseconds

A double is read exactly from its bits, and what is read is what the bits stand for
(`classifyDouble_eq`). So the duration that is nearest to a number of seconds goes by the magnitude
of that number alone: it has the nanoseconds that are nearest to it (`nearestNanos`), and where
these are too many there is no such duration (`ofSeconds?_eq`).
-/

namespace ClusterLink

open Float.Model Float.Model.UnpackedFloat

/-! ## Reading the bits -/

theorem toNat_unpackMantissa (bits : BitVec 64) :
    (@unpackMantissa .binary64 bits).toNat = bits.toNat % fractionUnits := by
  simp only [unpackMantissa, BitVec.toNat_cast, BitVec.extractLsb, BitVec.extractLsb'_toNat]
  show bits.toNat >>> 0 % 2 ^ 52 = _
  rw [Nat.shiftRight_zero]
  rfl

theorem toNat_unpackExponent (bits : BitVec 64) :
    (@unpackExponent .binary64 bits).toNat = bits.toNat / fractionUnits % 0x800 := by
  simp only [unpackExponent, BitVec.toNat_cast, BitVec.extractLsb, BitVec.extractLsb'_toNat]
  show bits.toNat >>> 52 % 2 ^ 11 = _
  rw [Nat.shiftRight_eq_div_pow]
  rfl

theorem ofBitVec_unpackSign (bits : BitVec 64) :
    Sign.ofBitVec (@unpackSign .binary64 bits)
      = if signUnit ≤ bits.toNat then .negative else .positive := by
  have hsign : (@unpackSign .binary64 bits).toNat = bits.toNat / signUnit := by
    have hlt : bits.toNat / signUnit < 2 := (Nat.div_lt_iff_lt_mul (by decide)).2 bits.isLt
    simp only [unpackSign, BitVec.toNat_cast, BitVec.extractLsb, BitVec.extractLsb'_toNat]
    show bits.toNat >>> 63 % 2 ^ 1 = _
    rw [Nat.shiftRight_eq_div_pow]
    exact Nat.mod_eq_of_lt hlt
  have hzero : @unpackSign .binary64 bits = 0#1 ↔ ¬signUnit ≤ bits.toNat := by
    rw [BitVec.toNat_eq, hsign, Nat.not_le]
    exact Nat.div_eq_zero_iff_lt (by decide)
  unfold Sign.ofBitVec
  by_cases hneg : signUnit ≤ bits.toNat
  · rw [if_pos hneg, if_neg (fun h => hzero.1 h hneg)]
  · rw [if_neg hneg, if_pos (hzero.2 hneg)]

/-- Where a double lies, by what its bits stand for. -/
def DoubleClass.ofUnpacked : UnpackedFloat → DoubleClass
  | .notANumber => .notANumber
  | .infinity .positive => .infinite
  | .infinity .negative => .negative
  | .zero _ => .number ⟨0, -1074⟩
  | .finite .positive mantissa exponent _ => .number ⟨mantissa, exponent⟩
  | .finite .negative _ _ _ => .negative

/-- **A double is read as what its bits stand for.** -/
theorem classifyDouble_eq (x : Float) : classifyDouble x = .ofUnpacked x.toModel.unpack := by
  have hbias : ((Format.exponentBias .binary64 : Nat) : Int)
      + (Format.mantissaBitsWithoutImplicit .binary64 : Nat) = 1075 := rfl
  have hu : x.toModel.unpack = UnpackedFloat.unpack .binary64 x.toModel.toBits.toBitVec := rfl
  have hbits : x.toBits.toNat = x.toModel.toBits.toBitVec.toNat := rfl
  rw [hu, classifyDouble, hbits]
  generalize x.toModel.toBits.toBitVec = bits
  have hones : @unpackExponent .binary64 bits = -1#_
      ↔ bits.toNat / fractionUnits % 0x800 = 0x7ff := by
    rw [BitVec.toNat_eq, toNat_unpackExponent]
    rfl
  have hzero : @unpackExponent .binary64 bits = 0#_ ↔ bits.toNat / fractionUnits % 0x800 = 0 := by
    rw [BitVec.toNat_eq, toNat_unpackExponent]
    rfl
  have hfraction : @unpackMantissa .binary64 bits = 0#_ ↔ bits.toNat % fractionUnits = 0 := by
    rw [BitVec.toNat_eq, toNat_unpackMantissa]
    rfl
  have happend : (1#1 ++ @unpackMantissa .binary64 bits).toNat
      = bits.toNat % fractionUnits + fractionUnits := by
    rw [BitVec.toNat_append, ← Nat.shiftLeft_add_eq_or_of_lt (BitVec.isLt _),
      toNat_unpackMantissa, Nat.add_comm]
    rfl
  unfold UnpackedFloat.unpack
  simp only [hones, hzero, hfraction, ofBitVec_unpackSign, toNat_unpackExponent, happend, hbias]
  by_cases hinfinite : bits.toNat / fractionUnits % 0x800 = 0x7ff
  · rw [if_pos hinfinite, if_pos hinfinite]
    by_cases hwhole : bits.toNat % fractionUnits = 0
    · rw [if_neg (not_not.2 hwhole), if_pos hwhole]
      by_cases hneg : signUnit ≤ bits.toNat <;> simp [hneg, DoubleClass.ofUnpacked]
    · rw [if_pos hwhole, if_neg hwhole]
      rfl
  · rw [if_neg hinfinite, if_neg hinfinite]
    by_cases hsmall : bits.toNat / fractionUnits % 0x800 = 0
    · rw [if_pos hsmall, if_pos hsmall]
      by_cases hwhole : bits.toNat % fractionUnits = 0
      · rw [dif_pos hwhole, hwhole, if_neg (by simp)]
        rfl
      · rw [dif_neg hwhole, hsmall]
        by_cases hneg : signUnit ≤ bits.toNat <;>
          simp [hneg, hwhole, DoubleClass.ofUnpacked, toNat_unpackMantissa]
    · rw [if_neg hsmall, if_neg hsmall]
      by_cases hneg : signUnit ≤ bits.toNat <;> simp [hneg, DoubleClass.ofUnpacked]

/-! ## Nanoseconds -/

/-- **The nanoseconds nearest to a number of seconds** of the given magnitude. -/
def nearestNanos (n : Nat) : Nat := roundDivEven (n * nanosPerSecond) magnitudeOne

theorem nearestNanos_mono {m n : Nat} (h : m ≤ n) : nearestNanos m ≤ nearestNanos n :=
  roundDivEven_mono (Nat.mul_le_mul_right _ h) _

/-- A number of seconds that is not less than a whole number of nanoseconds is not rounded to
less. -/
theorem le_nearestNanos {k n : Nat} (h : k * magnitudeOne ≤ n * nanosPerSecond) :
    k ≤ nearestNanos n := by
  have hle := roundDivEven_mono h magnitudeOne
  rwa [roundDivEven_mul_self _ magnitudeOne_pos] at hle

/-- What is beyond all doubles is beyond all durations. -/
theorem durationLimit_le_nearestNanos {n : Nat} (h : magnitudeLimit ≤ n) :
    durationLimit ≤ nearestNanos n := by
  have hlimit : 2 ^ 100 * magnitudeOne ≤ n :=
    Nat.le_trans (Nat.le_of_lt (two_pow_mul_lt (by decide))) h
  refine le_nearestNanos ?_
  calc durationLimit * magnitudeOne ≤ 2 ^ 100 * magnitudeOne := Nat.mul_le_mul_right _ (by decide)
    _ ≤ n := hlimit
    _ ≤ n * nanosPerSecond := Nat.le_mul_of_pos_right n (by decide)

theorem roundScaled_eq {m : Nat} {e : Int} (hlow : -1074 ≤ e) :
    ExactDouble.roundScaled nanosPerSecond ⟨m, e⟩
      = nearestNanos (m * 2 ^ (e + 1074).toNat) := by
  obtain ⟨i, hi⟩ : ∃ i, i = (e + 1074).toNat := ⟨_, rfl⟩
  obtain ⟨j, hj⟩ : ∃ j, j = 1074 := ⟨1074, rfl⟩
  have hone : magnitudeOne = 2 ^ j := by rw [hj, magnitudeOne_eq]
  unfold ExactDouble.roundScaled nearestNanos
  rw [← hi, hone, Nat.mul_right_comm m (2 ^ i)]
  dsimp only
  by_cases h : 0 ≤ e
  · have hsum : i = e.toNat + j := by omega
    rw [if_pos h, hsum, Nat.pow_add, ← Nat.mul_assoc, roundDivEven_mul_self _ (Nat.two_pow_pos j)]
    rfl
  · have hsum : j = (-e).toNat + i := by omega
    rw [if_neg h, hsum, Nat.pow_add, roundDivEven_mul_mul _ _ (Nat.two_pow_pos i)]
    rfl

/-- **The duration nearest to a number of seconds** goes by the magnitude of that number. -/
theorem ofSeconds?_eq {x : Float} {n : Nat} (h : HasMagnitude x n) : Duration.ofSeconds? x
    = if hlt : nearestNanos n < durationLimit then some ⟨nearestNanos n, hlt⟩ else none := by
  unfold Duration.ofSeconds?
  rw [classifyDouble_eq]
  cases h with
  | zero sign hx =>
    have hzero : ExactDouble.roundScaled nanosPerSecond ⟨0, -1074⟩ = nearestNanos 0 := by
      rw [roundScaled_eq (Int.le_refl _), Nat.zero_mul]
    rw [hx, DoubleClass.ofUnpacked]
    simp only [hzero]
  | finite m e hm hlt hlow hhigh hnormal hx =>
    rw [hx, DoubleClass.ofUnpacked]
    simp only [roundScaled_eq hlow]
  | infinity _ hn hx =>
    rw [hx, DoubleClass.ofUnpacked, dif_neg (Nat.not_lt.2 (durationLimit_le_nearestNanos hn))]

end ClusterLink
