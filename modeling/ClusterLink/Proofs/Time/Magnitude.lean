import ClusterLink.Proofs.Time.Rounding
import Mathlib

/-!
# The magnitude of a double

Every double that is not negative is a whole multiple of `2 ^ -1074`, or infinite. `HasMagnitude`
tells which multiple, and of an infinite one which multiples are too great. Doubles compare as their
magnitudes do (`HasMagnitude.lt_iff`, `HasMagnitude.le`), so a statement about the order of doubles
is one about whole numbers.

The bits of a double are read back as they were written (`unpack_pack_finite`), unless the number is
too great for them.
-/

namespace ClusterLink

open Float.Model Float.Model.UnpackedFloat

/-! ## The bits of a double -/

theorem finite_congr {s : Sign} {m n : Nat} {e f : Int} (hm : 0 < m) (hn : 0 < n) (h : m = n)
    (h' : e = f) : UnpackedFloat.finite s m e hm = .finite s n f hn := by
  subst h h'
  rfl

/-- The number that the bits of a double stand for. -/
theorem unpack_packComponents (s : Sign) (b : BitVec 11) (c : BitVec 52) (hb : b ≠ -1#11) :
    UnpackedFloat.unpack .binary64 (packComponents .binary64 s b c)
      = if b = 0#11 then
          if h : c = 0#52 then .zero s
          else .finite s c.toNat (-1074)
            (by simpa [BitVec.toNat_pos, BitVec.pos_iff_ne_zero] using h)
        else .finite s (2 ^ 52 + c.toNat) (b.toNat - 1075) (Nat.add_pos_left (by decide) _) := by
  have happend : (1#1 ++ c).toNat = 2 ^ 52 + c.toNat := by
    rw [BitVec.toNat_append, ← Nat.shiftLeft_add_eq_or_of_lt c.isLt]
    rfl
  have hbias : ((Format.exponentBias .binary64 : Nat) : Int)
      + (Format.mantissaBitsWithoutImplicit .binary64 : Nat) = 1075 := rfl
  simp only [UnpackedFloat.unpack, unpackMantissa_packComponents, unpackExponent_packComponents,
    unpackSign_packComponents, Sign.ofBitVec_toBitVec]
  rw [if_neg hb]
  by_cases hb0 : b = 0#11
  · rw [if_pos hb0, if_pos hb0]
    by_cases hc0 : c = 0#52
    · rw [dif_pos hc0, dif_pos hc0]
    · rw [dif_neg hc0, dif_neg hc0]
      refine finite_congr _ _ rfl ?_
      rw [hbias, hb0]
      rfl
  · rw [if_neg hb0, if_neg hb0]
    refine finite_congr _ _ happend ?_
    rw [hbias]

theorem unpack_pack (u : UnpackedFloat) :
    (Float.Model.pack u).unpack = UnpackedFloat.unpack .binary64 (UnpackedFloat.pack .binary64 u) :=
  rfl

theorem unpack_pack_zero (s : Sign) : (Float.Model.pack (.zero s)).unpack = .zero s := by
  cases s <;> rfl

theorem unpack_pack_infinity (s : Sign) :
    (Float.Model.pack (.infinity s)).unpack = .infinity s := by
  cases s <;> rfl

theorem unpack_pack_notANumber : (Float.Model.pack .notANumber).unpack = .notANumber := rfl

theorem exponentBias_eq : ((Format.exponentBias .binary64 : Nat) : Int) = 1023 := rfl

/-- A number that is too great becomes infinite. -/
theorem unpack_pack_of_le (s : Sign) {m : Nat} {e : Int} (hm : 0 < m) (h : 972 ≤ e) :
    (Float.Model.pack (.finite s m e hm)).unpack = .infinity s := by
  rw [unpack_pack, UnpackedFloat.pack]
  dsimp only
  rw [if_pos (by rw [exponentBias_eq]; show 2048 ≤ _; omega)]
  exact unpack_pack_infinity s

/-- **A rounded number is packed without loss.** -/
theorem unpack_pack_finite (s : Sign) {m : Nat} {e : Int} (hm : 0 < m) (hlt : m < 2 ^ 53)
    (hlow : -1074 ≤ e) (hhigh : e ≤ 971) (hnormal : 2 ^ 52 ≤ m ∨ e = -1074) :
    (Float.Model.pack (.finite s m e hm)).unpack = .finite s m e hm := by
  have hones : (-1#11).toNat = 2047 := rfl
  have hzero : (0#11).toNat = 0 := rfl
  have hzero' : (0#52).toNat = 0 := rfl
  rw [unpack_pack, UnpackedFloat.pack]
  dsimp only
  rw [if_neg (by rw [exponentBias_eq]; show ¬2048 ≤ _; omega)]
  by_cases hge : 2 ^ 52 ≤ m
  · have hlog : m.log2 = 52 := (Nat.log2_eq_iff (by omega)).2 ⟨hge, hlt⟩
    rw [if_pos (by rw [hlog]; rfl), unpack_packComponents, if_neg]
    · refine finite_congr _ _ ?_ ?_
      · rw [BitVec.toNat_ofNat]
        omega
      · rw [BitVec.toNat_ofNat, exponentBias_eq]
        omega
    · intro h
      have := congrArg BitVec.toNat h
      rw [BitVec.toNat_ofNat, exponentBias_eq] at this
      omega
    · intro h
      have := congrArg BitVec.toNat h
      rw [BitVec.toNat_ofNat, exponentBias_eq] at this
      omega
  · have hlog : m.log2 < 52 := (Nat.log2_lt (by omega)).2 (by omega)
    rw [if_neg (by show ¬(_ = 53); omega), unpack_packComponents _ _ _ (by decide), if_pos rfl,
      dif_neg]
    · refine finite_congr _ _ ?_ ?_
      · rw [BitVec.toNat_ofNat]
        omega
      · omega
    · intro h
      have := congrArg BitVec.toNat h
      rw [BitVec.toNat_ofNat] at this
      omega

/-! ## Magnitudes -/

/-- The multiples of `2 ^ -1074` from this one on are too great for a double. -/
@[irreducible] def magnitudeLimit : Nat := 2 ^ 2098

theorem magnitudeLimit_eq : magnitudeLimit = 2 ^ 2098 := by
  unfold magnitudeLimit
  rfl

/-- The magnitude of one. -/
@[irreducible] def magnitudeOne : Nat := 2 ^ 1074

theorem magnitudeOne_eq : magnitudeOne = 2 ^ 1074 := by
  unfold magnitudeOne
  rfl

theorem two_pow_le {j : Nat} (h : j ≤ 2098) : 2 ^ j ≤ magnitudeLimit := by
  -- for any exponent, so that no power of two is computed
  have hpow : ∀ i, j ≤ i → 2 ^ j ≤ 2 ^ i := fun i => Nat.pow_le_pow_right (by decide)
  rw [magnitudeLimit_eq]
  exact hpow 2098 h

theorem magnitudeLimit_le {j : Nat} (h : 2098 ≤ j) : magnitudeLimit ≤ 2 ^ j := by
  have hpow : ∀ i, i ≤ j → 2 ^ i ≤ 2 ^ j := fun i => Nat.pow_le_pow_right (by decide)
  rw [magnitudeLimit_eq]
  exact hpow 2098 h

theorem two_pow_mul_lt {i : Nat} (h : i < 1024) : 2 ^ i * magnitudeOne < magnitudeLimit := by
  have hpow : ∀ j, i + 1074 < j → 2 ^ (i + 1074) < 2 ^ j := fun j =>
    Nat.pow_lt_pow_right (by decide)
  rw [magnitudeLimit_eq, magnitudeOne_eq, ← Nat.pow_add 2 i 1074]
  exact hpow 2098 (by omega)

theorem magnitudeOne_lt : magnitudeOne < magnitudeLimit := by
  have h := two_pow_mul_lt (i := 0) (by decide)
  rwa [Nat.pow_zero, Nat.one_mul] at h

theorem magnitudeLimit_pos : 0 < magnitudeLimit := Nat.zero_lt_of_lt magnitudeOne_lt

theorem magnitudeOne_pos : 0 < magnitudeOne := by
  have hpow : ∀ i : Nat, 0 < 2 ^ i := Nat.two_pow_pos
  rw [magnitudeOne_eq]
  exact hpow 1074

/-- **The magnitude of a double that is not negative**, in units of `2 ^ -1074`. -/
inductive HasMagnitude (x : Float) : Nat → Prop where
  | zero (sign : Sign) (hx : x.toModel.unpack = .zero sign) : HasMagnitude x 0
  | finite (m : Nat) (e : Int) (hm : 0 < m) (hlt : m < 2 ^ 53) (hlow : -1074 ≤ e)
      (hhigh : e ≤ 971) (hnormal : 2 ^ 52 ≤ m ∨ e = -1074)
      (hx : x.toModel.unpack = .finite .positive m e hm) :
      HasMagnitude x (m * 2 ^ (e + 1074).toNat)
  | infinity (n : Nat) (hn : magnitudeLimit ≤ n) (hx : x.toModel.unpack = .infinity .positive) :
      HasMagnitude x n

theorem lt_magnitudeLimit {m : Nat} {e : Int} (hlt : m < 2 ^ 53) (hhigh : e ≤ 971) :
    m * 2 ^ (e + 1074).toNat < magnitudeLimit :=
  calc m * 2 ^ (e + 1074).toNat < 2 ^ 53 * 2 ^ (e + 1074).toNat :=
        Nat.mul_lt_mul_of_pos_right hlt (Nat.two_pow_pos _)
    _ = 2 ^ (53 + (e + 1074).toNat) := (Nat.pow_add ..).symm
    _ ≤ magnitudeLimit := two_pow_le (by omega)

/-- Of two doubles the one with the greater exponent is greater. -/
theorem lt_of_exponent_lt {m n : Nat} {e f : Int} (hlt : m < 2 ^ 53) (hlow : -1074 ≤ e)
    (hnormal : 2 ^ 52 ≤ n ∨ f = -1074) (hef : e < f) :
    m * 2 ^ (e + 1074).toNat < n * 2 ^ (f + 1074).toNat := by
  have hn : 2 ^ 52 ≤ n := hnormal.resolve_right (by omega)
  calc m * 2 ^ (e + 1074).toNat < 2 ^ 53 * 2 ^ (e + 1074).toNat :=
        Nat.mul_lt_mul_of_pos_right hlt (Nat.two_pow_pos _)
    _ = 2 ^ (53 + (e + 1074).toNat) := (Nat.pow_add ..).symm
    _ ≤ 2 ^ (52 + (f + 1074).toNat) := Nat.pow_le_pow_right (by decide) (by omega)
    _ = 2 ^ 52 * 2 ^ (f + 1074).toNat := Nat.pow_add ..
    _ ≤ n * 2 ^ (f + 1074).toNat := Nat.mul_le_mul_right _ hn

theorem compare_mul_right (m n : Nat) {c : Nat} (hc : 0 < c) :
    compare (m * c) (n * c) = compare m n := by
  rcases Nat.lt_trichotomy m n with h | rfl | h
  · rw [Nat.compare_eq_lt.2 h, Nat.compare_eq_lt.2 (Nat.mul_lt_mul_of_pos_right h hc)]
  · rw [Nat.compare_eq_eq.2 rfl, Nat.compare_eq_eq.2 rfl]
  · rw [Nat.compare_eq_gt.2 h, Nat.compare_eq_gt.2 (Nat.mul_lt_mul_of_pos_right h hc)]

namespace HasMagnitude

variable {x y : Float} {m n : Nat}

/-- A magnitude that is too great is that of an infinite double. -/
theorem eq_infinity (hx : HasMagnitude x m) (hm : magnitudeLimit ≤ m) :
    x.toModel.unpack = .infinity .positive := by
  cases hx with
  | zero => exact absurd hm (Nat.not_le.2 magnitudeLimit_pos)
  | finite m e _ hlt _ hhigh _ => exact absurd (lt_magnitudeLimit hlt hhigh) (Nat.not_lt.2 hm)
  | infinity _ _ hx => exact hx

/-- **Doubles compare as their magnitudes do**, unless both are infinite. -/
theorem compare_eq (hx : HasMagnitude x m) (hy : HasMagnitude y n)
    (h : m < magnitudeLimit ∨ n < magnitudeLimit) :
    x.toModel.unpack.compare y.toModel.unpack = some (compare m n) := by
  cases hx with
  | zero sign hx =>
    rw [hx]
    cases hy with
    | zero sign' hy =>
      rw [hy]
      rfl
    | finite n f hn hlt hlow hhigh hnormal hy =>
      rw [hy, Nat.compare_eq_lt.2 (Nat.mul_pos hn (Nat.two_pow_pos _))]
      rfl
    | infinity n hn hy =>
      rw [hy, Nat.compare_eq_lt.2 (Nat.lt_of_lt_of_le magnitudeLimit_pos hn)]
      rfl
  | finite m e hm hlt hlow hhigh hnormal hx =>
    rw [hx]
    cases hy with
    | zero sign hy =>
      rw [hy, Nat.compare_eq_gt.2 (Nat.mul_pos hm (Nat.two_pow_pos _))]
      rfl
    | finite n f hn hlt' hlow' hhigh' hnormal' hy =>
      rw [hy]
      -- exponents are compared first, and the mantissas have all their bits above the least one
      show some ((compare e f).then (compare m n)) = _
      rcases Int.lt_trichotomy e f with hef | rfl | hef
      · rw [Nat.compare_eq_lt.2 (lt_of_exponent_lt hlt hlow hnormal' hef),
          Int.compare_eq_lt.2 hef]
        rfl
      · rw [Int.compare_eq_eq.2 rfl, compare_mul_right m n (Nat.two_pow_pos _)]
        rfl
      · rw [Nat.compare_eq_gt.2 (lt_of_exponent_lt hlt' hlow' hnormal hef),
          Int.compare_eq_gt.2 hef]
        rfl
    | infinity n hn hy =>
      rw [hy, Nat.compare_eq_lt.2 (Nat.lt_of_lt_of_le (lt_magnitudeLimit hlt hhigh) hn)]
      rfl
  | infinity m hm hx =>
    have hn : n < magnitudeLimit := h.resolve_left (Nat.not_lt.2 hm)
    rw [hx, Nat.compare_eq_gt.2 (Nat.lt_of_lt_of_le hn hm)]
    cases hy with
    | zero sign hy =>
      rw [hy]
      rfl
    | finite n f hn' hlt hlow hhigh hnormal hy =>
      rw [hy]
      rfl
    | infinity n hn' hy => exact absurd hn (Nat.not_lt.2 hn')

end HasMagnitude

/-- The order of doubles is told by comparing what they stand for. -/
theorem le_iff_isLE {x y : Float} :
    x ≤ y ↔ (x.toModel.unpack.compare y.toModel.unpack).any (·.isLE) = true := by
  show Float.le x y = true ↔ _
  rw [Float.le, decide_eq_true_iff]
  rfl

theorem lt_iff_compare {x y : Float} :
    x < y ↔ x.toModel.unpack.compare y.toModel.unpack = some .lt := by
  show Float.lt x y = true ↔ _
  rw [Float.lt, decide_eq_true_iff]
  show (_ == _) = true ↔ _
  rw [beq_iff_eq]

namespace HasMagnitude

variable {x y : Float} {m n : Nat}

theorem lt_iff (hx : HasMagnitude x m) (hy : HasMagnitude y n)
    (h : m < magnitudeLimit ∨ n < magnitudeLimit) : x < y ↔ m < n := by
  rw [lt_iff_compare, hx.compare_eq hy h, Option.some.injEq, Nat.compare_eq_lt]

/-- A greater magnitude makes a double that is not smaller. -/
theorem le (hx : HasMagnitude x m) (hy : HasMagnitude y n) (h : m ≤ n) : x ≤ y := by
  rw [le_iff_isLE]
  by_cases hm : m < magnitudeLimit
  · rw [hx.compare_eq hy (.inl hm), Option.any_some, Nat.isLE_compare]
    exact h
  · have hm' : magnitudeLimit ≤ m := Nat.not_lt.1 hm
    rw [hx.eq_infinity hm', hy.eq_infinity (Nat.le_trans hm' h)]
    rfl

end HasMagnitude

/-! ## All doubles -/

/-- **What the bits of a double can stand for**: of two ways to tell a number, the one with the
smaller exponent, as far as that goes. -/
theorem unpack_cases (x : Float) :
    x.toModel.unpack = .notANumber ∨ (∃ s, x.toModel.unpack = .zero s)
      ∨ (∃ s, x.toModel.unpack = .infinity s)
      ∨ ∃ s m e, ∃ hm : 0 < m, x.toModel.unpack = .finite s m e hm ∧ m < 2 ^ 53
        ∧ -1074 ≤ e ∧ e ≤ 971 ∧ (2 ^ 52 ≤ m ∨ e = -1074) := by
  have hbias : ((Format.exponentBias .binary64 : Nat) : Int)
      + (Format.mantissaBitsWithoutImplicit .binary64 : Nat) = 1075 := rfl
  have hu : x.toModel.unpack = UnpackedFloat.unpack .binary64 x.toModel.toBits.toBitVec := rfl
  generalize x.toModel.toBits.toBitVec = bits at hu
  have hexponent : (@unpackExponent .binary64 bits).toNat < 2048 := BitVec.isLt _
  have hmantissa : (@unpackMantissa .binary64 bits).toNat < 2 ^ 52 := BitVec.isLt _
  unfold UnpackedFloat.unpack at hu
  dsimp only at hu
  rw [hbias] at hu
  split at hu
  · -- all bits of the exponent are set
    split at hu
    · exact .inr (.inr (.inl ⟨_, hu⟩))
    · exact .inl hu
  · rename_i hones
    have hones' : (@unpackExponent .binary64 bits).toNat ≠ 2047 :=
      fun h => hones (BitVec.eq_of_toNat_eq h)
    split at hu
    · -- no bit of the exponent is set, and the mantissa has no leading bit either
      rename_i hzero
      split at hu
      · exact .inr (.inl ⟨_, hu⟩)
      · rw [hzero] at hu
        exact .inr (.inr (.inr ⟨_, _, _, _, hu, Nat.lt_trans hmantissa (by decide), by decide,
          by decide, .inr rfl⟩))
    · rename_i hzero
      have hzero' : (@unpackExponent .binary64 bits).toNat ≠ 0 :=
        fun h => hzero (BitVec.eq_of_toNat_eq h)
      have happend : (1#1 ++ @unpackMantissa .binary64 bits).toNat
          = 2 ^ 52 + (@unpackMantissa .binary64 bits).toNat := by
        rw [BitVec.toNat_append, ← Nat.shiftLeft_add_eq_or_of_lt (BitVec.isLt _)]
        rfl
      refine .inr (.inr (.inr ⟨_, _, _, _, hu, ?_, ?_, ?_, .inl ?_⟩))
      · rw [happend]
        omega
      · omega
      · omega
      · rw [happend]
        exact Nat.le_add_right _ _

/-- **A double that is a number and not at most zero has a magnitude.** -/
theorem exists_magnitude {x : Float} (hnan : x.isNaN = false) (hpos : ¬x ≤ 0.0) :
    ∃ n, HasMagnitude x n := by
  have hzero : (0.0 : Float).toModel.unpack = .zero .positive := rfl
  rw [le_iff_isLE, hzero] at hpos
  rcases unpack_cases x with hx | ⟨s, hx⟩ | ⟨s, hx⟩
    | ⟨s, m, e, hm, hx, hlt, hlow, hhigh, hnormal⟩
  · have hnan' : x.toModel.unpack.isNaN = false := hnan
    rw [hx] at hnan'
    cases hnan'
  · exact ⟨0, .zero s hx⟩
  · cases s with
    | negative =>
      rw [hx] at hpos
      exact absurd rfl hpos
    | positive => exact ⟨magnitudeLimit, .infinity _ (Nat.le_refl _) hx⟩
  · cases s with
    | negative =>
      rw [hx] at hpos
      exact absurd rfl hpos
    | positive => exact ⟨_, .finite m e hm hlt hlow hhigh hnormal hx⟩

end ClusterLink
