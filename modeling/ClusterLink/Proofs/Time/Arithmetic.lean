import ClusterLink.Proofs.Time.Magnitude

/-!
# Arithmetic on magnitudes

A sum, difference, product or quotient of doubles has the magnitude of the exact one rounded by
`roundOn` (`HasMagnitude.add` and its neighbours), and so has a whole number that is converted. So
whatever is true of exact numbers and survives rounding is true of doubles.

The machinery rounds in steps: it shifts one bit at a time and keeps two bits of what is lost. What
it keeps of a quotient is told by the quotient itself (`quotientMantissa`), so a number of shifts is
one division (`shiftRight_quotientMantissa`), and what is made of it in the end is `roundDivEven`.
-/

namespace ClusterLink

open Float.Model Float.Model.UnpackedFloat

/-! ## Rounding a quotient -/

/-- A quotient with what is kept of its fraction. -/
def quotientMantissa (p q : Nat) : ExtendedMantissa :=
  .ofMantissaAndAccuracy (p / q) (accuracyOfFraction (p % q) q)

theorem quotientMantissa_eq {q : Nat} (hq : 0 < q) (p : Nat) :
    quotientMantissa p q
      = ⟨p / q, decide (q ≤ 2 * (p % q)), decide (p % q ≠ 0 ∧ 2 * (p % q) ≠ q)⟩ := by
  unfold quotientMantissa accuracyOfFraction
  by_cases hzero : p % q = 0
  · rw [if_pos hzero, hzero]
    simp [ExtendedMantissa.ofMantissaAndAccuracy, Nat.not_le.2 hq]
  · rw [if_neg hzero]
    rcases Nat.lt_trichotomy (2 * (p % q)) q with h | h | h
    · rw [Nat.compare_eq_lt.2 h]
      simp [ExtendedMantissa.ofMantissaAndAccuracy, hzero, Nat.not_le.2 h, Nat.ne_of_lt h]
    · rw [Nat.compare_eq_eq.2 h]
      simp [ExtendedMantissa.ofMantissaAndAccuracy, h]
    · rw [Nat.compare_eq_gt.2 h]
      simp [ExtendedMantissa.ofMantissaAndAccuracy, hzero, Nat.le_of_lt h, Nat.ne_of_gt h]

theorem shiftRightOne_quotientMantissa {q : Nat} (hq : 0 < q) (p : Nat) :
    (quotientMantissa p q).shiftRightOne = quotientMantissa p (q * 2) := by
  have hdiv : p / (q * 2) = p / q / 2 := (Nat.div_div_eq_div_mul p q 2).symm
  have hmod : p % (q * 2) = p % q + q * (p / q % 2) := Nat.mod_mul
  have hlt : p % q < q := Nat.mod_lt p hq
  rw [quotientMantissa_eq hq, quotientMantissa_eq (by omega), ExtendedMantissa.shiftRightOne, hdiv,
    hmod]
  rcases Nat.mod_two_eq_zero_or_one (p / q) with hbit | hbit
  · rw [hbit]
    congr 1
    · simp
      omega
    · rw [← Bool.decide_or]
      refine decide_eq_decide.2 ?_
      omega
  · rw [hbit]
    congr 1
    · simp
      omega
    · rw [← Bool.decide_or]
      refine decide_eq_decide.2 ?_
      omega

/-- **Shifts are one division.** -/
theorem shiftRight_quotientMantissa {q : Nat} (hq : 0 < q) (p s : Nat) :
    quotientMantissa p q >>> s = quotientMantissa p (q * 2 ^ s) := by
  show s.repeat ExtendedMantissa.shiftRightOne (quotientMantissa p q) = _
  induction s with
  | zero => rw [Nat.pow_zero, Nat.mul_one]; rfl
  | succ s ih =>
    rw [Nat.repeat, ih, shiftRightOne_quotientMantissa (Nat.mul_pos hq (Nat.two_pow_pos s)),
      Nat.pow_succ, Nat.mul_assoc]

theorem roundedMantissa_ofMantissaAndAccuracy (m : Nat) (accuracy : Accuracy) :
    (ExtendedMantissa.ofMantissaAndAccuracy m accuracy).roundedMantissa
      = accuracy.roundToNearestEven m := by
  rcases accuracy with _ | (_ | _ | _) <;> rfl

/-- **What is made of a quotient** is the nearest whole number. -/
theorem roundedMantissa_quotientMantissa {q : Nat} (hq : 0 < q) (p : Nat) :
    (quotientMantissa p q).roundedMantissa = roundDivEven p q := by
  rw [quotientMantissa, roundedMantissa_ofMantissaAndAccuracy, accuracyOfFraction, roundDivEven]
  by_cases hzero : p % q = 0
  · rw [if_pos hzero, if_pos (by omega)]
    rfl
  · rw [if_neg hzero]
    rcases Nat.lt_trichotomy (2 * (p % q)) q with h | h | h
    · rw [Nat.compare_eq_lt.2 h, if_pos h]
      rfl
    · rw [Nat.compare_eq_eq.2 h, if_neg (by omega), if_neg (by omega)]
      rfl
    · rw [Nat.compare_eq_gt.2 h, if_neg (by omega), if_pos h]
      rfl

/-- How far a mantissa is shifted to fit in fifty-three bits. -/
def shiftAmount (m : Nat) (e : Int) : Nat := (max ((m.log2 : Int) + e - 52) (-1074) - e).toNat

theorem shiftToTargetExponent_quotient {q : Nat} (hq : 0 < q) (p : Nat) (e : Int) :
    shiftToTargetExponent .binary64 (p / q) e (accuracyOfFraction (p % q) q)
      = (quotientMantissa p (q * 2 ^ shiftAmount (p / q) e), e + shiftAmount (p / q) e) := by
  have htarget : Format.binary64.targetExponent (totalExponent (p / q) e)
      = max (((p / q).log2 : Int) + e - 52) (-1074) := by
    show max (((p / q).log2 : Int) + 1 + e - (53 : Nat)) (-1074) = _
    congr 1
    omega
  rw [shiftToTargetExponent, htarget, ← shiftRight_quotientMantissa hq]
  rfl

theorem shiftToTargetExponent_exact (m : Nat) (e : Int) :
    shiftToTargetExponent .binary64 m e .exact
      = (quotientMantissa m (2 ^ shiftAmount m e), e + shiftAmount m e) := by
  have h := shiftToTargetExponent_quotient Nat.one_pos m e
  rwa [Nat.div_one, Nat.mod_one, Nat.one_mul] at h

/-- A number of fifty-three bits has its magnitude when it is packed. -/
theorem hasMagnitude_pack {m : Nat} {e : Int} (hlt : m < 2 ^ 53) (hlow : -1074 ≤ e)
    (hnormal : 2 ^ 52 ≤ m ∨ e = -1074) :
    HasMagnitude (.ofModel (Float.Model.pack
      (if h : m = 0 then .zero .positive else .finite .positive m e (Nat.pos_of_ne_zero h))))
      (m * 2 ^ (e + 1074).toNat) := by
  by_cases hzero : m = 0
  · rw [dif_pos hzero, hzero, Nat.zero_mul]
    exact .zero .positive (unpack_pack_zero _)
  rw [dif_neg hzero]
  by_cases hhigh : e ≤ 971
  · exact .finite m e _ hlt hlow hhigh hnormal (unpack_pack_finite _ _ hlt hlow hhigh hnormal)
  · have hm : 2 ^ 52 ≤ m := hnormal.resolve_right (by omega)
    refine .infinity _ ?_ (unpack_pack_of_le _ _ (by omega))
    calc magnitudeLimit ≤ 2 ^ (52 + (e + 1074).toNat) := magnitudeLimit_le (by omega)
      _ = 2 ^ 52 * 2 ^ (e + 1074).toNat := Nat.pow_add ..
      _ ≤ m * 2 ^ (e + 1074).toNat := Nat.mul_le_mul_right _ hm

/-- Rounding up may carry into a fifty-fourth bit; then the mantissa is shifted once more. -/
theorem hasMagnitude_carry {r : Nat} {t : Int} (hr : r ≤ 2 ^ 53) (hlow : -1074 ≤ t)
    (hnormal : 2 ^ 52 ≤ r ∨ t = -1074) :
    HasMagnitude (.ofModel (Float.Model.pack
      (if h : r / 2 ^ shiftAmount r t = 0 then .zero .positive
      else .finite .positive (r / 2 ^ shiftAmount r t) (t + shiftAmount r t)
        (Nat.pos_of_ne_zero h))))
      (r * 2 ^ (t + 1074).toNat) := by
  rcases Nat.lt_or_eq_of_le hr with hlt | rfl
  · have hlog : r.log2 ≤ 52 := by
      by_cases hzero : r = 0
      · rw [hzero, Nat.log2_zero]
        exact Nat.zero_le _
      · exact Nat.le_of_lt_succ ((Nat.log2_lt hzero).2 hlt)
    have hshift : shiftAmount r t = 0 := by
      unfold shiftAmount
      omega
    rw [hshift]
    simp only [Nat.pow_zero, Nat.div_one, Int.natCast_zero, Int.add_zero]
    exact hasMagnitude_pack hlt hlow hnormal
  · -- the mantissa is a power of two, of which half is told with the next exponent
    have hshift : shiftAmount (2 ^ 53) t = 1 := by
      rw [shiftAmount, Nat.log2_two_pow]
      omega
    have hvalue : 2 ^ 53 * 2 ^ (t + 1074).toNat = 2 ^ 52 * 2 ^ (t + 1 + 1074).toNat := by
      rw [← Nat.pow_add, ← Nat.pow_add]
      congr 1
      omega
    rw [hshift, hvalue]
    exact hasMagnitude_pack (by decide) (by omega) (.inl (Nat.le_refl _))

theorem mantissa_quotientMantissa {q : Nat} (hq : 0 < q) (p : Nat) :
    (quotientMantissa p q).mantissa = p / q := by
  rw [quotientMantissa_eq hq]

/-- **A quotient is rounded to the grid of doubles**, if it is told with enough bits. -/
theorem hasMagnitude_roundWithAccuracy {p q : Nat} (hq : 0 < q) {e : Int}
    (he : 52 ≤ (p / q).log2 ∨ e ≤ -1074) {k j : Nat} (hkj : (k : Int) - j = -1074 - e) :
    HasMagnitude (.ofModel (Float.Model.pack
      (roundWithAccuracy .binary64 .positive (p / q) e (accuracyOfFraction (p % q) q))))
      (roundOn k q (p * 2 ^ j)) := by
  obtain ⟨s, hs⟩ : ∃ s, s = shiftAmount (p / q) e := ⟨_, rfl⟩
  have hgrid : gridOf k q (p * 2 ^ j) = s + j := by
    by_cases hzero : p / q = 0
    · rw [hzero, Nat.log2_zero] at he
      have hk : k = k - j + j := by omega
      rw [hk, gridOf_mul _ _ _ hq, hs, gridOf, shiftAmount, hzero, Nat.log2_zero]
      omega
    · rw [gridOf, log2_mul_two_pow_div hq hzero, hs, shiftAmount]
      omega
  have hlow : -1074 ≤ e + s := by
    have := le_gridOf k q (p * 2 ^ j)
    omega
  -- the first rounding is the one to the grid
  obtain ⟨r, hr⟩ : ∃ r, r = roundDivEven p (q * 2 ^ s) := ⟨_, rfl⟩
  have hr' : r = roundDivEven (p * 2 ^ j) (q * 2 ^ gridOf k q (p * 2 ^ j)) := by
    rw [hgrid, Nat.pow_add, ← Nat.mul_assoc, roundDivEven_mul_mul _ _ (Nat.two_pow_pos j), hr]
  have hnormal : 2 ^ 52 ≤ r ∨ e + s = -1074 := by
    by_cases h : k < gridOf k q (p * 2 ^ j)
    · exact .inl (hr' ▸ le_roundDivEven_gridOf hq h)
    · exact .inr (by omega)
  have hvalue : roundOn k q (p * 2 ^ j) = r * 2 ^ (e + s + 1074).toNat := by
    rw [roundOn, ← hr', hgrid]
    congr 2
    omega
  rw [hvalue, roundWithAccuracy, shiftToTargetExponent_quotient hq, ← hs]
  dsimp only
  rw [roundedMantissa_quotientMantissa (Nat.mul_pos hq (Nat.two_pow_pos s)), ← hr,
    shiftToTargetExponent_exact]
  simp only [mantissa_quotientMantissa (Nat.two_pow_pos _)]
  exact hasMagnitude_carry (hr' ▸ roundDivEven_gridOf_le k _ hq) hlow hnormal

theorem hasMagnitude_exact {m : Nat} {e : Int} (he : 52 ≤ m.log2 ∨ e ≤ -1074) {k j : Nat}
    (hkj : (k : Int) - j = -1074 - e) :
    HasMagnitude (.ofModel (Float.Model.pack (roundWithAccuracy .binary64 .positive m e .exact)))
      (roundOn k 1 (m * 2 ^ j)) := by
  have h := hasMagnitude_roundWithAccuracy (p := m) Nat.one_pos (e := e) (by rwa [Nat.div_one]) hkj
  rwa [Nat.div_one, Nat.mod_one] at h

theorem hasMagnitude_round {m : Nat} (hm : 0 < m) (e : Int) {k j : Nat}
    (hkj : (k : Int) - j = -1074 - e) :
    HasMagnitude (.ofModel (Float.Model.pack (UnpackedFloat.round .binary64 .positive m e)))
      (roundOn k 1 (m * 2 ^ j)) := by
  have htarget : Format.binary64.targetExponent (totalExponent m e)
      = max ((m.log2 : Int) + e - 52) (-1074) := by
    show max ((m.log2 : Int) + 1 + e - (53 : Nat)) (-1074) = _
    congr 1
    omega
  rw [UnpackedFloat.round, htarget]
  obtain ⟨i, hi⟩ : ∃ i, i = (e - max ((m.log2 : Int) + e - 52) (-1074)).toNat := ⟨_, rfl⟩
  show HasMagnitude (.ofModel (Float.Model.pack (roundWithAccuracy .binary64 .positive
    (m <<< (e - _).toNat) (e - (e - _).toNat) .exact))) _
  -- the shift changes the unit, and rounding does not depend on that
  rw [← hi, Nat.shiftLeft_eq, ← roundOn_mul k (m * 2 ^ j) i Nat.one_pos, Nat.mul_right_comm]
  have hlog := log2_mul_two_pow_div Nat.one_pos (n := m) (by rw [Nat.div_one]; omega) i
  rw [Nat.div_one, Nat.div_one] at hlog
  exact hasMagnitude_exact (by omega) (by omega)

/-- **A whole number times a power of two** is rounded to the grid of doubles. -/
theorem hasMagnitude_normalize (n : Nat) (e : Int) {k j : Nat} (hkj : (k : Int) - j = -1074 - e) :
    HasMagnitude (.ofModel (Float.Model.pack
      (UnpackedFloat.normalize .binary64 (n : Int) e .positive)))
      (roundOn k 1 (n * 2 ^ j)) := by
  rw [UnpackedFloat.normalize]
  by_cases hzero : n = 0
  · rw [hzero, Nat.zero_mul, roundOn_zero]
    exact .zero .positive (unpack_pack_zero _)
  · rw [Int.compare_eq_gt.2 (by omega)]
    exact hasMagnitude_round (Nat.pos_of_ne_zero hzero) e hkj

/-- A dividend is shifted until the quotient has enough bits. -/
theorem hasMagnitude_div {m n : Nat} {e f : Int} (hm : 0 < m) (hn : 0 < n) (hlow : -1074 ≤ e)
    (hlow' : -1074 ≤ f) :
    HasMagnitude (.ofModel (Float.Model.pack (UnpackedFloat.div .binary64
      (.finite .positive m e hm) (.finite .positive n f hn))))
      (roundOn 0 (n * 2 ^ (f + 1074).toNat) (m * 2 ^ (e + 1074).toNat * magnitudeOne)) := by
  obtain ⟨t, ht⟩ : ∃ t,
      t = min (e - f) (max ((m.log2 : Int) + e - (n.log2 + f) - 53) (-1074)) :=
    ⟨_, rfl⟩
  have htarget : min (e - f)
      (Format.binary64.targetExponent (totalExponent m e - totalExponent n f)) = t := by
    rw [ht]
    show min (e - f) (max ((m.log2 + 1 + e) - (n.log2 + 1 + f) - (53 : Nat)) (-1074)) = _
    congr 2
    omega
  obtain ⟨s, hs⟩ : ∃ s, s = (e - f - t).toNat := ⟨_, rfl⟩
  have hbits : 52 ≤ (m <<< s / n).log2 ∨ t ≤ -1074 := by
    by_cases hle : t ≤ -1074
    · exact .inr hle
    have hlog : n.log2 + 53 ≤ m.log2 + s := by omega
    have hdividend : 2 ^ 52 * n ≤ m <<< s :=
      calc 2 ^ 52 * n ≤ 2 ^ 52 * 2 ^ (n.log2 + 1) :=
            Nat.mul_le_mul_left _ (Nat.le_of_lt Nat.lt_log2_self)
        _ = 2 ^ (n.log2 + 53) := by rw [← Nat.pow_add]; congr 1; omega
        _ ≤ 2 ^ (m.log2 + s) := Nat.pow_le_pow_right (by decide) hlog
        _ = 2 ^ m.log2 * 2 ^ s := Nat.pow_add ..
        _ ≤ m * 2 ^ s := Nat.mul_le_mul_right _ (Nat.log2_self_le (by omega))
        _ = m <<< s := (Nat.shiftLeft_eq m s).symm
    have hquotient : 2 ^ 52 ≤ m <<< s / n := (Nat.le_div_iff_mul_le hn).2 hdividend
    exact .inl ((Nat.le_log2 (by omega)).2 hquotient)
  -- the same quotient, told with whole powers of two
  have hvalue : roundOn 0 (n * 2 ^ (f + 1074).toNat) (m * 2 ^ (e + 1074).toNat * magnitudeOne)
      = roundOn (f + 1074).toNat n (m <<< s * 2 ^ (f + t + 2148).toNat) := by
    rw [← roundOn_mul 0 _ (f + 1074).toNat (Nat.mul_pos hn (Nat.two_pow_pos _)),
      roundOn_mul_mul _ _ _ (Nat.two_pow_pos _), Nat.zero_add, magnitudeOne_eq, Nat.shiftLeft_eq,
      Nat.mul_assoc, Nat.mul_assoc, ← Nat.pow_add 2 (e + 1074).toNat 1074,
      ← Nat.pow_add 2 s (f + t + 2148).toNat]
    congr 3
    omega
  rw [UnpackedFloat.div, divCore, htarget, ← hs, hvalue]
  exact hasMagnitude_roundWithAccuracy hn hbits (by omega)

/-! ## Operations -/

/-- **A whole number that is converted** is rounded. -/
theorem hasMagnitude_toFloat (n : UInt64) :
    HasMagnitude n.toFloat (roundOn 0 1 (n.toNat * magnitudeOne)) := by
  rw [magnitudeOne_eq]
  exact hasMagnitude_normalize n.toNat 0 (j := 1074) (by decide)

namespace HasMagnitude

variable {x y : Float} {m n : Nat}

/-- What is beyond all doubles is rounded to what is beyond them. -/
theorem le_roundOn (h : magnitudeLimit ≤ n) : magnitudeLimit ≤ roundOn 0 1 n := by
  have hpow := roundOn_two_pow 2098
  rw [← magnitudeLimit_eq] at hpow
  exact hpow ▸ roundOn_mono 0 Nat.one_pos h

/-- The magnitude of a number that is told with a smaller exponent. -/
theorem shiftLeft_mul_two_pow {e f : Int} (m : Nat) (hf : -1074 ≤ f) (h : f ≤ e) :
    m <<< (e - f).toNat * 2 ^ (f + 1074).toNat = m * 2 ^ (e + 1074).toNat := by
  rw [Nat.shiftLeft_eq, Nat.mul_assoc, ← Nat.pow_add]
  congr 2
  omega

/-- **A sum** is rounded. -/
theorem add (hx : HasMagnitude x m) (hy : HasMagnitude y n) :
    HasMagnitude (x + y) (roundOn 0 1 (m + n)) := by
  show HasMagnitude (.ofModel (Float.Model.pack
    (UnpackedFloat.add .binary64 x.toModel.unpack y.toModel.unpack))) _
  cases hx with
  | zero sign hx =>
    rw [hx, Nat.zero_add]
    cases hy with
    | zero sign' hy =>
      rw [hy, roundOn_zero]
      cases sign <;> cases sign' <;> exact .zero _ (unpack_pack_zero _)
    | finite n f hn hlt hlow hhigh hnormal hy =>
      rw [hy, roundOn_of_lt hlt (Nat.zero_le _)]
      exact .finite n f hn hlt hlow hhigh hnormal (unpack_pack_finite _ hn hlt hlow hhigh hnormal)
    | infinity _ hn hy =>
      rw [hy]
      exact .infinity _ (le_roundOn hn) (unpack_pack_infinity _)
  | finite m e hm hlt hlow hhigh hnormal hx =>
    rw [hx]
    cases hy with
    | zero sign hy =>
      rw [hy, Nat.add_zero, roundOn_of_lt hlt (Nat.zero_le _)]
      exact .finite m e hm hlt hlow hhigh hnormal (unpack_pack_finite _ hm hlt hlow hhigh hnormal)
    | finite n f hn hlt' hlow' hhigh' hnormal' hy =>
      rw [hy]
      show HasMagnitude (.ofModel (Float.Model.pack (UnpackedFloat.normalize .binary64
        ((m <<< (e - min e f).toNat : Nat) + (n <<< (f - min e f).toNat : Nat) : Int) (min e f)
        .positive))) _
      rw [← Int.natCast_add]
      have h := hasMagnitude_normalize (m <<< (e - min e f).toNat + n <<< (f - min e f).toNat)
        (min e f) (k := 0) (j := (min e f + 1074).toNat) (by omega)
      rwa [Nat.add_mul, shiftLeft_mul_two_pow m (by omega) (Int.min_le_left e f),
        shiftLeft_mul_two_pow n (by omega) (Int.min_le_right e f)] at h
    | infinity _ hn hy =>
      rw [hy]
      exact .infinity _ (le_roundOn (Nat.le_add_left_of_le hn)) (unpack_pack_infinity _)
  | infinity _ hm hx =>
    have hsum : magnitudeLimit ≤ roundOn 0 1 (m + n) := le_roundOn (Nat.le_add_right_of_le hm)
    rw [hx]
    cases hy with
    | zero sign hy =>
      rw [hy]
      exact .infinity _ hsum (unpack_pack_infinity _)
    | finite n f hn hlt hlow hhigh hnormal hy =>
      rw [hy]
      exact .infinity _ hsum (unpack_pack_infinity _)
    | infinity _ hn hy =>
      rw [hy]
      exact .infinity _ hsum (unpack_pack_infinity _)

/-- **A difference** is rounded. -/
theorem sub (hx : HasMagnitude x m) (hy : HasMagnitude y n) (hm : m < magnitudeLimit)
    (hnm : n ≤ m) : HasMagnitude (x - y) (roundOn 0 1 (m - n)) := by
  show HasMagnitude (.ofModel (Float.Model.pack
    (UnpackedFloat.sub .binary64 x.toModel.unpack y.toModel.unpack))) _
  cases hx with
  | zero sign hx =>
    rw [hx, Nat.zero_sub, roundOn_zero]
    cases hy with
    | zero sign' hy =>
      rw [hy]
      cases sign <;> cases sign' <;> exact .zero _ (unpack_pack_zero _)
    | finite n f hn hlt hlow hhigh hnormal hy =>
      exact absurd (Nat.mul_pos hn (Nat.two_pow_pos _)) (Nat.not_lt.2 hnm)
    | infinity _ hn hy => exact absurd (Nat.le_trans hn hnm) (Nat.not_le.2 hm)
  | finite m e hm' hlt hlow hhigh hnormal hx =>
    rw [hx]
    cases hy with
    | zero sign hy =>
      rw [hy, Nat.sub_zero, roundOn_of_lt hlt (Nat.zero_le _)]
      exact .finite m e hm' hlt hlow hhigh hnormal (unpack_pack_finite _ hm' hlt hlow hhigh hnormal)
    | finite n f hn hlt' hlow' hhigh' hnormal' hy =>
      rw [hy]
      have hm'' := shiftLeft_mul_two_pow m (by omega) (Int.min_le_left e f)
      have hn'' := shiftLeft_mul_two_pow n (by omega) (Int.min_le_right e f)
      have hle : n <<< (f - min e f).toNat ≤ m <<< (e - min e f).toNat := by
        refine Nat.le_of_mul_le_mul_right ?_ (Nat.two_pow_pos (min e f + 1074).toNat)
        rwa [hm'', hn'']
      show HasMagnitude (.ofModel (Float.Model.pack (UnpackedFloat.normalize .binary64
        ((m <<< (e - min e f).toNat : Nat) - (n <<< (f - min e f).toNat : Nat) : Int) (min e f)
        .positive))) _
      rw [← Int.natCast_sub hle]
      have h := hasMagnitude_normalize (m <<< (e - min e f).toNat - n <<< (f - min e f).toNat)
        (min e f) (k := 0) (j := (min e f + 1074).toNat) (by omega)
      rwa [Nat.sub_mul, hm'', hn''] at h
    | infinity _ hn hy => exact absurd (Nat.le_trans hn hnm) (Nat.not_le.2 hm)
  | infinity _ hm' => exact absurd hm (Nat.not_lt.2 hm')

/-- **A product** is rounded, to a grid that is finer by the unit of the magnitudes. -/
theorem mul (hx : HasMagnitude x m) (hy : HasMagnitude y n) (hm : m < magnitudeLimit)
    (hn : n < magnitudeLimit) : HasMagnitude (x * y) (roundOn 1074 1 (m * n)) := by
  show HasMagnitude (.ofModel (Float.Model.pack
    (UnpackedFloat.mul .binary64 x.toModel.unpack y.toModel.unpack))) _
  cases hx with
  | zero sign hx =>
    rw [hx, Nat.zero_mul, roundOn_zero]
    cases hy with
    | zero sign' hy =>
      rw [hy]
      exact .zero _ (unpack_pack_zero _)
    | finite n f hn hlt hlow hhigh hnormal hy =>
      rw [hy]
      exact .zero _ (unpack_pack_zero _)
    | infinity _ hn' => exact absurd hn (Nat.not_lt.2 hn')
  | finite m e hm' hlt hlow hhigh hnormal hx =>
    rw [hx]
    cases hy with
    | zero sign hy =>
      rw [hy, Nat.mul_zero, roundOn_zero]
      exact .zero _ (unpack_pack_zero _)
    | finite n f hn' hlt' hlow' hhigh' hnormal' hy =>
      rw [hy]
      have hpos : m * n ≠ 0 := Nat.mul_ne_zero (by omega) (by omega)
      -- one factor with all its bits is enough, and two that are as small as can be make no bit
      have hbits : 52 ≤ (m * n).log2 ∨ e + f ≤ -1074 := by
        rcases hnormal with hm | rfl
        · exact .inl ((Nat.le_log2 hpos).2 (Nat.le_trans hm (Nat.le_mul_of_pos_right m hn')))
        · rcases hnormal' with hn | rfl
          · exact .inl ((Nat.le_log2 hpos).2 (Nat.le_trans hn (Nat.le_mul_of_pos_left n hm')))
          · exact .inr (by decide)
      have hvalue : m * 2 ^ (e + 1074).toNat * (n * 2 ^ (f + 1074).toNat)
          = m * n * 2 ^ (e + f + 2148).toNat := by
        rw [Nat.mul_mul_mul_comm, ← Nat.pow_add]
        congr 2
        omega
      rw [hvalue]
      exact hasMagnitude_exact hbits (by omega)
    | infinity _ hn' => exact absurd hn (Nat.not_lt.2 hn')
  | infinity _ hm' => exact absurd hm (Nat.not_lt.2 hm')

/-- **A quotient** is rounded. -/
theorem div (hx : HasMagnitude x m) (hy : HasMagnitude y n) (hm : m < magnitudeLimit)
    (hn : n < magnitudeLimit) (hpos : 0 < n) :
    HasMagnitude (x / y) (roundOn 0 n (m * magnitudeOne)) := by
  show HasMagnitude (.ofModel (Float.Model.pack
    (UnpackedFloat.div .binary64 x.toModel.unpack y.toModel.unpack))) _
  cases hy with
  | zero sign hy => exact absurd hpos (Nat.lt_irrefl 0)
  | finite n f hn' hlt' hlow' hhigh' hnormal' hy =>
    rw [hy]
    cases hx with
    | zero sign hx =>
      rw [hx, Nat.zero_mul, roundOn_zero]
      exact .zero _ (unpack_pack_zero _)
    | finite m e hm' hlt hlow hhigh hnormal hx =>
      rw [hx]
      exact hasMagnitude_div hm' hn' hlow hlow'
    | infinity _ hm' => exact absurd hm (Nat.not_lt.2 hm')
  | infinity _ hn' => exact absurd hn (Nat.not_lt.2 hn')

end HasMagnitude

end ClusterLink
