import ClusterLink.Proofs.Time.Nanoseconds

/-!
# How close the seconds of a duration come

The seconds of a duration are rounded three times: the whole ones, the rest of them, and the sum.
All in all they miss the duration by less than one step of the doubles, so the double after them is
not less than the duration (`Duration.exists_next`), and neither is the product with any number
above one (`Duration.le_nearestNanos_mul`). Of two durations the longer one has no fewer seconds
(`Duration.magnitude_mono`).

The nanoseconds of a duration can be told from its seconds as long as the doubles are closer to each
other than nanoseconds are, which is so below `2 ^ 23` seconds (`Duration.nearestNanos_magnitude`).
-/

namespace ClusterLink

/-! ## Neighbours on the grid -/

/-- **A rounded quotient is within half a grid** of the exact one. -/
theorem roundOn_near (n : Nat) {d : Nat} (hd : 0 < d) :
    2 * n ≤ 2 * (d * roundOn 0 d n) + d * 2 ^ gridOf 0 d n
      ∧ 2 * (d * roundOn 0 d n) ≤ 2 * n + d * 2 ^ gridOf 0 d n := by
  have h := roundDivEven_near n (d * 2 ^ gridOf 0 d n) (Nat.mul_pos hd (Nat.two_pow_pos _))
  have hvalue : 2 * (d * 2 ^ gridOf 0 d n) * roundDivEven n (d * 2 ^ gridOf 0 d n)
      = 2 * (d * roundOn 0 d n) := by
    rw [roundOn, Nat.sub_zero, Nat.mul_assoc, Nat.mul_assoc, Nat.mul_comm (2 ^ _)]
  rwa [hvalue] at h

/-- A rounded number is a multiple of its grid, by fifty-three bits and perhaps one more. -/
theorem exists_roundOn_eq (n : Nat) : ∃ k, roundOn 0 1 n = k * 2 ^ gridOf 0 1 n ∧ k ≤ 2 ^ 53
    ∧ (0 < gridOf 0 1 n → 2 ^ 52 ≤ k) :=
  ⟨_, rfl, roundDivEven_gridOf_le 0 n Nat.one_pos, le_roundDivEven_gridOf Nat.one_pos⟩

/-- The bits of a rounded number that is not too small. -/
theorem exists_bits {n : Nat} (h : 2 ^ 52 ≤ roundOn 0 1 n) :
    ∃ k j, roundOn 0 1 n = k * 2 ^ j ∧ 2 ^ 52 ≤ k ∧ k < 2 ^ 53 ∧ gridOf 0 1 n ≤ j := by
  obtain ⟨k, hvalue, hle, hge⟩ := exists_roundOn_eq n
  rcases Nat.lt_or_eq_of_le hle with hlt | rfl
  · refine ⟨k, _, hvalue, ?_, hlt, Nat.le_refl _⟩
    rcases Nat.eq_zero_or_pos (gridOf 0 1 n) with hzero | hpos
    · rwa [hvalue, hzero, Nat.pow_zero, Nat.mul_one] at h
    · exact hge hpos
  · -- the bit that is too many is told with the next power of two
    refine ⟨2 ^ 52, gridOf 0 1 n + 1, ?_, Nat.le_refl _, by decide, Nat.le_succ _⟩
    rw [hvalue, ← Nat.pow_add, ← Nat.pow_add]
    congr 1
    omega

/-- A number of fifty-three bits, or the next one, is not rounded. -/
theorem roundOn_of_le {m k j : Nat} (hm : m ≤ 2 ^ 53) (h : k ≤ j) :
    roundOn k 1 (m * 2 ^ j) = m * 2 ^ (j - k) := by
  rcases Nat.lt_or_eq_of_le hm with hlt | rfl
  · exact roundOn_of_lt hlt h
  · have hpow := roundOn_of_lt (m := 1) (k := k) (j := 53 + j) (by decide) (by omega)
    rw [Nat.one_mul, Nat.one_mul, Nat.pow_add, Nat.add_sub_assoc h, Nat.pow_add] at hpow
    exact hpow

/-- **A rounded number is not rounded again.** -/
theorem roundOn_roundOn (n : Nat) : roundOn 0 1 (roundOn 0 1 n) = roundOn 0 1 n := by
  obtain ⟨k, hvalue, hle, -⟩ := exists_roundOn_eq n
  rw [hvalue]
  exact roundOn_of_le hle (Nat.zero_le _)

/-- What is less than half a grid is lost. -/
theorem roundOn_add_of_lt {k j s : Nat} (hlow : 2 ^ 52 ≤ k) (hk : k < 2 ^ 53)
    (hs : 2 * s < 2 ^ j) :
    roundOn 0 1 (k * 2 ^ j + s) = k * 2 ^ j := by
  have hpos : 0 < 2 ^ j := Nat.two_pow_pos j
  have hlog : (k * 2 ^ j + s).log2 = 52 + j := by
    have hlow' : 2 ^ 52 * 2 ^ j ≤ k * 2 ^ j := Nat.mul_le_mul_right _ hlow
    have hhigh : (k + 1) * 2 ^ j ≤ 2 ^ 53 * 2 ^ j := Nat.mul_le_mul_right _ hk
    rw [Nat.log2_eq_iff (by omega), Nat.pow_add, Nat.add_right_comm 52 j 1, Nat.pow_add]
    rw [Nat.succ_mul] at hhigh
    exact ⟨by omega, by omega⟩
  have hgrid : gridOf 0 1 (k * 2 ^ j + s) = j := by
    rw [gridOf, Nat.div_one, hlog]
    omega
  have hdiv : (k * 2 ^ j + s) / 2 ^ j = k := by
    rw [Nat.mul_comm, Nat.mul_add_div hpos, Nat.div_eq_of_lt (by omega), Nat.add_zero]
  have hmod : (k * 2 ^ j + s) % 2 ^ j = s := by
    rw [Nat.mul_comm, Nat.mul_add_mod, Nat.mod_eq_of_lt (by omega)]
  rw [roundOn, hgrid, Nat.one_mul, roundDivEven, hdiv, hmod, if_pos hs, Nat.sub_zero]

/-- Rounding a quotient does not take a bit from it. -/
theorem log2_le_log2_roundOn (n : Nat) {d : Nat} (hd : 0 < d) :
    (n / d).log2 ≤ (roundOn 0 d n).log2 := by
  by_cases hzero : n / d = 0
  · rw [hzero, Nat.log2_zero]
    exact Nat.zero_le _
  · have hpow : 2 ^ (n / d).log2 * d ≤ n := (Nat.le_div_iff_mul_le hd).1 (Nat.log2_self_le hzero)
    have hround := roundOn_mono 0 hd hpow
    have hexact : roundOn 0 d (2 ^ (n / d).log2 * d) = 2 ^ (n / d).log2 := by
      have h := roundOn_mul_mul 0 (2 ^ (n / d).log2) 1 hd
      rwa [Nat.one_mul, roundOn_two_pow] at h
    rw [hexact] at hround
    have hpos := Nat.two_pow_pos (n / d).log2
    exact (Nat.le_log2 (by omega)).2 hround

/-- **A product with more than one** is the next number at least. Here one is told in units of its
last bit. -/
theorem succ_mul_le_roundOn_mul {k j l n m : Nat} (hlow : 2 ^ 52 ≤ k) (hk : k < 2 ^ 53)
    (hn : k * 2 ^ j ≤ n) (hm : (2 ^ 52 + 1) * 2 ^ l ≤ m) :
    (k + 1) * 2 ^ j ≤ roundOn (52 + l) 1 (n * m) := by
  have hproduct : (k + 1) * 2 ^ (j + (52 + l)) ≤ n * m :=
    calc (k + 1) * 2 ^ (j + (52 + l))
        = (k * 2 ^ 52 + 2 ^ 52) * (2 ^ j * 2 ^ l) := by
          rw [Nat.pow_add, Nat.pow_add 2 52 l, Nat.mul_left_comm (2 ^ j), ← Nat.mul_assoc,
            Nat.succ_mul]
      _ ≤ (k * 2 ^ 52 + k) * (2 ^ j * 2 ^ l) :=
        Nat.mul_le_mul_right _ (Nat.add_le_add_left hlow _)
      _ = k * 2 ^ j * ((2 ^ 52 + 1) * 2 ^ l) := by
          rw [Nat.mul_mul_mul_comm, Nat.mul_add, Nat.mul_one]
      _ ≤ n * m := Nat.mul_le_mul hn hm
  have hround := roundOn_mono (52 + l) Nat.one_pos hproduct
  rwa [roundOn_of_le hk (Nat.le_add_left _ j), Nat.add_sub_cancel] at hround

/-- The next double after one. -/
theorem succ_le_magnitude {y : Float} {m l : Nat} (hy : HasMagnitude y m)
    (hone : magnitudeOne = 2 ^ (52 + l)) (hlt : magnitudeOne < m) : (2 ^ 52 + 1) * 2 ^ l ≤ m := by
  have hsucc : (2 ^ 52 + 1) * 2 ^ l ≤ 2 ^ 1 * magnitudeOne := by
    rw [hone, Nat.pow_add, ← Nat.mul_assoc]
    exact Nat.mul_le_mul_right _ (by decide)
  cases hy with
  | zero => exact absurd hlt (Nat.not_lt_zero _)
  | finite n e hn hbits hlow hhigh hnormal hy =>
    generalize (e + 1074).toNat = i at hlt ⊢
    rw [hone] at hlt
    rcases Nat.lt_or_ge i l with hil | hli
    · -- a double whose last bit counts for less is less than one
      have hsmall : n * 2 ^ i ≤ 2 ^ (52 + l) :=
        calc n * 2 ^ i ≤ 2 ^ 53 * 2 ^ i := Nat.mul_le_mul_right _ (Nat.le_of_lt hbits)
          _ = 2 ^ (53 + i) := (Nat.pow_add ..).symm
          _ ≤ 2 ^ (52 + l) := Nat.pow_le_pow_right (by decide) (by omega)
      exact absurd hlt (Nat.not_lt.2 hsmall)
    · obtain ⟨i, rfl⟩ : ∃ i', i = i' + l := ⟨i - l, by omega⟩
      rw [Nat.pow_add, Nat.pow_add 2 i l, ← Nat.mul_assoc] at hlt
      rw [Nat.pow_add, ← Nat.mul_assoc]
      exact Nat.mul_le_mul_right _ (Nat.lt_of_mul_lt_mul_right hlt)
  | infinity _ hm hy =>
    exact Nat.le_trans hsucc (Nat.le_trans (Nat.le_of_lt (two_pow_mul_lt (by decide))) hm)

/-- A quotient that is near a whole number is rounded to it. -/
theorem roundDivEven_eq_of_near {k n d : Nat} (hlow : 2 * (k * d) < 2 * n + d)
    (hhigh : 2 * n < 2 * (k * d) + d) :
    roundDivEven n d = k := by
  have hd : 0 < d := by omega
  have hnear := roundDivEven_near n d hd
  rw [Nat.mul_assoc, Nat.mul_comm d] at hnear
  have hle : k * d < (roundDivEven n d + 1) * d := by
    rw [Nat.succ_mul]
    omega
  have hge : roundDivEven n d * d < (k + 1) * d := by
    rw [Nat.succ_mul]
    omega
  have := Nat.lt_of_mul_lt_mul_right hle
  have := Nat.lt_of_mul_lt_mul_right hge
  omega

/-! ## Seconds -/

theorem two_pow_le_magnitudeOne {j : Nat} (h : j ≤ 1074) : 2 ^ j ≤ magnitudeOne := by
  have hpow : ∀ i, j ≤ i → 2 ^ j ≤ 2 ^ i := fun i => Nat.pow_le_pow_right (by decide)
  rw [magnitudeOne_eq]
  exact hpow 1074 h

namespace Duration

variable (d e : Duration)

/-- The whole seconds, as they are rounded. -/
def wholes : Nat := roundOn 0 1 (d.wholeSeconds * magnitudeOne)

/-- The rest of the seconds, as it is rounded. -/
def fraction : Nat := roundOn 0 nanosPerSecond (d.subsecNanos * magnitudeOne)

/-- The grid to which the rest of the seconds is rounded. -/
def fractionGrid : Nat := gridOf 0 nanosPerSecond (d.subsecNanos * magnitudeOne)

theorem magnitude_eq : d.magnitude = roundOn 0 1 (d.wholes + d.fraction) := rfl

theorem nanos_mul_magnitudeOne : d.nanos * magnitudeOne
    = nanosPerSecond * (d.wholeSeconds * magnitudeOne) + d.subsecNanos * magnitudeOne := by
  rw [← Nat.mul_assoc, ← Nat.add_mul]
  congr 1
  exact (Nat.div_add_mod d.nanos nanosPerSecond).symm

theorem subsec_add_le :
    d.subsecNanos * magnitudeOne + magnitudeOne ≤ nanosPerSecond * magnitudeOne := by
  rw [← Nat.succ_mul]
  exact Nat.mul_le_mul_right _ d.subsecNanos_lt

/-- The grid of the rest is finer than fifty-two bits of a second. -/
theorem two_pow_fractionGrid_le : 2 ^ 52 * 2 ^ d.fractionGrid ≤ magnitudeOne := by
  rcases Nat.eq_zero_or_pos d.fractionGrid with hzero | hpos
  · rw [hzero, Nat.pow_zero, Nat.mul_one]
    exact two_pow_le_magnitudeOne (j := 52) (by decide)
  · have hgrid : 2 ^ 52 * (nanosPerSecond * 2 ^ d.fractionGrid) ≤ d.subsecNanos * magnitudeOne :=
      mul_gridOf_le (by decide) hpos
    have hle := Nat.le_trans hgrid (Nat.le_of_add_right_le d.subsec_add_le)
    rw [Nat.mul_left_comm] at hle
    exact Nat.le_of_mul_le_mul_left hle (by decide)

theorem fraction_near :
    2 * (d.subsecNanos * magnitudeOne) ≤ 2 * (nanosPerSecond * d.fraction)
        + nanosPerSecond * 2 ^ d.fractionGrid
      ∧ 2 * (nanosPerSecond * d.fraction) ≤ 2 * (d.subsecNanos * magnitudeOne)
        + nanosPerSecond * 2 ^ d.fractionGrid :=
  roundOn_near _ (by decide)

/-- **The rest of the seconds is less than one**, even when it is rounded. -/
theorem fraction_lt : d.fraction < magnitudeOne := by
  have hnear := d.fraction_near.2
  have hgrid := d.two_pow_fractionGrid_le
  have hsubsec := d.subsec_add_le
  have hpos := magnitudeOne_pos
  unfold nanosPerSecond at hnear hsubsec
  generalize d.subsecNanos * magnitudeOne = rest at *
  generalize 2 ^ d.fractionGrid = grid at *
  omega

/-- Whole seconds that are few enough are not rounded. -/
theorem wholes_eq (h : d.wholeSeconds < 2 ^ 53) : d.wholes = d.wholeSeconds * magnitudeOne :=
  roundOn_mul_magnitudeOne h

/-- The grid of the rest is no coarser than that of the sum. -/
theorem fractionGrid_le : d.fractionGrid ≤ gridOf 0 1 (d.wholes + d.fraction) := by
  have hlog : (d.subsecNanos * magnitudeOne / nanosPerSecond).log2
      ≤ (d.wholes + d.fraction).log2 :=
    Nat.le_trans (log2_le_log2_roundOn _ (by decide))
      (log2_mono (Nat.le_add_left d.fraction d.wholes))
  unfold fractionGrid gridOf
  rw [Nat.div_one]
  omega

/-- Whole seconds that are rounded are told in steps of two at least. -/
theorem exists_wholes_eq (h : 2 ^ 53 ≤ d.wholeSeconds) :
    ∃ k j, d.wholes = k * 2 ^ j ∧ 2 ^ 52 ≤ k
    ∧ k < 2 ^ 53 ∧ 2 * magnitudeOne ≤ 2 ^ j
    ∧ 2 * (d.wholeSeconds * magnitudeOne) ≤ 2 * d.wholes + 2 ^ j := by
  have hlarge : 2 ^ 53 * magnitudeOne ≤ d.wholeSeconds * magnitudeOne := Nat.mul_le_mul_right _ h
  have hwholes : 2 ^ 53 * magnitudeOne ≤ d.wholes := by
    obtain ⟨i, hone⟩ : ∃ i, magnitudeOne = 2 ^ i := ⟨1074, magnitudeOne_eq⟩
    have hround := roundOn_mono 0 Nat.one_pos hlarge
    rwa [hone, ← Nat.pow_add, roundOn_two_pow, Nat.pow_add, ← hone] at hround
  have hpos := magnitudeOne_pos
  obtain ⟨k, j, hvalue, hlow, hk, hgrid⟩ := exists_bits (n := d.wholeSeconds * magnitudeOne)
    (show 2 ^ 52 ≤ d.wholes by omega)
  have hnear : 2 * (d.wholeSeconds * magnitudeOne)
      ≤ 2 * (1 * d.wholes) + 1 * 2 ^ gridOf 0 1 (d.wholeSeconds * magnitudeOne) :=
    (roundOn_near _ Nat.one_pos).1
  have hpow : 2 ^ gridOf 0 1 (d.wholeSeconds * magnitudeOne) ≤ 2 ^ j :=
    Nat.pow_le_pow_right (by decide) hgrid
  refine ⟨k, j, hvalue, hlow, hk, ?_, by omega⟩
  -- a number with all its bits above the last one, which counts for more than one
  obtain ⟨i, hone⟩ : ∃ i, magnitudeOne = 2 ^ i := ⟨1074, magnitudeOne_eq⟩
  have hlt : 2 ^ 53 * 2 ^ i < 2 ^ 53 * 2 ^ j :=
    calc 2 ^ 53 * 2 ^ i ≤ d.wholes := hone ▸ hwholes
      _ = k * 2 ^ j := hvalue
      _ < 2 ^ 53 * 2 ^ j := Nat.mul_lt_mul_of_pos_right hk (Nat.two_pow_pos j)
  have hij : i < j := (Nat.pow_lt_pow_iff_right (by decide)).1 (Nat.lt_of_mul_lt_mul_left hlt)
  rw [hone, Nat.mul_comm, ← Nat.pow_succ]
  exact Nat.pow_le_pow_right (by decide) hij

theorem wholes_le : d.wholes ≤ d.magnitude :=
  calc d.wholes = roundOn 0 1 d.wholes := (roundOn_roundOn _).symm
    _ ≤ d.magnitude := roundOn_mono 0 Nat.one_pos (Nat.le_add_right d.wholes d.fraction)

/-- A nanosecond is far above the smallest doubles. -/
theorem le_magnitude (h : 0 < d.nanos) : 2 ^ 52 ≤ d.magnitude := by
  have hone : 2 ^ 82 ≤ magnitudeOne := two_pow_le_magnitudeOne (by decide)
  have hsum : 2 ^ 52 ≤ d.wholes + d.fraction := by
    rcases Nat.eq_zero_or_pos d.wholeSeconds with hzero | hpos
    · -- then there is a rest
      have hvalue := d.nanos_mul_magnitudeOne
      have hnear := d.fraction_near.1
      have hgrid := d.two_pow_fractionGrid_le
      have hnanos : magnitudeOne ≤ d.nanos * magnitudeOne := Nat.le_mul_of_pos_left _ h
      rw [hzero, Nat.zero_mul, Nat.mul_zero, Nat.zero_add] at hvalue
      rw [hvalue] at hnanos
      unfold nanosPerSecond at hnear
      generalize d.subsecNanos * magnitudeOne = rest at *
      generalize 2 ^ d.fractionGrid = grid at *
      omega
    · have hwholes := roundOn_mono 0 Nat.one_pos
        (Nat.le_trans hone (Nat.le_mul_of_pos_left magnitudeOne hpos))
      rw [roundOn_two_pow] at hwholes
      have hle : 2 ^ 82 ≤ d.wholes := hwholes
      omega
  have hround := roundOn_mono 0 Nat.one_pos hsum
  rwa [roundOn_two_pow] at hround

/-- **The number after the seconds of a duration is not less than the duration.** -/
theorem exists_next (h : 0 < d.nanos) :
    ∃ k j, 2 ^ 52 ≤ k ∧ k < 2 ^ 53 ∧ k * 2 ^ j ≤ d.magnitude
    ∧ d.nanos * magnitudeOne ≤ (k + 1) * 2 ^ j * nanosPerSecond := by
  have hvalue := d.nanos_mul_magnitudeOne
  rcases Nat.lt_or_ge d.wholeSeconds (2 ^ 53) with hfew | hmany
  · obtain ⟨k, j, hmagnitude, hlow, hk, hgrid⟩ := exists_bits (d.le_magnitude h)
    refine ⟨k, j, hlow, hk, Nat.le_of_eq hmagnitude.symm, ?_⟩
    have hsum : 2 * (d.wholes + d.fraction) ≤ 2 * (1 * d.magnitude)
        + 1 * 2 ^ gridOf 0 1 (d.wholes + d.fraction) := (roundOn_near _ Nat.one_pos).1
    have hpow : 2 ^ gridOf 0 1 (d.wholes + d.fraction) ≤ 2 ^ j :=
      Nat.pow_le_pow_right (by decide) hgrid
    have hpow' : 2 ^ d.fractionGrid ≤ 2 ^ j :=
      Nat.pow_le_pow_right (by decide) (Nat.le_trans d.fractionGrid_le hgrid)
    have hnear := d.fraction_near.1
    have hwhole := d.wholes_eq hfew
    have hmagnitude' : d.magnitude = k * 2 ^ j := hmagnitude
    rw [hvalue, ← hwhole, Nat.succ_mul, ← hmagnitude']
    unfold nanosPerSecond at hnear ⊢
    generalize d.subsecNanos * magnitudeOne = rest at *
    omega
  · obtain ⟨k, j, hwholes, hlow, hk, hstep, hnear⟩ := d.exists_wholes_eq hmany
    refine ⟨k, j, hlow, hk, ?_, ?_⟩
    · exact hwholes ▸ d.wholes_le
    · have hsubsec := d.subsec_add_le
      rw [hvalue, Nat.succ_mul, ← hwholes]
      unfold nanosPerSecond at hsubsec ⊢
      generalize d.wholeSeconds * magnitudeOne = whole at *
      generalize d.subsecNanos * magnitudeOne = rest at *
      omega

variable {d e}

/-- **A longer duration has no fewer seconds.** -/
theorem magnitude_mono (h : d.nanos ≤ e.nanos) : d.magnitude ≤ e.magnitude := by
  have hwhole : d.wholeSeconds ≤ e.wholeSeconds := Nat.div_le_div_right h
  rcases Nat.lt_or_eq_of_le hwhole with hlt | heq
  · have hle : (d.wholeSeconds + 1) * magnitudeOne ≤ e.wholeSeconds * magnitudeOne :=
      Nat.mul_le_mul_right _ hlt
    refine Nat.le_trans ?_ e.wholes_le
    rcases Nat.lt_or_ge d.wholeSeconds (2 ^ 53) with hfew | hmany
    · refine roundOn_mono 0 Nat.one_pos (Nat.le_trans ?_ hle)
      show d.wholes + d.fraction ≤ _
      rw [d.wholes_eq hfew, Nat.succ_mul]
      exact Nat.add_le_add_left (Nat.le_of_lt d.fraction_lt) _
    · -- the rest is lost
      obtain ⟨k, j, hwholes, hlow, hk, hstep, -⟩ := d.exists_wholes_eq hmany
      have hlost : 2 * d.fraction < 2 ^ j := by
        have := d.fraction_lt
        omega
      calc d.magnitude = roundOn 0 1 (k * 2 ^ j + d.fraction) := by rw [magnitude_eq, hwholes]
        _ = d.wholes := by rw [roundOn_add_of_lt hlow hk hlost, hwholes]
        _ ≤ e.wholes := roundOn_mono 0 Nat.one_pos (Nat.mul_le_mul_right _ hwhole)
  · have hsubsec : d.subsecNanos ≤ e.subsecNanos := by
      have hd : nanosPerSecond * d.wholeSeconds + d.subsecNanos = d.nanos := Nat.div_add_mod ..
      have he : nanosPerSecond * e.wholeSeconds + e.subsecNanos = e.nanos := Nat.div_add_mod ..
      rw [heq] at hd
      omega
    refine roundOn_mono 0 Nat.one_pos (Nat.add_le_add ?_ ?_)
    · rw [heq]
    · exact roundOn_mono 0 (by decide) (Nat.mul_le_mul_right _ hsubsec)

/-- **The product of a duration with more than one** is not rounded to less than the duration. -/
theorem le_nearestNanos_mul (d : Duration) {y : Float} {m : Nat} (hy : HasMagnitude y m)
    (hm : magnitudeOne < m) : d.nanos ≤ nearestNanos (roundOn 1074 1 (d.magnitude * m)) := by
  rcases Nat.eq_zero_or_pos d.nanos with hzero | hpos
  · rw [hzero]
    exact Nat.zero_le _
  obtain ⟨l, hl⟩ : ∃ l, 1074 = 52 + l := ⟨1022, rfl⟩
  have hone : magnitudeOne = 2 ^ (52 + l) := by rw [← hl, magnitudeOne_eq]
  obtain ⟨k, j, hlow, hk, hle, hnext⟩ := d.exists_next hpos
  have hproduct := succ_mul_le_roundOn_mul hlow hk hle (succ_le_magnitude hy hone hm)
  rw [← hl] at hproduct
  exact le_nearestNanos (Nat.le_trans hnext (Nat.mul_le_mul_right _ hproduct))

/-- **The seconds of a duration of less than `2 ^ 23` seconds tell its nanoseconds.** -/
theorem nearestNanos_magnitude (h : d.nanos < 8388608 * nanosPerSecond) :
    nearestNanos d.magnitude = d.nanos := by
  have hfew : d.wholeSeconds < 8388608 := (Nat.div_lt_iff_lt_mul (by decide)).2 h
  have hwholes := d.wholes_eq (by omega)
  have hle : (d.wholeSeconds + 1) * magnitudeOne ≤ 2 ^ 23 * magnitudeOne :=
    Nat.mul_le_mul_right _ hfew
  have hsum : d.wholes + d.fraction < 2 ^ 23 * magnitudeOne := by
    have := d.fraction_lt
    rw [Nat.succ_mul, ← hwholes] at hle
    omega
  obtain ⟨i, hi, hone⟩ : ∃ i, 100 < i ∧ magnitudeOne = 2 ^ i :=
    ⟨1074, by decide, magnitudeOne_eq⟩
  have hgrid : 2 ^ 30 * 2 ^ gridOf 0 1 (d.wholes + d.fraction) ≤ magnitudeOne := by
    generalize hg : gridOf 0 1 (d.wholes + d.fraction) = g
    rw [hone, ← Nat.pow_add]
    refine Nat.pow_le_pow_right (by decide) ?_
    rcases Nat.eq_zero_or_pos g with rfl | hpos
    · omega
    · have hbits : 2 ^ 52 * (1 * 2 ^ g) ≤ d.wholes + d.fraction :=
        hg ▸ mul_gridOf_le Nat.one_pos (hg ▸ hpos)
      have hlt := Nat.lt_of_le_of_lt hbits hsum
      rw [Nat.one_mul, hone, ← Nat.pow_add, ← Nat.pow_add] at hlt
      have := (Nat.pow_lt_pow_iff_right (by decide)).1 hlt
      omega
  have hfraction := d.two_pow_fractionGrid_le
  have hnear := d.fraction_near
  have hround : 2 * (d.wholes + d.fraction) ≤ 2 * (1 * d.magnitude)
        + 1 * 2 ^ gridOf 0 1 (d.wholes + d.fraction)
      ∧ 2 * (1 * d.magnitude) ≤ 2 * (d.wholes + d.fraction)
        + 1 * 2 ^ gridOf 0 1 (d.wholes + d.fraction) := roundOn_near _ Nat.one_pos
  have hvalue := d.nanos_mul_magnitudeOne
  have hpos := magnitudeOne_pos
  rw [← hwholes] at hvalue
  unfold nanosPerSecond at hnear hvalue
  generalize d.subsecNanos * magnitudeOne = rest at *
  generalize 2 ^ d.fractionGrid = grid at *
  generalize 2 ^ gridOf 0 1 (d.wholes + d.fraction) = grid' at *
  refine roundDivEven_eq_of_near ?_ ?_
  · rw [hvalue, nanosPerSecond]
    omega
  · rw [hvalue, nanosPerSecond]
    omega

end Duration

end ClusterLink
