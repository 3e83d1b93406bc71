import ClusterLink.Time.Duration
import Mathlib.Algebra.Group.Nat.Defs

/-!
# Rounding to a grid

A double has fifty-three significant bits and is a multiple of the smallest one, so rounding to a
double is rounding to a grid of powers of two: the grid is as fine as fifty-three bits allow, but
not finer than the smallest double (`roundOn`). Halves go to the even multiple.

What is rounded is a quotient of whole numbers, as divisions need it. A greater number is never
rounded to a smaller one (`roundOn_mono`), although the grid gets coarser.
-/

namespace ClusterLink

/-! ## Quotients -/

theorem le_roundDivEven (n d : Nat) : n / d ≤ roundDivEven n d := by
  unfold roundDivEven
  dsimp only
  split
  · exact Nat.le_refl _
  · split
    · exact Nat.le_succ _
    · exact Nat.le_add_right _ _

theorem roundDivEven_le (n d : Nat) : roundDivEven n d ≤ n / d + 1 := by
  unfold roundDivEven
  dsimp only
  split
  · exact Nat.le_succ _
  · split
    · exact Nat.le_refl _
    · omega

/-- **A greater dividend is not rounded to a smaller quotient.** -/
theorem roundDivEven_mono {m n : Nat} (h : m ≤ n) (d : Nat) :
    roundDivEven m d ≤ roundDivEven n d := by
  rcases Nat.lt_or_eq_of_le (Nat.div_le_div_right (c := d) h) with hlt | heq
  · have hm := roundDivEven_le m d
    have hn := le_roundDivEven n d
    omega
  · -- with the same whole part, only the fractions differ
    have hm : d * (m / d) + m % d = m := Nat.div_add_mod m d
    have hn : d * (n / d) + n % d = n := Nat.div_add_mod n d
    rw [heq] at hm
    unfold roundDivEven
    dsimp only
    rw [heq]
    repeat' split
    all_goals omega

@[simp] theorem roundDivEven_mul_self (c : Nat) {d : Nat} (hd : 0 < d) :
    roundDivEven (c * d) d = c := by
  unfold roundDivEven
  dsimp only
  rw [Nat.mul_mod_left, Nat.mul_div_cancel c hd, if_pos hd]

/-- Only the quotient matters. -/
theorem roundDivEven_mul_mul (n d : Nat) {c : Nat} (hc : 0 < c) :
    roundDivEven (n * c) (d * c) = roundDivEven n d := by
  have hlt : ∀ a b : Nat, a * c < b * c ↔ a < b := fun a b => Nat.mul_lt_mul_right hc
  unfold roundDivEven
  dsimp only
  rw [Nat.mul_div_mul_right n d hc, Nat.mul_mod_mul_right, ← Nat.mul_assoc]
  simp only [hlt]

/-! ## The grid -/

/-- The grid for a quotient: fifty-three bits of it, but not finer than the given grid. -/
def gridOf (k d n : Nat) : Nat := max ((n / d).log2 - 52) k

/-- **Rounds a quotient to a double**, in units of the given grid. -/
def roundOn (k d n : Nat) : Nat := roundDivEven n (d * 2 ^ gridOf k d n) * 2 ^ (gridOf k d n - k)

theorem le_gridOf (k d n : Nat) : k ≤ gridOf k d n := Nat.le_max_right _ _

theorem log2_mono {m n : Nat} (h : m ≤ n) : m.log2 ≤ n.log2 := by
  by_cases hm : m = 0
  · rw [hm, Nat.log2_zero]
    exact Nat.zero_le _
  · exact (Nat.le_log2 (by omega)).2 (Nat.le_trans (Nat.log2_self_le hm) h)

/-- Below fifty-three bits of the grid. -/
theorem lt_mul_gridOf (k n : Nat) {d : Nat} (hd : 0 < d) :
    n < 2 ^ 53 * (d * 2 ^ gridOf k d n) := by
  have hlog : (n / d).log2 + 1 ≤ 53 + gridOf k d n := by
    unfold gridOf
    omega
  have hquotient : n / d < 2 ^ (53 + gridOf k d n) :=
    Nat.lt_of_lt_of_le Nat.lt_log2_self (Nat.pow_le_pow_right (by decide) hlog)
  rw [Nat.div_lt_iff_lt_mul hd, Nat.pow_add] at hquotient
  rwa [Nat.mul_left_comm, Nat.mul_comm d]

/-- On a grid that is coarser than it has to be, all fifty-three bits are needed. -/
theorem mul_gridOf_le {k d n : Nat} (hd : 0 < d) (h : k < gridOf k d n) :
    2 ^ 52 * (d * 2 ^ gridOf k d n) ≤ n := by
  have hlog : (n / d).log2 = 52 + gridOf k d n := by
    unfold gridOf at h ⊢
    omega
  have hpos : n / d ≠ 0 := fun hzero => by
    rw [hzero, Nat.log2_zero] at hlog
    omega
  have hquotient := Nat.log2_self_le hpos
  rw [hlog, Nat.le_div_iff_mul_le hd, Nat.pow_add] at hquotient
  rwa [Nat.mul_left_comm, Nat.mul_comm d]

theorem mul_two_pow_div_lt_iff {d : Nat} (hd : 0 < d) (n i j : Nat) :
    n * 2 ^ i / d < 2 ^ (j + i) ↔ n / d < 2 ^ j := by
  rw [Nat.div_lt_iff_lt_mul hd, Nat.div_lt_iff_lt_mul hd, Nat.pow_add, Nat.mul_right_comm]
  exact Nat.mul_lt_mul_right (Nat.two_pow_pos i)

theorem log2_mul_two_pow_div {d n : Nat} (hd : 0 < d) (hn : n / d ≠ 0) (i : Nat) :
    (n * 2 ^ i / d).log2 = (n / d).log2 + i := by
  have hlow : ¬n * 2 ^ i / d < 2 ^ ((n / d).log2 + i) :=
    mt (mul_two_pow_div_lt_iff hd n i _).1 (Nat.not_lt.2 (Nat.log2_self_le hn))
  have hhigh : n * 2 ^ i / d < 2 ^ ((n / d).log2 + 1 + i) :=
    (mul_two_pow_div_lt_iff hd n i _).2 Nat.lt_log2_self
  have hpos := Nat.two_pow_pos ((n / d).log2 + i)
  rw [Nat.log2_eq_iff (by omega), Nat.add_right_comm]
  exact ⟨Nat.not_lt.1 hlow, hhigh⟩

/-- Scaling a number scales its grid. -/
theorem gridOf_mul (k n i : Nat) {d : Nat} (hd : 0 < d) :
    gridOf (k + i) d (n * 2 ^ i) = gridOf k d n + i := by
  by_cases hzero : n / d = 0
  · have hlt : n * 2 ^ i / d < 2 ^ (0 + i) :=
      (mul_two_pow_div_lt_iff hd n i 0).2 (by rw [hzero]; exact Nat.one_pos)
    have hlog : (n * 2 ^ i / d).log2 ≤ i := by
      have := log2_mono (Nat.le_of_lt hlt)
      rwa [Nat.log2_two_pow, Nat.zero_add] at this
    unfold gridOf
    rw [hzero, Nat.log2_zero]
    omega
  · unfold gridOf
    rw [log2_mul_two_pow_div hd hzero]
    omega

/-- **Rounding depends on the number alone**, not on the unit it is told in. -/
theorem roundOn_mul (k n i : Nat) {d : Nat} (hd : 0 < d) :
    roundOn (k + i) d (n * 2 ^ i) = roundOn k d n := by
  unfold roundOn
  rw [gridOf_mul k n i hd, Nat.pow_add, ← Nat.mul_assoc,
    roundDivEven_mul_mul _ _ (Nat.two_pow_pos i), Nat.add_sub_add_right]

/-- Rounding depends on the quotient alone. -/
theorem roundOn_mul_mul (k n d : Nat) {c : Nat} (hc : 0 < c) :
    roundOn k (d * c) (n * c) = roundOn k d n := by
  have hgrid : gridOf k (d * c) (n * c) = gridOf k d n := by
    unfold gridOf
    rw [Nat.mul_div_mul_right n d hc]
  rw [roundOn, hgrid, Nat.mul_right_comm, roundDivEven_mul_mul _ _ hc, roundOn]

theorem roundDivEven_gridOf_le (k n : Nat) {d : Nat} (hd : 0 < d) :
    roundDivEven n (d * 2 ^ gridOf k d n) ≤ 2 ^ 53 := by
  have h := roundDivEven_mono (Nat.le_of_lt (lt_mul_gridOf k n hd)) (d * 2 ^ gridOf k d n)
  rwa [roundDivEven_mul_self _ (Nat.mul_pos hd (Nat.two_pow_pos _))] at h

theorem le_roundDivEven_gridOf {k d n : Nat} (hd : 0 < d) (h : k < gridOf k d n) :
    2 ^ 52 ≤ roundDivEven n (d * 2 ^ gridOf k d n) := by
  have h := roundDivEven_mono (mul_gridOf_le hd h) (d * 2 ^ gridOf k d n)
  rwa [roundDivEven_mul_self _ (Nat.mul_pos hd (Nat.two_pow_pos _))] at h

/-- **Rounding keeps the order.** -/
theorem roundOn_mono (k : Nat) {m n d : Nat} (hd : 0 < d) (h : m ≤ n) :
    roundOn k d m ≤ roundOn k d n := by
  have hlog : (m / d).log2 ≤ (n / d).log2 := log2_mono (Nat.div_le_div_right h)
  rcases Nat.lt_or_eq_of_le (show gridOf k d m ≤ gridOf k d n by unfold gridOf; omega)
    with hlt | heq
  · -- the power of two between the two numbers is on both grids
    have hk : k ≤ gridOf k d m := le_gridOf k d m
    calc roundOn k d m ≤ 2 ^ 53 * 2 ^ (gridOf k d m - k) :=
          Nat.mul_le_mul_right _ (roundDivEven_gridOf_le k m hd)
      _ = 2 ^ (53 + (gridOf k d m - k)) := (Nat.pow_add ..).symm
      _ ≤ 2 ^ (52 + (gridOf k d n - k)) := Nat.pow_le_pow_right (by decide) (by omega)
      _ = 2 ^ 52 * 2 ^ (gridOf k d n - k) := Nat.pow_add ..
      _ ≤ roundOn k d n :=
        Nat.mul_le_mul_right _ (le_roundDivEven_gridOf hd (Nat.lt_of_le_of_lt hk hlt))
  · unfold roundOn
    rw [heq]
    exact Nat.mul_le_mul_right _ (roundDivEven_mono h _)

/-- A number of fifty-three bits on the grid is not rounded. -/
theorem roundOn_of_lt {m k j : Nat} (hm : m < 2 ^ 53) (h : k ≤ j) :
    roundOn k 1 (m * 2 ^ j) = m * 2 ^ (j - k) := by
  have hgrid : gridOf k 1 (m * 2 ^ j) ≤ j := by
    have hlog : (m * 2 ^ j).log2 < 53 + j := by
      by_cases hz : m * 2 ^ j = 0
      · rw [hz, Nat.log2_zero]
        omega
      · rw [Nat.log2_lt hz, Nat.pow_add]
        exact Nat.mul_lt_mul_of_pos_right hm (Nat.two_pow_pos j)
    unfold gridOf
    rw [Nat.div_one]
    omega
  have hk : k ≤ gridOf k 1 (m * 2 ^ j) := le_gridOf k 1 (m * 2 ^ j)
  rw [roundOn, Nat.one_mul]
  generalize gridOf k 1 (m * 2 ^ j) = g at hgrid hk ⊢
  have hsplit : m * 2 ^ j = m * 2 ^ (j - g) * 2 ^ g := by
    rw [Nat.mul_assoc, ← Nat.pow_add, Nat.sub_add_cancel hgrid]
  rw [hsplit, roundDivEven_mul_self _ (Nat.two_pow_pos g), Nat.mul_assoc, ← Nat.pow_add]
  congr 2
  omega

theorem roundOn_two_pow (j : Nat) : roundOn 0 1 (2 ^ j) = 2 ^ j := by
  have h := roundOn_of_lt (m := 1) (j := j) (by decide) (Nat.zero_le j)
  rwa [Nat.one_mul, Nat.sub_zero, Nat.one_mul] at h

@[simp] theorem roundOn_zero (k d : Nat) : roundOn k d 0 = 0 := by
  unfold roundOn roundDivEven
  simp

end ClusterLink
