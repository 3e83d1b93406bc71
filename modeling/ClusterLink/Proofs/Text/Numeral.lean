import ClusterLink.Text.Numeral

/-!
# Numerals that are read

A numeral is a run of decimal digits, at least one, with or without a plus sign in front; zeros may
lead (`Text.IsNumeral`). Reading under a limit gives a number exactly if the text is a numeral of
that number and the number keeps to the limit (`Text.readNumeral_eq_ok_iff`). The digits are taken
in from the left, and what has been taken in never exceeds what comes out in the end, so reading may
stop at the first digit that takes it beyond the limit.

A number is written in digits, without a sign, so what is written is read again
(`Text.isNumeral_toString_iff`) and holds no other characters.
-/

namespace ClusterLink.Text

/-! ## Written numbers -/

theorem isDigit_of_mem_toString {n : Nat} {c : Char} (h : c ∈ (toString n).toList) :
    c.isDigit = true := by
  rw [Nat.toString_eq_repr, Nat.toList_repr] at h
  exact Nat.isDigit_of_mem_toDigits (by decide) (by decide) h

/-- What is no digit does not occur in a written number. -/
theorem not_mem_toString {c : Char} (h : c.isDigit = false) (n : Nat) : c ∉ (toString n).toList :=
  fun hmem => Bool.false_ne_true (h.symm.trans (isDigit_of_mem_toString hmem))

theorem ofDigitChars_toString (n : Nat) : Nat.ofDigitChars 10 (toString n).toList 0 = n := by
  rw [Nat.toString_eq_repr, Nat.toList_repr]
  exact Nat.ofDigitChars_ten_toDigits

theorem eq_of_toString_eq {m n : Nat} (h : (toString m).toList = (toString n).toList) : m = n :=
  calc
    m = Nat.ofDigitChars 10 (toString m).toList 0 := (ofDigitChars_toString m).symm
    _ = Nat.ofDigitChars 10 (toString n).toList 0 := by rw [h]
    _ = n := ofDigitChars_toString n

/-! ## Numerals -/

/-- **A run of digits** that stands for a number. -/
structure IsDigits (cs : List Char) (n : Nat) : Prop where
  ne_nil : cs ≠ []
  isDigit : ∀ c ∈ cs, c.isDigit = true
  value_eq : Nat.ofDigitChars 10 cs 0 = n

/-- **A numeral** of a number. -/
inductive IsNumeral : List Char → Nat → Prop
  | plain {cs : List Char} {n : Nat} (h : IsDigits cs n) : IsNumeral cs n
  | signed {cs : List Char} {n : Nat} (h : IsDigits cs n) : IsNumeral ('+' :: cs) n

theorem isDigits_toString (n : Nat) : IsDigits (toString n).toList n where
  ne_nil := by
    rw [Nat.toString_eq_repr, Nat.toList_repr]
    exact Nat.toDigits_ne_nil
  isDigit _ := isDigit_of_mem_toString
  value_eq := ofDigitChars_toString n

theorem IsDigits.not_signed {cs : List Char} {n : Nat} : ¬IsDigits ('+' :: cs) n := fun h =>
  absurd (h.isDigit '+' (List.mem_cons_self ..)) (by decide)

theorem isNumeral_signed_iff {cs : List Char} {n : Nat} :
    IsNumeral ('+' :: cs) n ↔ IsDigits cs n := by
  refine ⟨fun h => ?_, .signed⟩
  cases h with
  | plain h => exact absurd h IsDigits.not_signed
  | signed h => exact h

theorem isNumeral_iff_of_not_signed {cs : List Char} {n : Nat} (h : ∀ rest, cs ≠ '+' :: rest) :
    IsNumeral cs n ↔ IsDigits cs n := by
  refine ⟨fun hn => ?_, .plain⟩
  cases hn with
  | plain hn => exact hn
  | signed hn => exact absurd rfl (h _)

/-! ## Reading -/

theorem digit?_eq_some_iff {c : Char} {d : Nat} :
    digit? c = some d ↔ c.isDigit = true ∧ d = c.toNat - '0'.toNat := by
  unfold digit?
  split
  · rename_i h
    have hdigit : c.isDigit = true := by
      rw [Char.isDigit, Bool.and_eq_true]
      exact ⟨decide_eq_true h.1, decide_eq_true h.2⟩
    rw [Option.some.injEq, and_iff_right hdigit, eq_comm]
  · rename_i h
    refine iff_of_false (by simp) fun hdigit => h ?_
    have hrange := hdigit.1
    rw [Char.isDigit, Bool.and_eq_true] at hrange
    exact ⟨of_decide_eq_true hrange.1, of_decide_eq_true hrange.2⟩

/-- What has been taken in does not exceed what comes out. -/
theorem le_ofDigitChars (cs : List Char) (acc : Nat) : acc ≤ Nat.ofDigitChars 10 cs acc := by
  rw [Nat.ofDigitChars_eq_ofDigitChars_zero]
  exact Nat.le_add_right_of_le (Nat.le_mul_of_pos_left acc (Nat.pow_pos (by decide)))

theorem readDigits_eq_ok_iff {limit acc n : Nat} {cs : List Char} (h : acc ≤ limit) :
    readDigits limit acc cs = .ok n
      ↔ (∀ c ∈ cs, c.isDigit = true) ∧ Nat.ofDigitChars 10 cs acc = n ∧ n ≤ limit := by
  induction cs generalizing acc with
  | nil =>
    rw [readDigits, Nat.ofDigitChars_nil, Except.ok.injEq]
    exact ⟨fun hn => ⟨List.forall_mem_nil _, hn, hn ▸ h⟩, fun hn => hn.2.1⟩
  | cons c cs ih =>
    rw [readDigits, List.forall_mem_cons, Nat.ofDigitChars_cons]
    cases hdigit : digit? c with
    | none =>
      refine iff_of_false (by simp) fun hread => ?_
      cases hdigit.symm.trans (digit?_eq_some_iff.2 ⟨hread.1.1, rfl⟩)
    | some d =>
      obtain ⟨hc, rfl⟩ := digit?_eq_some_iff.1 hdigit
      dsimp only
      rw [Nat.mul_comm acc 10, and_iff_right hc]
      split
      · -- the number is larger still once all digits are taken in
        refine iff_of_false (by simp) fun hread => ?_
        have := le_ofDigitChars cs (10 * acc + (c.toNat - '0'.toNat))
        omega
      · exact ih (Nat.not_lt.1 ‹_›)

/-- **Reading accepts the numerals up to the limit**, and nothing else. -/
theorem readNumeral_eq_ok_iff {limit n : Nat} {cs : List Char} :
    readNumeral limit cs = .ok n ↔ IsNumeral cs n ∧ n ≤ limit := by
  have hread : ∀ cs, cs ≠ [] →
      (readDigits limit 0 cs = .ok n ↔ IsDigits cs n ∧ n ≤ limit) := by
    intro cs hne
    rw [readDigits_eq_ok_iff (Nat.zero_le limit)]
    exact ⟨fun ⟨hd, hv, hle⟩ => ⟨⟨hne, hd, hv⟩, hle⟩, fun ⟨hn, hle⟩ =>
      ⟨hn.isDigit, hn.value_eq, hle⟩⟩
  unfold readNumeral
  split
  · rw [isNumeral_iff_of_not_signed (by simp)]
    exact iff_of_false (by simp) fun h => h.1.ne_nil rfl
  · rw [isNumeral_signed_iff]
    exact iff_of_false (by simp) fun h => h.1.ne_nil rfl
  · rename_i rest hne
    rw [isNumeral_signed_iff]
    exact hread rest hne
  · rename_i hne _ hnot
    rw [isNumeral_iff_of_not_signed hnot]
    exact hread cs hne

/-- A numeral stands for one number. -/
theorem IsNumeral.value_unique {cs : List Char} {m n : Nat} (hm : IsNumeral cs m)
    (hn : IsNumeral cs n) :
    m = n := by
  have hread := readNumeral_eq_ok_iff.2 ⟨hm, Nat.le_max_left m n⟩
  exact Except.ok.inj (hread.symm.trans (readNumeral_eq_ok_iff.2 ⟨hn, Nat.le_max_right m n⟩))

/-- A written number is a numeral of that number. -/
theorem isNumeral_toString_iff {m n : Nat} : IsNumeral (toString m).toList n ↔ n = m :=
  ⟨fun h => h.value_unique (.plain (isDigits_toString m)),
    fun h => h ▸ .plain (isDigits_toString n)⟩

end ClusterLink.Text
