import ClusterLink.Proofs.Text.Numeral
import ClusterLink.Text.Blank
import Mathlib.Data.List.DropRight

/-!
# Trimmed texts

Trimming drops what is blank at either end, so it leaves nothing of a text just if all of it is
blank (`Text.trim_eq_nil_iff`), and nothing is lost behind the last character that is not
(`Text.trim_append`). A digit is no blank: a number stays as it is written.

What is left is told by two things (`Text.trim_eq_iff`): all that was dropped is blank, and no blank
is left at either end.
-/

namespace ClusterLink.Text

variable {p : Char → Bool} {cs core front back : List Char}

/-- What ends in characters that are kept is kept. -/
theorem dropEndWhile_append (hne : back ≠ []) (h : ∀ c ∈ back, p c = false) :
    dropEndWhile p (front ++ back) = front ++ back := by
  refine List.rdropWhile_eq_self_iff.2 fun hl hlast => Bool.false_ne_true ?_
  rw [List.getLast_append_of_ne_nil hl hne] at hlast
  exact (h _ (List.getLast_mem hne)).symm.trans hlast

/-- Before characters that are kept, the blanks in front are dropped and no others. -/
theorem trim_append (hne : back ≠ []) (h : ∀ c ∈ back, isBlank c = false) :
    trim (front ++ back) = front.dropWhile isBlank ++ back := by
  have hback : back.dropWhile isBlank = back := by
    cases back with
    | nil => rfl
    | cons c cs => exact List.dropWhile_cons_of_neg (by simp [h c])
  have hfront : (front ++ back).dropWhile isBlank = front.dropWhile isBlank ++ back := by
    rw [List.dropWhile_append, hback]
    split
    · rename_i hnil
      rw [List.isEmpty_iff.1 hnil, List.nil_append]
    · rfl
  rw [trim, hfront, dropEndWhile_append hne h]

/-- A digit is no blank. -/
theorem isBlank_of_isDigit {c : Char} (h : c.isDigit = true) : isBlank c = false := by
  have hrange : 48 ≤ c.toNat ∧ c.toNat ≤ 57 := Char.isDigit_iff_toNat.1 h
  simp only [isBlank, Bool.or_eq_false_iff, Bool.and_eq_false_iff, decide_eq_false_iff_not,
    beq_eq_false_iff_ne]
  omega

theorem trim_eq_nil_iff {cs : List Char} : trim cs = [] ↔ ∀ c ∈ cs, isBlank c = true := by
  rw [trim, ← List.dropWhile_eq_nil_iff]
  constructor
  · intro h
    -- were a character left in front, it would be blank, and so dropped
    have hall : ∀ c ∈ cs.dropWhile isBlank, isBlank c = true := List.rdropWhile_eq_nil_iff.1 h
    cases hrest : cs.dropWhile isBlank with
    | nil => rfl
    | cons c rest =>
      have hblank : isBlank c = true := hall c (hrest ▸ List.mem_cons_self ..)
      have hhead := List.head?_dropWhile_not isBlank cs
      rw [hrest] at hhead
      exact absurd hblank (Bool.eq_false_iff.1 hhead)
  · intro h
    rw [h]
    rfl

/-- A number is written without blanks. -/
theorem trim_toString (n : Nat) : trim (toString n).toList = (toString n).toList := by
  have h : trim ([] ++ (toString n).toList) = [].dropWhile isBlank ++ (toString n).toList :=
    trim_append (isDigits_toString n).ne_nil fun _ hc =>
      isBlank_of_isDigit (isDigit_of_mem_toString hc)
  rwa [List.dropWhile_nil, List.nil_append] at h

/-! ## What trimming leaves -/

/-- **The text without the blanks around it**: all that is dropped is blank, and what is left has a
blank at neither end. -/
structure IsTrimmed (cs core : List Char) : Prop where
  around : ∃ front back, cs = front ++ (core ++ back)
    ∧ (∀ c ∈ front, isBlank c = true) ∧ ∀ c ∈ back, isBlank c = true
  first : ∀ c ∈ core.head?, isBlank c = false
  last : ∀ c ∈ core.getLast?, isBlank c = false

/-- A text with a blank at neither end is left as it is, whatever blanks are put around it. -/
theorem IsTrimmed.trim_eq (h : IsTrimmed cs core) : trim cs = core := by
  obtain ⟨⟨front, back, rfl, hfront, hback⟩, hfirst, hlast⟩ := h
  have hends : dropEndWhile isBlank (core ++ back) = core := by
    rw [dropEndWhile, List.reverse_append,
      List.dropWhile_append_of_pos fun c hc => hback c (List.mem_reverse.1 hc)]
    refine List.rdropWhile_eq_self_iff.2 fun hne => Bool.eq_false_iff.1 (hlast _ ?_)
    exact List.getLast?_eq_some_getLast hne
  rw [trim, List.dropWhile_append_of_pos hfront]
  cases core with
  | nil =>
    rw [List.nil_append, List.dropWhile_eq_nil_iff.2 hback]
    rfl
  | cons c rest =>
    have hc : ¬isBlank c = true := Bool.eq_false_iff.1 (hfirst c rfl)
    rw [List.cons_append, List.dropWhile_cons_of_neg hc]
    exact hends

theorem isTrimmed_trim (cs : List Char) : IsTrimmed cs (trim cs) where
  around := by
    refine ⟨cs.takeWhile isBlank, (cs.dropWhile isBlank).rtakeWhile isBlank, ?_,
      fun c hc => List.mem_takeWhile_imp hc, fun c hc => List.mem_rtakeWhile_imp hc⟩
    show cs = _ ++ ((cs.dropWhile isBlank).rdropWhile isBlank ++ _)
    rw [List.rdropWhile_append_rtakeWhile, List.takeWhile_append_dropWhile]
  first c hc := by
    have hhead : (cs.dropWhile isBlank).head? = some c := by
      obtain ⟨rest, hrest⟩ := List.rdropWhile_prefix isBlank (cs.dropWhile isBlank)
      rw [← hrest, List.head?_append, show (List.rdropWhile isBlank _).head? = some c from hc]
      rfl
    have hnot := List.head?_dropWhile_not isBlank cs
    rwa [hhead] at hnot
  last c hc := by
    obtain ⟨hne, rfl⟩ := List.mem_getLast?_eq_getLast hc
    exact Bool.eq_false_iff.2 (List.rdropWhile_last_not isBlank _ hne)

/-- **Trimming** leaves what is between the blanks, and nothing else is. -/
theorem trim_eq_iff : trim cs = core ↔ IsTrimmed cs core :=
  ⟨fun h => h ▸ isTrimmed_trim cs, IsTrimmed.trim_eq⟩

end ClusterLink.Text
