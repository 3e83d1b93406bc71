/-!
# Splitting at a character

An address ends at its last colon, or at the first closing bracket when it is bracketed. Both
splits drop the character they split at, and both fail on a text that lacks it.
A scheme is recognised by what a text starts with.

A text can also be split at every place where a character stands. There is one more piece than
there are such places, and pieces may be empty.
-/

namespace ClusterLink.Text

/-- The parts before and after the first `c`. -/
def splitFirst? (c : Char) (cs : List Char) : Option (List Char × List Char) :=
  match cs.dropWhile (· != c) with
  | [] => none
  | _ :: after => some (cs.takeWhile (· != c), after)

/-- The parts before and after the last `c`. -/
def splitLast? (c : Char) (cs : List Char) : Option (List Char × List Char) :=
  (splitFirst? c cs.reverse).map fun parts => (parts.2.reverse, parts.1.reverse)

/-- What follows `start` in a text that begins with it. -/
def afterStart? (start cs : List Char) : Option (List Char) :=
  if start.isPrefixOf cs then some (cs.drop start.length) else none

/-- The pieces between the occurrences of `c`. -/
def pieces (c : Char) : List Char → List (List Char)
  | [] => [[]]
  | x :: xs =>
    if x = c then [] :: pieces c xs
    else
      match pieces c xs with
      | [] => [[x]]
      | piece :: rest => (x :: piece) :: rest

theorem splitFirst?_append {c : Char} {before : List Char} (h : c ∉ before) (after : List Char) :
    splitFirst? c (before ++ c :: after) = some (before, after) := by
  have hne : ∀ x ∈ before, (x != c) = true := by
    intro x hx
    have : x ≠ c := fun he => h (he ▸ hx)
    simpa using this
  simp [splitFirst?, List.dropWhile_append_of_pos hne, List.takeWhile_append_of_pos hne]

theorem splitFirst?_eq_none {c : Char} {cs : List Char} (h : c ∉ cs) :
    splitFirst? c cs = none := by
  have hne : ∀ x ∈ cs, (x != c) = true := by
    intro x hx
    have : x ≠ c := fun he => h (he ▸ hx)
    simpa using this
  have hall : (cs ++ []).dropWhile (· != c) = ([] : List Char).dropWhile (· != c) :=
    List.dropWhile_append_of_pos hne
  have : cs.dropWhile (· != c) = [] := by simpa using hall
  simp [splitFirst?, this]

theorem splitLast?_append {c : Char} {after : List Char} (h : c ∉ after) (before : List Char) :
    splitLast? c (before ++ c :: after) = some (before, after) := by
  have hr : c ∉ after.reverse := by simpa using h
  have := splitFirst?_append hr before.reverse
  simp [splitLast?, this]

theorem pieces_ne_nil (c : Char) (cs : List Char) : pieces c cs ≠ [] := by
  cases cs with
  | nil => simp [pieces]
  | cons x xs =>
    unfold pieces
    split
    · simp
    · split <;> simp

/-- Nothing is lost: the pieces with `c` between them are the text again. -/
theorem intercalate_pieces (c : Char) (cs : List Char) :
    [c].intercalate (pieces c cs) = cs := by
  induction cs with
  | nil => simp [pieces, List.intercalate]
  | cons x xs ih =>
    cases hp : pieces c xs with
    | nil => exact absurd hp (pieces_ne_nil c xs)
    | cons piece rest =>
      rw [hp] at ih
      unfold pieces
      rw [hp]
      split
      · cases rest <;> simp_all [List.intercalate]
      · cases rest <;> simp_all [List.intercalate]

end ClusterLink.Text
