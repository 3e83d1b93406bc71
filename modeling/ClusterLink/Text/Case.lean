/-!
# Letters without case

Host names, service names, feature names and the keys of metadata compare without regard to the
case of ASCII letters.
Other letters keep their case: `É` and `é` differ, as do `K` and the Kelvin sign.
-/

namespace ClusterLink.Text

/-- The text with each ASCII capital replaced by its small letter. -/
def foldCase (cs : List Char) : List Char :=
  cs.map Char.toLower

/-- The text with each ASCII capital replaced by its small letter. -/
def lowercase (s : String) : String :=
  String.ofList (foldCase s.toList)

/-- Whether two texts differ at most in the case of ASCII letters. -/
def equalIgnoringCase (s t : String) : Bool :=
  foldCase s.toList == foldCase t.toList

/-- The last of the parts into which dots divide the text; the whole text if it has none. -/
def lastSegment (cs : List Char) : List Char :=
  (cs.reverse.takeWhile (· ≠ '.')).reverse

theorem equalIgnoringCase_iff {s t : String} :
    equalIgnoringCase s t = true ↔ foldCase s.toList = foldCase t.toList := by
  simp [equalIgnoringCase]

theorem equalIgnoringCase_refl (s : String) : equalIgnoringCase s s = true := by
  simp [equalIgnoringCase]

end ClusterLink.Text
