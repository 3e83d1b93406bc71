import ClusterLink.Text.Case
import Mathlib.Data.List.DropRight

/-!
# Names without case

Folding the case of a text changes capitals and nothing else (`Text.toNat_toLower`): what stands
before the letters is neither added nor taken away (`Text.mem_foldCase_iff`). So two names that
differ in case only have last parts that differ in case only (`Text.foldCase_lastSegment`).

Which part of a name is the last one is said here without looking for it (`Text.IsLastPart`): no dot
is in it, and it is the whole name or follows a dot.
-/

namespace ClusterLink.Text

/-! ## Folding -/

/-- **A capital becomes its small letter**, and any other character stays. -/
theorem toNat_toLower (c : Char) :
    c.toLower.toNat = if 65 ≤ c.toNat ∧ c.toNat ≤ 90 then c.toNat + 32 else c.toNat := by
  by_cases h : c.val ≥ 'A'.val ∧ c.val ≤ 'Z'.val
  · have hge : 65 ≤ c.toNat := h.1
    have hle : c.toNat ≤ 90 := h.2
    have hval : c.toLower.val = c.val + 32 := congrArg Char.val (dif_pos h)
    rw [if_pos ⟨hge, hle⟩, ← Char.toNat_val, hval, UInt32.toNat_add]
    exact Nat.mod_eq_of_lt (by rw [Char.toNat_val]; show _ + 32 < 4294967296; omega)
  · have hself : c.toLower = c := dif_neg h
    have hother : ¬(65 ≤ c.toNat ∧ c.toNat ≤ 90) := h
    rw [hself, if_neg hother]

/-- A character that stands before the letters comes of itself alone. -/
theorem toLower_eq_iff {c d : Char} (hd : d.toNat < 65) : c.toLower = d ↔ c = d := by
  rw [← Char.toNat_inj, ← Char.toNat_inj, toNat_toLower]
  split <;> omega

theorem foldCase_append (cs ds : List Char) : foldCase (cs ++ ds) = foldCase cs ++ foldCase ds :=
  List.map_append

/-- Folding neither adds such a character nor takes one away. -/
theorem mem_foldCase_iff {cs : List Char} {d : Char} (hd : d.toNat < 65) :
    d ∈ foldCase cs ↔ d ∈ cs := by
  simp only [foldCase, List.mem_map, toLower_eq_iff hd, exists_eq_right]

/-! ## Last parts -/

/-- **The last part of a name**: no dot is in it, and it is the whole name or follows a dot. -/
structure IsLastPart (name part : List Char) : Prop where
  not_mem : '.' ∉ part
  ends : part = name ∨ ∃ before, name = before ++ '.' :: part

variable {name part : List Char}

theorem IsLastPart.lastSegment_eq (h : IsLastPart name part) : lastSegment name = part := by
  have hkept : ∀ c ∈ part.reverse, decide (c ≠ '.') = true := fun c hc =>
    decide_eq_true fun hdot => h.not_mem (hdot ▸ List.mem_reverse.1 hc)
  rcases h.ends with rfl | ⟨before, rfl⟩
  · rw [lastSegment, List.takeWhile_eq_self_iff.2 hkept, List.reverse_reverse]
  · rw [lastSegment, List.reverse_append, List.reverse_cons, List.append_assoc,
      List.takeWhile_append_of_pos hkept, List.singleton_append,
      List.takeWhile_cons_of_neg (by simp), List.append_nil, List.reverse_reverse]

theorem isLastPart_lastSegment (name : List Char) : IsLastPart name (lastSegment name) where
  not_mem hdot := of_decide_eq_true (List.mem_rtakeWhile_imp (p := (· ≠ '.')) hdot) rfl
  ends := by
    have hname : name.rdropWhile (· ≠ '.') ++ lastSegment name = name :=
      List.rdropWhile_append_rtakeWhile
    rcases List.eq_nil_or_concat (name.rdropWhile (· ≠ '.')) with hnil | ⟨before, c, hbefore⟩
    · exact .inl (by rwa [hnil, List.nil_append] at hname)
    · -- what stands in front ends in a dot
      rw [List.concat_eq_append] at hbefore
      have hc : c = '.' := by
        have hne : name.rdropWhile (· ≠ '.') ≠ [] := by
          rw [hbefore]
          exact List.concat_ne_nil _ _
        have hlast := List.rdropWhile_last_not (· ≠ '.') name hne
        simpa only [hbefore, List.getLast_concat, decide_eq_true_eq, not_not, ne_eq] using hlast
      refine .inr ⟨before, ?_⟩
      rw [← hc, ← List.singleton_append, ← List.append_assoc, ← hbefore, hname]

/-- **Every name has one last part.** -/
theorem lastSegment_eq_iff : lastSegment name = part ↔ IsLastPart name part :=
  ⟨fun h => h ▸ isLastPart_lastSegment name, IsLastPart.lastSegment_eq⟩

/-- A name without case has the same dots. -/
theorem foldCase_lastSegment (name : List Char) :
    foldCase (lastSegment name) = lastSegment (foldCase name) := by
  obtain ⟨hdot, hends⟩ := isLastPart_lastSegment name
  refine (lastSegment_eq_iff.2 ⟨mt (mem_foldCase_iff (by decide)).1 hdot, ?_⟩).symm
  rcases hends with hwhole | ⟨before, hbefore⟩
  · exact .inl (congrArg foldCase hwhole)
  · refine .inr ⟨foldCase before, ?_⟩
    exact (congrArg foldCase hbefore).trans (foldCase_append before _)

end ClusterLink.Text
