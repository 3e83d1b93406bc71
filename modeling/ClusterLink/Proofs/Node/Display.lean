import ClusterLink.Node.EndPoint
import ClusterLink.Proofs.Text.Case
import ClusterLink.Proofs.Text.Numeral

/-!
# Written endpoints

Two endpoints are written alike, up to the case of letters, just when they name one node
(`EndPoint.same_iff_display`). The port stands behind the last colon and is written without any, so
it can be read off; and what is left of an endpoint in brackets holds a colon, as the host of one
without brackets does not.
-/

namespace ClusterLink

namespace Text

/-- A digit has no case. -/
theorem toLower_of_isDigit {c : Char} (h : c.isDigit = true) : c.toLower = c := by
  have hrange : 48 ≤ c.toNat ∧ c.toNat ≤ 57 := Char.isDigit_iff_toNat.1 h
  exact (toLower_eq_iff (by omega)).2 rfl

/-- A number is written without capitals. -/
theorem foldCase_toString (n : Nat) : foldCase (toString n).toList = (toString n).toList :=
  List.map_congr_left (fun _ hc => toLower_of_isDigit (isDigit_of_mem_toString hc)) |>.trans
    (List.map_id _)

/-- Folding neither adds a colon nor takes one away. -/
theorem colon_mem_foldCase {cs : List Char} : ':' ∈ foldCase cs ↔ ':' ∈ cs :=
  mem_foldCase_iff (by decide)

/-- A number is written without a colon. -/
theorem colon_not_mem_toString (n : Nat) : ':' ∉ (toString n).toList := not_mem_toString rfl n

end Text

namespace EndPoint

/-- The written host: one that holds a colon stands in brackets. -/
def displayHost (host : List Char) : List Char :=
  if ':' ∈ host then '[' :: (host ++ [']']) else host

theorem toList_display (e : EndPoint) :
    e.display.toList = displayHost e.host.toList ++ ':' :: (toString e.port.toNat).toList := by
  unfold display displayHost
  split <;> simp

theorem foldCase_displayHost (host : List Char) :
    Text.foldCase (displayHost host) = displayHost (Text.foldCase host) := by
  unfold displayHost
  simp only [Text.colon_mem_foldCase]
  split
  · simp [Text.foldCase]
  · rfl

/-- Hosts that are written alike are alike. -/
theorem displayHost_injective {a b : List Char} (h : displayHost a = displayHost b) : a = b := by
  unfold displayHost at h
  split at h <;> split at h
  · simpa using h
  · rename_i ha hb
    exact absurd (h ▸ List.mem_cons_of_mem _ (List.mem_append_left _ ha)) hb
  · rename_i ha hb
    exact absurd (h ▸ List.mem_cons_of_mem _ (List.mem_append_left _ hb)) ha
  · exact h

/-- **Two endpoints name one node** if and only if they are written alike, up to case. -/
theorem same_iff_display {e f : EndPoint} :
    e.same f = true ↔ Text.equalIgnoringCase e.display f.display = true := by
  have hfold : ∀ g : EndPoint, Text.foldCase g.display.toList
      = displayHost (Text.foldCase g.host.toList) ++ ':' :: (toString g.port.toNat).toList := by
    intro g
    rw [toList_display, Text.foldCase_append, foldCase_displayHost]
    exact congrArg _ (congrArg _ (Text.foldCase_toString _))
  rw [same_iff, Text.equalIgnoringCase_iff, hfold, hfold, key, key, Prod.mk.injEq]
  constructor
  · rintro ⟨hhost, hport⟩
    rw [hhost, hport]
  · intro h
    have hsplit := congrArg (Text.splitLast? ':') h
    rw [Text.splitLast?_append (Text.colon_not_mem_toString _),
      Text.splitLast?_append (Text.colon_not_mem_toString _), Option.some.injEq,
      Prod.mk.injEq] at hsplit
    exact ⟨displayHost_injective hsplit.1, UInt16.toNat_inj.1 (Text.eq_of_toString_eq hsplit.2)⟩

end EndPoint

end ClusterLink
