import ClusterLink.Node.EndPoint
import Mathlib.Data.List.Induction
import Mathlib.Data.List.Nodup

/-!
# Endpoints, each node once

`EndPoint.distinct` goes through a list and keeps an endpoint if it has not kept one of the same
node before (`EndPoint.distinct_concat`). What it keeps are the first endpoints of the list that
name their nodes, as they are spelled there (`EndPoint.mem_distinct_iff`). So it names each node
once (`EndPoint.nodup_keys_distinct`), leaves none out (`EndPoint.mem_keys_distinct`), and has
nothing to do where each node is named once already (`EndPoint.distinct_of_nodup`).
-/

namespace ClusterLink.EndPoint

variable {es : List EndPoint} {e : EndPoint}

/-! ## Keys -/

/-- The keys of a list of endpoints. -/
abbrev keys (es : List EndPoint) : List (List Char × UInt16) := es.map key

theorem same_comm (e f : EndPoint) : e.same f = f.same e :=
  Bool.eq_iff_iff.2 ⟨same_symm, same_symm⟩

theorem any_same_iff : es.any (·.same e) = true ↔ e.key ∈ keys es := by
  rw [List.any_eq_true, List.mem_map]
  exact exists_congr fun f => and_congr_right fun _ => same_iff

theorem any_same_eq_false_iff : es.any (·.same e) = false ↔ e.key ∉ keys es := by
  rw [← Bool.not_eq_true, any_same_iff]

theorem nodup_keys_concat_iff :
    (keys (es ++ [e])).Nodup ↔ (keys es).Nodup ∧ e.key ∉ keys es := by
  rw [keys, List.map_append, List.map_singleton, List.nodup_append_comm, List.singleton_append,
    List.nodup_cons, and_comm]

/-! ## The first of each node -/

/-- **One endpoint more** is kept if its node has not been named. -/
theorem distinct_concat (es : List EndPoint) (e : EndPoint) :
    distinct (es ++ [e]) = if (distinct es).any (·.same e) then distinct es
      else distinct es ++ [e] :=
  List.foldl_append

/-- **`distinct` leaves no node out**, and adds none. -/
theorem mem_keys_distinct {k : List Char × UInt16} :
    k ∈ keys (distinct es) ↔ k ∈ keys es := by
  induction es using List.reverseRecOn with
  | nil => rfl
  | append_singleton es e ih =>
    have hconcat : k ∈ keys (es ++ [e]) ↔ k ∈ keys (distinct es) ∨ k = e.key := by
      rw [ih, keys, List.map_append, List.mem_append, List.map_singleton, List.mem_singleton]
    rw [hconcat, distinct_concat]
    split
    · -- the node was named before
      rename_i hany
      exact (or_iff_left_of_imp fun hk => hk ▸ any_same_iff.1 hany).symm
    · rw [keys, List.map_append, List.mem_append, List.map_singleton, List.mem_singleton]

/-- **`distinct` names each node once.** -/
theorem nodup_keys_distinct (es : List EndPoint) : (keys (distinct es)).Nodup := by
  induction es using List.reverseRecOn with
  | nil => exact List.nodup_nil
  | append_singleton es e ih =>
    rw [distinct_concat]
    split
    · exact ih
    · rename_i hany
      exact nodup_keys_concat_iff.2 ⟨ih, mt any_same_iff.2 hany⟩

/-- A node is looked up with the same result in what is kept. -/
theorem find?_distinct (es : List EndPoint) (e : EndPoint) :
    (distinct es).find? (·.same e) = es.find? (·.same e) := by
  induction es using List.reverseRecOn with
  | nil => rfl
  | append_singleton es f ih =>
    rw [distinct_concat, List.find?_append, ← ih]
    split
    · rename_i hany
      cases hfind : (distinct es).find? (·.same e) with
      | some g => rfl
      | none =>
        -- the last endpoint names another node, since its own was named before
        rw [Option.none_or, eq_comm, List.find?_singleton, if_neg]
        intro hsame
        rw [any_same_iff, same_iff.1 hsame, ← any_same_iff, List.any_eq_true] at hany
        obtain ⟨g, hg, hgsame⟩ := hany
        exact List.find?_eq_none.1 hfind g hg hgsame
    · rw [List.find?_append]

/-- **An endpoint is kept** if it is the first of the list that names its node. -/
theorem mem_distinct_iff : e ∈ distinct es ↔ es.find? (·.same e) = some e := by
  rw [← find?_distinct]
  refine ⟨fun hmem => ?_, List.mem_of_find?_eq_some⟩
  cases hfind : (distinct es).find? (·.same e) with
  | none => exact absurd (same_refl e) (List.find?_eq_none.1 hfind e hmem)
  | some f =>
    -- no other endpoint that is kept has the same key
    have hsame : f.same e = true := List.find?_some (p := fun g : EndPoint => g.same e) hfind
    have hf := List.mem_of_find?_eq_some hfind
    rw [List.inj_on_of_nodup_map (nodup_keys_distinct es) hf hmem (same_iff.1 hsame)]

-- the spelling that comes first is kept
example : distinct [⟨"b", 1⟩, ⟨"A", 1⟩, ⟨"B", 1⟩, ⟨"a", 1⟩]
    = [⟨"b", 1⟩, ⟨"A", 1⟩] := by decide

/-- `distinct` adds no endpoint. -/
theorem mem_of_mem_distinct (h : e ∈ distinct es) : e ∈ es :=
  List.mem_of_find?_eq_some (mem_distinct_iff.1 h)

/-- Endpoints that name each node once are kept as they are. -/
theorem distinct_of_nodup (h : (keys es).Nodup) : distinct es = es := by
  induction es using List.reverseRecOn with
  | nil => rfl
  | append_singleton es e ih =>
    obtain ⟨hnodup, hnew⟩ := nodup_keys_concat_iff.1 h
    rw [distinct_concat, ih hnodup, any_same_eq_false_iff.2 hnew, if_neg Bool.false_ne_true]

/-- Naming each node once is done once. -/
theorem distinct_distinct (es : List EndPoint) : distinct (distinct es) = distinct es :=
  distinct_of_nodup (nodup_keys_distinct es)

end ClusterLink.EndPoint
