import ClusterLink.Proofs.Node.Distinct
import ClusterLink.Proofs.Text.Bytes
import ClusterLink.Proofs.Text.Case
import Mathlib.Data.List.Perm.Basic

/-!
# Endpoints in hash sets

A hash set looks for an element where the hash of it points to, and compares it with what stands
there. That finds an endpoint under any spelling only if endpoints that name one node feed the same
bytes to the hasher. They do, and no others do (`EndPoint.same_iff_hashBytes`).

Comparing folds the case of characters, and hashing that of bytes. This comes to the same
(`EndPoint.map_foldByte_toUTF8`), since a byte is a capital only where the character is one. Nothing
marks where the host ends, but the port always takes the last two bytes, so what stands before them
is the host.

So a hash set into which endpoints are inserted one by one holds what `EndPoint.distinct` keeps of
them, in the same spelling, whatever its hasher makes of the bytes
(`EndPoint.hashes_as_it_compares`).
-/

namespace ClusterLink.EndPoint

/-! ## What a hasher is fed -/

/-- **A capital becomes its small letter**, and any other byte stays. -/
theorem toNat_foldByte (b : UInt8) :
    (foldByte b).toNat = if 65 ≤ b.toNat ∧ b.toNat ≤ 90 then b.toNat + 32 else b.toNat := by
  by_cases h : 'A'.toUInt8 ≤ b ∧ b ≤ 'Z'.toUInt8
  · have hge : 65 ≤ b.toNat := h.1
    have hle : b.toNat ≤ 90 := h.2
    rw [foldByte, if_pos h, if_pos ⟨hge, hle⟩, UInt8.toNat_add]
    exact Nat.mod_eq_of_lt (by show _ + 32 < 256; omega)
  · have hother : ¬(65 ≤ b.toNat ∧ b.toNat ≤ 90) := h
    rw [foldByte, if_neg h, if_neg hother]

/-- The bytes of a character without case are those of the character, without case. -/
theorem map_foldByte_utf8EncodeChar (c : Char) :
    (String.utf8EncodeChar c).map foldByte = String.utf8EncodeChar c.toLower := by
  have hlower := Text.toNat_toLower c
  by_cases hascii : c.toNat ≤ 0x7f
  · have hle : c.toLower.toNat ≤ 0x7f := by
      rw [hlower]
      split <;> omega
    have hcode : ∀ n, n ≤ 0x7f → (UInt8.ofNat n).toNat = n := fun n hn =>
      UInt8.toNat_ofNat_of_lt' (Nat.lt_of_le_of_lt hn (by decide))
    rw [Text.utf8EncodeChar_of_le hascii, Text.utf8EncodeChar_of_le hle, List.map_singleton,
      List.singleton_inj, ← UInt8.toNat_inj, toNat_foldByte, hcode _ hascii, hcode _ hle, hlower]
  · -- neither the character nor any of its bytes is a capital
    have hself : c.toLower = c := by
      rw [← Char.toNat_inj, hlower, if_neg (by omega)]
    rw [hself]
    refine (List.map_congr_left fun b hb => ?_).trans (List.map_id _)
    have hge := Text.le_of_mem_utf8EncodeChar (Nat.lt_of_not_le hascii) hb
    rw [← UInt8.toNat_inj, toNat_foldByte, if_neg (by omega), id]

/-- **Folding bytes is folding characters.** -/
theorem map_foldByte_toUTF8 (s : String) :
    s.toUTF8.data.toList.map foldByte = (Text.lowercase s).toUTF8.data.toList := by
  rw [Text.toUTF8_eq_flatMap, Text.toUTF8_eq_flatMap, List.map_flatMap, Text.lowercase,
    String.toList_ofList, Text.foldCase, List.flatMap_map]
  exact List.flatMap_congr fun c _ => map_foldByte_utf8EncodeChar c

/-- The bytes of a port, the low one first. -/
def portBytes (port : UInt16) : List UInt8 := [port.toUInt8, (port >>> 8).toUInt8]

/-- A port can be read off its bytes. -/
theorem portBytes_inj {p q : UInt16} : portBytes p = portBytes q ↔ p = q := by
  have hlow : ∀ r : UInt16, r.toUInt8.toNat = r.toNat % 256 := UInt16.toNat_toUInt8
  have hhigh : ∀ r : UInt16, (r >>> 8).toUInt8.toNat = r.toNat / 256 := fun r => by
    have hlt := r.toNat_lt
    rw [hlow, UInt16.toNat_shiftRight, Nat.shiftRight_eq_div_pow]
    exact Nat.mod_eq_of_lt (Nat.div_lt_of_lt_mul hlt)
  refine ⟨fun h => ?_, congrArg portBytes⟩
  obtain ⟨hfirst, hsecond⟩ : p.toUInt8 = q.toUInt8
      ∧ (p >>> 8).toUInt8 = (q >>> 8).toUInt8 := by
    simpa [portBytes] using h
  rw [← UInt8.toNat_inj, hlow, hlow] at hfirst
  rw [← UInt8.toNat_inj, hhigh, hhigh] at hsecond
  rw [← UInt16.toNat_inj]
  omega

theorem hashBytes_eq (e : EndPoint) :
    e.hashBytes = (Text.lowercase e.host).toUTF8.data.toList ++ portBytes e.port := by
  rw [hashBytes, map_foldByte_toUTF8, portBytes]

/-- **Two endpoints name one node** if and only if they feed the same bytes to a hasher. -/
theorem same_iff_hashBytes {e f : EndPoint} : e.same f = true ↔ e.hashBytes = f.hashBytes := by
  rw [same_iff, key, key, Prod.mk.injEq, hashBytes_eq, hashBytes_eq]
  constructor
  · rintro ⟨hhost, hport⟩
    rw [Text.lowercase, Text.lowercase, hhost, hport]
  · intro h
    obtain ⟨hhost, hport⟩ := List.append_inj' h rfl
    exact ⟨String.ofList_inj.1 (Text.toUTF8_inj.1 hhost), portBytes_inj.1 hport⟩

-- these bytes alone do not tell that they are not those of a longer host
example : (⟨"Ab", 0x6463⟩ : EndPoint).hashBytes = "abcd".toUTF8.data.toList := by decide

/-! ## Hash sets -/

/-- **An endpoint in a hash set**: it is looked for by what the hasher makes of its bytes, and
compared by the node that it names. -/
structure Hashed (hasher : List UInt8 → UInt64) where
  endpoint : EndPoint

section

variable {hasher : List UInt8 → UInt64}

instance : BEq (Hashed hasher) := ⟨fun a b => a.endpoint.same b.endpoint⟩

instance : Hashable (Hashed hasher) := ⟨fun a => hasher a.endpoint.hashBytes⟩

instance : EquivBEq (Hashed hasher) where
  rfl := same_refl _
  symm := same_symm
  trans := same_trans

instance : LawfulHashable (Hashed hasher) where
  hash_eq _ _ h := congrArg hasher (same_iff_hashBytes.1 h)

/-- **The hash set of a list**: its endpoints are inserted one by one. -/
def hashed (hasher : List UInt8 → UInt64) (es : List EndPoint) : Std.HashSet (Hashed hasher) :=
  es.foldl (fun set e => set.insert ⟨e⟩) ∅

theorem hashed_concat (es : List EndPoint) (e : EndPoint) :
    hashed hasher (es ++ [e]) = (hashed hasher es).insert ⟨e⟩ :=
  List.foldl_append

/-- A hash set finds an endpoint where a scan of what it holds does. -/
theorem mem_iff_any_same {set : Std.HashSet (Hashed hasher)} {kept : List EndPoint}
    (h : (set.toList.map Hashed.endpoint).Perm kept) {e : EndPoint} :
    ⟨e⟩ ∈ set ↔ kept.any (·.same e) = true := by
  have hany : set.toList.any (⟨e⟩ == ·) = set.toList.any ((·.same e) ∘ Hashed.endpoint) :=
    List.any_congr rfl fun f => same_comm e f.endpoint
  rw [Std.HashSet.mem_iff_contains, ← Std.HashSet.contains_toList, List.contains_eq_any_beq, hany,
    ← List.any_map, h.any_eq]

/-- **A hash set holds what `distinct` keeps.** -/
theorem perm_distinct (es : List EndPoint) :
    ((hashed hasher es).toList.map Hashed.endpoint).Perm (distinct es) := by
  induction es using List.reverseRecOn with
  | nil => simp [hashed, distinct]
  | append_singleton es e ih =>
    have hinsert :=
      (Std.HashSet.toList_insert_perm (m := hashed hasher es) (k := ⟨e⟩)).map Hashed.endpoint
    rw [← hashed_concat] at hinsert
    refine hinsert.trans ?_
    rw [distinct_concat]
    by_cases hmem : (⟨e⟩ : Hashed hasher) ∈ hashed hasher es
    · rw [if_pos hmem, if_pos ((mem_iff_any_same ih).1 hmem)]
      exact ih
    · rw [if_neg hmem, if_neg (mt (mem_iff_any_same ih).2 hmem), List.map_cons]
      exact (ih.cons e).trans (List.perm_append_singleton e _).symm

end

/-- **Endpoints are hashed as they are compared.** To name one node is an equivalence, and two
endpoints name one node just if they feed the same bytes to a hasher. So a hash set into which
endpoints are inserted one by one finds an endpoint just if a scan of those that were kept does, and
in the end holds exactly those, as they are spelled there. -/
theorem hashes_as_it_compares :
    Equivalence (fun e f : EndPoint => e.same f = true)
    ∧ (∀ e f : EndPoint, e.same f = true ↔ e.hashBytes = f.hashBytes)
    ∧ ∀ (hasher : List UInt8 → UInt64) (es : List EndPoint),
      (∀ e, ⟨e⟩ ∈ hashed hasher es ↔ (distinct es).any (·.same e) = true)
      ∧ ((hashed hasher es).toList.map Hashed.endpoint).Perm (distinct es) :=
  ⟨⟨same_refl, same_symm, same_trans⟩, fun _ _ => same_iff_hashBytes,
    fun _ es => ⟨fun _ => mem_iff_any_same (perm_distinct es), perm_distinct es⟩⟩

end ClusterLink.EndPoint
