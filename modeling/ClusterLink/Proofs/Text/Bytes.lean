import Mathlib.Data.List.Basic

/-!
# Texts as bytes

A text is sent, and hashed, as the bytes of its characters, one character after the other
(`Text.toUTF8_eq_flatMap`). A character of ASCII is one byte, its code, and any other character
consists of bytes beyond ASCII. So no byte of a text looks like a character that is not there.
-/

namespace ClusterLink.Text

theorem toUTF8_eq_flatMap (s : String) :
    s.toUTF8.data.toList = s.toList.flatMap String.utf8EncodeChar := by
  have hbytes : s.toByteArray = (s.toList.flatMap String.utf8EncodeChar).toByteArray := by
    rw [← List.utf8Encode, ← String.toByteArray_ofList, String.ofList_toList]
  rw [String.toUTF8, hbytes, List.data_toByteArray]

/-- **Different texts have different bytes.** -/
theorem toUTF8_inj {s t : String} : s.toUTF8.data.toList = t.toUTF8.data.toList ↔ s = t := by
  rw [Array.toList_inj, ← ByteArray.ext_iff, String.toUTF8, String.toUTF8, String.toByteArray_inj]

variable {c : Char}

/-- A character of ASCII is one byte. -/
theorem utf8EncodeChar_of_le (h : c.toNat ≤ 0x7f) :
    String.utf8EncodeChar c = [UInt8.ofNat c.toNat] :=
  if_pos h

/-- **No byte of any other character is of ASCII.** -/
theorem le_of_mem_utf8EncodeChar (h : 0x7f < c.toNat) {b : UInt8}
    (hb : b ∈ String.utf8EncodeChar c) :
    0x80 ≤ b.toNat := by
  have hbeyond : ∀ n, 0x80 ≤ n → n < 0x100 →
      0x80 ≤ (UInt8.ofNat n).toNat := fun n hge hlt => by
    rwa [UInt8.toNat_ofNat_of_lt' hlt]
  rw [String.utf8EncodeChar, Char.toNat_val, if_neg (Nat.not_le_of_lt h)] at hb
  split at hb
  · simp only [List.mem_cons, List.not_mem_nil, or_false] at hb
    rcases hb with rfl | rfl <;> exact hbeyond _ (by omega) (by omega)
  · split at hb <;> simp only [List.mem_cons, List.not_mem_nil, or_false] at hb
    · rcases hb with rfl | rfl | rfl <;> exact hbeyond _ (by omega) (by omega)
    · rcases hb with rfl | rfl | rfl | rfl <;> exact hbeyond _ (by omega) (by omega)

end ClusterLink.Text
