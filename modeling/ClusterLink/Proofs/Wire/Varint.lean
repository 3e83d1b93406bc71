import ClusterLink.Wire.Varint
import Mathlib.Algebra.Group.Nat.Defs

/-!
# Reading and writing numbers

Bytes spell a number in base 128 (`Wire.Spells`), and a number has a spelling of every length from
the shortest on. The reader accepts the spellings of at most ten bytes whose number is below `2 ^
64`, and of them all (`Wire.readVarint_eq_some_iff`); it stops where the spelling ends, whatever
follows. The writer takes the shortest spelling, whose length is computed right
(`Wire.isVarint_varint`, `Wire.length_varint`).
-/

namespace ClusterLink.Wire

/-- **The bytes spell a number**: the low digit first, and every byte but the last announces
another. -/
inductive Spells : List UInt8 → Nat → Prop where
  | last {b : UInt8} (h : b.toNat < 128) : Spells [b] b.toNat
  | more {b : UInt8} {bs : List UInt8} {n : Nat} (h : 128 ≤ b.toNat) (hrest : Spells bs n) :
    Spells (b :: bs) (b.toNat - 128 + 128 * n)

/-- **The bytes are a number that can be read.** -/
structure IsVarint (bs : List UInt8) (n : Nat) : Prop where
  spells : Spells bs n
  length_le : bs.length ≤ 10
  lt : n < 2 ^ 64

theorem Spells.ne_nil {bs : List UInt8} {n : Nat} (h : Spells bs n) : bs ≠ [] := by
  cases h <;> exact List.cons_ne_nil _ _

theorem IsVarint.length_pos {bs : List UInt8} {n : Nat} (h : IsVarint bs n) : 0 < bs.length :=
  List.length_pos_iff.2 h.spells.ne_nil

/-! ## Reading -/

/-- What is read from at most `left + 1` bytes: the last of them may only add one bit. -/
theorem readVarintWithin_eq_some_iff {left n : Nat} {bs rest : List UInt8} :
    readVarintWithin (left + 1) bs = some (n, rest) ↔
      ∃ used, bs = used ++ rest ∧ Spells used n ∧ used.length ≤ left + 1
        ∧ n < 2 * 128 ^ left := by
  induction left generalizing n bs with
  | zero =>
    constructor
    · intro h
      cases bs with
      | nil => cases h
      | cons b bs =>
        simp only [readVarintWithin] at h
        split at h
        · rename_i hb
          split at h
          · cases h
          · rename_i hsmall
            cases h
            have hle : ¬1 < b.toNat := fun hlarge => hsmall ⟨trivial, hlarge⟩
            exact ⟨[b], rfl, .last hb, Nat.le_refl _, by omega⟩
        · cases h
    · rintro ⟨used, rfl, hspells, hlength, hlt⟩
      cases hspells with
      | last hb =>
        rename_i b
        have hle : ¬1 < b.toNat := by omega
        simp [readVarintWithin, hb, hle]
      | more hb hrest =>
        have := List.length_pos_iff.2 hrest.ne_nil
        rw [List.length_cons] at hlength
        omega
  | succ left ih =>
    have hpow : 128 ^ (left + 1) = 128 * 128 ^ left := Nat.pow_succ'
    have hpos : 0 < 128 ^ left := Nat.pow_pos (by decide)
    constructor
    · intro h
      cases bs with
      | nil => cases h
      | cons b bs =>
        simp only [readVarintWithin] at h
        split at h
        · rename_i hb
          rw [if_neg (fun hleft => absurd hleft.1 (Nat.succ_ne_zero _))] at h
          cases h
          exact ⟨[b], rfl, .last hb, by simp, by omega⟩
        · rename_i hb
          obtain ⟨⟨m, rest'⟩, hread, hpair⟩ := Option.map_eq_some_iff.1 h
          cases hpair
          obtain ⟨used, rfl, hspells, hlength, hlt⟩ := ih.1 hread
          have hbyte := b.toNat_lt
          exact ⟨b :: used, rfl,
            .more (by omega) hspells, by simpa using hlength, by simp only; omega⟩
    · rintro ⟨used, rfl, hspells, hlength, hlt⟩
      cases hspells with
      | last hb => simp [readVarintWithin, hb]
      | more hb hrest =>
        rename_i b bs m
        have hread : readVarintWithin (left + 1) (bs ++ rest) = some (m, rest) :=
          ih.2 ⟨bs, rfl, hrest, by simpa using hlength, by omega⟩
        simp only [List.cons_append, readVarintWithin, if_neg (Nat.not_lt.2 hb)]
        rw [hread]
        rfl

/-- **The reader accepts readable numbers**, all of them and nothing else. -/
theorem readVarint_eq_some_iff {n : Nat} {bs rest : List UInt8} :
    readVarint bs = some (n, rest) ↔ ∃ used, bs = used ++ rest ∧ IsVarint used n := by
  rw [readVarint, readVarintWithin_eq_some_iff]
  refine exists_congr fun used => and_congr_right fun _ =>
    ⟨fun h => ⟨h.1, h.2.1, ?_⟩, fun h => ?_⟩
  · have := h.2.2
    omega
  · refine ⟨h.spells, h.length_le, ?_⟩
    have := h.lt
    omega

/-- A readable number is read, whatever follows it. -/
theorem IsVarint.read {bs : List UInt8} {n : Nat} (h : IsVarint bs n) (rest : List UInt8) :
    readVarint (bs ++ rest) = some (n, rest) :=
  readVarint_eq_some_iff.2 ⟨bs, rfl, h⟩

/-! ## Writing -/

theorem spells_varint (n : Nat) : Spells (varint n) n := by
  induction n using varint.induct with
  | case1 n hn =>
    have hbyte : (UInt8.ofNat n).toNat = n := by
      rw [UInt8.toNat_ofNat']
      omega
    rw [varint, if_pos hn]
    have := Spells.last (b := UInt8.ofNat n) (by omega)
    rwa [hbyte] at this
  | case2 n hn ih =>
    have hbyte : (UInt8.ofNat (n % 128 + 128)).toNat = n % 128 + 128 := by
      rw [UInt8.toNat_ofNat']
      omega
    rw [varint, if_neg hn]
    have := Spells.more (b := UInt8.ofNat (n % 128 + 128)) (by omega) ih
    rwa [hbyte, show n % 128 + 128 - 128 + 128 * (n / 128) = n by omega] at this

theorem log2_or_one (n : Nat) : (n ||| 1).log2 = n.log2 := by
  by_cases hn : 2 ≤ n
  · have hle : n ≤ n ||| 1 := Nat.left_le_or
    have hhalf : (n ||| 1) / 2 = n / 2 := by
      rw [Nat.or_div_two]
      exact Nat.or_zero _
    rw [Nat.log2_def, if_pos (Nat.le_trans hn hle), hhalf, Nat.log2_def n, if_pos hn]
  · have hcases : n = 0 ∨ n = 1 := by omega
    rcases hcases with rfl | rfl <;> rfl

theorem log2_lt_of_lt {n k : Nat} (hk : 0 < k) (h : n < 2 ^ k) : n.log2 < k := by
  by_cases hn : n = 0
  · rwa [hn, Nat.log2_zero]
  · exact (Nat.log2_lt hn).2 h

theorem log2_div_128 {n : Nat} (hn : 128 ≤ n) : n.log2 = (n / 128).log2 + 7 := by
  obtain ⟨hle, hlt⟩ := (Nat.log2_eq_iff (show n / 128 ≠ 0 by omega)).1 rfl
  have hpow : 2 ^ ((n / 128).log2 + 7) = 2 ^ (n / 128).log2 * 128 := Nat.pow_add ..
  have hpow' : 2 ^ ((n / 128).log2 + 7 + 1) = 2 ^ (n / 128).log2 * 256 := Nat.pow_add _ _ 8
  rw [Nat.pow_succ] at hlt
  refine (Nat.log2_eq_iff (by omega)).2 ⟨?_, ?_⟩
  · rw [hpow]
    omega
  · rw [hpow']
    omega

/-- The spelling that is written has one byte for each seven bits of the number, and one for
zero. -/
theorem length_varint_eq (n : Nat) : (varint n).length = (n ||| 1).log2 / 7 + 1 := by
  induction n using varint.induct with
  | case1 n hn =>
    have hlog : n.log2 < 7 := log2_lt_of_lt (by decide) hn
    rw [varint, if_pos hn, List.length_singleton, log2_or_one]
    omega
  | case2 n hn ih =>
    rw [varint, if_neg hn, List.length_cons, ih, log2_or_one n, log2_or_one (n / 128),
      log2_div_128 (Nat.not_lt.1 hn)]
    omega

/-- **The length of a number is computed right.** -/
theorem length_varint {n : Nat} (h : n < 2 ^ 64) : (varint n).length = varintLength n := by
  have hlog : n.log2 < 64 := log2_lt_of_lt (by decide) h
  rw [length_varint_eq, varintLength, log2_or_one]
  omega

/-- **What is written can be read.** -/
theorem isVarint_varint {n : Nat} (h : n < 2 ^ 64) : IsVarint (varint n) n where
  spells := spells_varint n
  length_le := by
    have hlog : n.log2 < 64 := log2_lt_of_lt (by decide) h
    rw [length_varint_eq, log2_or_one]
    omega
  lt := h

end ClusterLink.Wire
