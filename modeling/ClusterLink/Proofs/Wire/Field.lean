import ClusterLink.Proofs.Wire.Varint
import ClusterLink.Wire.Field

/-!
# The grammar of messages

A field is a key and content that is written as the key tells, or a group: fields between an opening
and a closing key of one field number (`Wire.IsField`). Keys, numbers and lengths may be spelled
longer than they have to be. A message is a sequence of fields (`Wire.IsMessage`).

Reading divides a message into its fields, and accepts nothing else (`Wire.readFields_eq_some_iff`).
What is read of a field does not depend on what follows it, so the fields of a message that is put
in front of other bytes come first (`Wire.readFields_append`). Reading past a group uses the same
grammar: nothing of it is kept, but it has to be made of fields (`Wire.exists_of_skipGroup`).
-/

namespace ClusterLink.Wire

/-! ## The grammar -/

/-- **The bytes are a key**: a field number, and how the content is written. -/
structure IsKey (bs : List UInt8) (number : Nat) (w : WireType) : Prop where
  isVarint : IsVarint bs (8 * number + w.number)
  pos : 0 < number
  lt : number < 2 ^ 29

/-- **The bytes are content** written in one piece. -/
inductive IsContent : WireType → Payload → List UInt8 → Prop where
  | varint {bs : List UInt8} {n : Nat} (h : IsVarint bs n) : IsContent .varint (.varint n) bs
  | fixed64 {bs : List UInt8} (h : bs.length = 8) : IsContent .fixed64 (.fixed64 bs) bs
  | bytes {length bs : List UInt8} (h : IsVarint length bs.length) :
    IsContent .bytes (.bytes bs) (length ++ bs)
  | fixed32 {bs : List UInt8} (h : bs.length = 4) : IsContent .fixed32 (.fixed32 bs) bs

/-- **The bytes are a field**, at a place where so many levels of groups may still be opened, this
field counted as one. -/
inductive IsField : Nat → Field → List UInt8 → Prop where
  | plain {levels number : Nat} {w : WireType} {payload : Payload} {k content : List UInt8}
    (hkey : IsKey k number w) (hcontent : IsContent w payload content) :
    IsField (levels + 1) ⟨number, payload⟩ (k ++ content)
  | group {levels number : Nat} {k k' : List UInt8} {parts : List (Field × List UInt8)}
    (hopen : IsKey k number .openGroup)
    (hparts : ∀ part ∈ parts, IsField levels part.1 part.2)
    (hclose : IsKey k' number .closeGroup) :
    IsField (levels + 1) ⟨number, .group⟩ (k ++ (parts.flatMap (·.2) ++ k'))

/-- **The bytes are a message** of these fields. -/
def IsMessage (levels : Nat) (fs : List Field) (bs : List UInt8) : Prop :=
  ∃ parts : List (Field × List UInt8), (∀ part ∈ parts, IsField levels part.1 part.2)
    ∧ fs = parts.map (·.1) ∧ bs = parts.flatMap (·.2)

variable {levels number : Nat} {f : Field} {fs : List Field} {bs rest a b : List UInt8}

namespace IsMessage

theorem nil : IsMessage levels [] [] := ⟨[], nofun, rfl, rfl⟩

theorem cons (hf : IsField levels f a) (h : IsMessage levels fs b) :
    IsMessage levels (f :: fs) (a ++ b) := by
  obtain ⟨parts, hparts, rfl, rfl⟩ := h
  exact ⟨(f, a) :: parts, List.forall_mem_cons.2 ⟨hf, hparts⟩, rfl, rfl⟩

theorem single (hf : IsField levels f a) : IsMessage levels [f] a := by
  have h := cons hf nil
  rwa [List.append_nil] at h

end IsMessage

theorem IsField.length_pos (h : IsField levels f bs) : 0 < bs.length := by
  cases h with
  | plain hkey _ =>
    rw [List.length_append]
    exact Nat.add_pos_left hkey.isVarint.length_pos _
  | group hopen _ _ =>
    rw [List.length_append]
    exact Nat.add_pos_left hopen.isVarint.length_pos _

/-! ## Reading keys and content -/

theorem WireType.number_lt (w : WireType) : w.number < 8 := by
  cases w <;> decide

theorem WireType.number_of_ofNumber? {n : Nat} {w : WireType} (h : ofNumber? n = some w) :
    w.number = n := by
  unfold ofNumber? at h
  split at h <;> cases h <;> rfl

theorem readKey_eq_some_iff {w : WireType} :
    readKey bs = some ((number, w), rest) ↔ ∃ k, bs = k ++ rest ∧ IsKey k number w := by
  constructor
  · intro h
    unfold readKey at h
    split at h
    · cases h
    · rename_i n tail hread
      obtain ⟨k, rfl, hk⟩ := readVarint_eq_some_iff.1 hread
      split at h
      · cases h
      · rename_i hbounds
        obtain ⟨w', hw, hpair⟩ := Option.map_eq_some_iff.1 h
        cases hpair
        have hnumber := WireType.number_of_ofNumber? hw
        refine ⟨k, rfl, ?_, by omega, by omega⟩
        rwa [hnumber, Nat.div_add_mod]
  · rintro ⟨k, rfl, hkey⟩
    have hnumber := w.number_lt
    have hlt := hkey.lt
    have hpos := hkey.pos
    have hdiv : (8 * number + w.number) / 8 = number := by omega
    have hmod : (8 * number + w.number) % 8 = w.number := by omega
    unfold readKey
    rw [hkey.isVarint.read rest]
    simp only [hdiv, hmod, WireType.ofNumber?_number]
    rw [if_neg (by omega)]
    rfl

theorem IsKey.read {k : List UInt8} {w : WireType} (h : IsKey k number w) (rest : List UInt8) :
    readKey (k ++ rest) = some ((number, w), rest) :=
  readKey_eq_some_iff.2 ⟨k, rfl, h⟩

theorem takeBytes_eq_some_iff {n : Nat} :
    takeBytes n bs = some (a, rest) ↔ bs = a ++ rest ∧ a.length = n := by
  unfold takeBytes
  constructor
  · intro h
    split at h
    · rename_i hle
      cases h
      exact ⟨(List.take_append_drop n bs).symm, List.length_take_of_le hle⟩
    · cases h
  · rintro ⟨rfl, rfl⟩
    simp

theorem readScalar_eq_some_iff {w : WireType} {payload : Payload} :
    readScalar w bs = some (payload, rest)
      ↔ ∃ content, bs = content ++ rest ∧ IsContent w payload content := by
  constructor
  · intro h
    cases w with
    | varint =>
      obtain ⟨⟨n, tail⟩, hread, hpair⟩ := Option.map_eq_some_iff.1 h
      cases hpair
      obtain ⟨used, rfl, hused⟩ := readVarint_eq_some_iff.1 hread
      exact ⟨used, rfl, .varint hused⟩
    | fixed64 =>
      obtain ⟨⟨content, tail⟩, htake, hpair⟩ := Option.map_eq_some_iff.1 h
      cases hpair
      obtain ⟨rfl, hlength⟩ := takeBytes_eq_some_iff.1 htake
      exact ⟨content, rfl, .fixed64 hlength⟩
    | bytes =>
      simp only [readScalar] at h
      split at h
      · cases h
      · rename_i n tail hread
        obtain ⟨⟨content, tail'⟩, htake, hpair⟩ := Option.map_eq_some_iff.1 h
        cases hpair
        obtain ⟨used, rfl, hused⟩ := readVarint_eq_some_iff.1 hread
        obtain ⟨rfl, rfl⟩ := takeBytes_eq_some_iff.1 htake
        exact ⟨used ++ content, (List.append_assoc ..).symm, .bytes hused⟩
    | fixed32 =>
      obtain ⟨⟨content, tail⟩, htake, hpair⟩ := Option.map_eq_some_iff.1 h
      cases hpair
      obtain ⟨rfl, hlength⟩ := takeBytes_eq_some_iff.1 htake
      exact ⟨content, rfl, .fixed32 hlength⟩
    | openGroup => cases h
    | closeGroup => cases h
  · rintro ⟨content, rfl, hcontent⟩
    cases hcontent with
    | varint h =>
      simp only [readScalar, h.read rest]
      rfl
    | fixed64 h =>
      simp only [readScalar, takeBytes_eq_some_iff.2 ⟨rfl, h⟩]
      rfl
    | bytes h =>
      simp only [readScalar, List.append_assoc, h.read, takeBytes_eq_some_iff.2 ⟨rfl, rfl⟩]
      rfl
    | fixed32 h =>
      simp only [readScalar, takeBytes_eq_some_iff.2 ⟨rfl, h⟩]
      rfl

theorem IsContent.read {w : WireType} {payload : Payload} {content : List UInt8}
    (h : IsContent w payload content) (rest : List UInt8) :
    readScalar w (content ++ rest) = some (payload, rest) :=
  readScalar_eq_some_iff.2 ⟨content, rfl, h⟩

/-! ## Reading past groups -/

/-- One round of `skipGroup` reads past these bytes, whatever group they stand in. -/
def IsSkipped (levels : Nat) (bs : List UInt8) : Prop :=
  ∀ rounds number rest, (bs ++ rest).length ≤ rounds + 1 →
    skipGroup (rounds + 1) levels number (bs ++ rest) = skipGroup rounds levels number rest

/-- A group whose parts are skipped ends at its closing key. -/
theorem skipGroup_parts {rounds : Nat} {parts : List (Field × List UInt8)} {k : List UInt8}
    (rest : List UInt8) (hparts : ∀ part ∈ parts, 0 < part.2.length ∧ IsSkipped levels part.2)
    (hclose : IsKey k number .closeGroup)
    (hrounds : (parts.flatMap (·.2) ++ (k ++ rest)).length ≤ rounds) :
    skipGroup rounds levels number (parts.flatMap (·.2) ++ (k ++ rest)) = some rest := by
  have hk := hclose.isVarint.length_pos
  induction parts generalizing rounds with
  | nil =>
    rw [List.flatMap_nil, List.nil_append, List.length_append] at hrounds
    obtain ⟨rounds, rfl⟩ := Nat.exists_eq_succ_of_ne_zero (show rounds ≠ 0 by omega)
    simp [skipGroup, hclose.read rest]
  | cons part parts ih =>
    obtain ⟨⟨hpos, hskipped⟩, hparts⟩ := List.forall_mem_cons.1 hparts
    rw [List.flatMap_cons, List.append_assoc] at hrounds ⊢
    have hlength := hrounds
    rw [List.length_append] at hlength
    obtain ⟨rounds, rfl⟩ := Nat.exists_eq_succ_of_ne_zero (show rounds ≠ 0 by omega)
    rw [hskipped rounds number _ hrounds]
    exact ih hparts (by omega)

/-- A field of a group is skipped. -/
theorem IsField.isSkipped (h : IsField levels f bs) : IsSkipped levels bs := by
  induction h with
  | plain hkey hcontent =>
    intro rounds number rest _
    have hread := hcontent.read rest
    rw [List.append_assoc]
    rw [skipGroup, hkey.read]
    cases hcontent <;> simp only [hread, Nat.add_one_ne_zero, if_false]
  | group hopen hparts hclose ih =>
    intro rounds number rest hrounds
    have hk := hopen.isVarint.length_pos
    rw [List.append_assoc, List.append_assoc] at hrounds ⊢
    rw [List.length_append] at hrounds
    have hinner := skipGroup_parts rest
      (fun part hpart => ⟨(hparts part hpart).length_pos, ih part hpart⟩) hclose
      (show _ ≤ rounds by omega)
    simp only [skipGroup, hopen.read, Nat.add_one_ne_zero, if_false, Nat.add_sub_cancel, hinner]

/-- **What is read past** is the rest of a group: fields, and the closing key. -/
theorem exists_of_skipGroup {rounds : Nat} (h : skipGroup rounds levels number bs = some rest) :
    ∃ (parts : List (Field × List UInt8)) (k : List UInt8),
      bs = parts.flatMap (·.2) ++ (k ++ rest)
      ∧ (∀ part ∈ parts, IsField levels part.1 part.2) ∧ IsKey k number .closeGroup := by
  induction rounds generalizing levels number bs rest with
  | zero => cases h
  | succ rounds ih =>
    unfold skipGroup at h
    split at h
    · cases h
    · rename_i n tail hread
      obtain ⟨k, rfl, hkey⟩ := readKey_eq_some_iff.1 hread
      split at h
      · rename_i hn
        cases h
        exact ⟨[], k, rfl, nofun, hn ▸ hkey⟩
      · cases h
    · rename_i n tail hread
      obtain ⟨k, rfl, hkey⟩ := readKey_eq_some_iff.1 hread
      split at h
      · cases h
      · rename_i hlevels
        obtain ⟨levels, rfl⟩ := Nat.exists_eq_succ_of_ne_zero hlevels
        split at h
        · cases h
        · rename_i tail' hinner
          obtain ⟨inner, k', rfl, hfields, hclose⟩ := ih hinner
          obtain ⟨parts, k'', rfl, hparts, hclose'⟩ := ih h
          refine ⟨(⟨n, .group⟩, k ++ (inner.flatMap (·.2) ++ k')) :: parts, k'', by simp,
            ?_, hclose'⟩
          exact List.forall_mem_cons.2 ⟨.group hkey hfields hclose, hparts⟩
    · rename_i n w tail _ _ hread
      obtain ⟨k, rfl, hkey⟩ := readKey_eq_some_iff.1 hread
      split at h
      · cases h
      · rename_i hlevels
        obtain ⟨levels, rfl⟩ := Nat.exists_eq_succ_of_ne_zero hlevels
        split at h
        · cases h
        · rename_i payload tail' hscalar
          obtain ⟨content, rfl, hcontent⟩ := readScalar_eq_some_iff.1 hscalar
          obtain ⟨parts, k', rfl, hparts, hclose⟩ := ih h
          refine ⟨(⟨n, payload⟩, k ++ content) :: parts, k', by simp, ?_, hclose⟩
          exact List.forall_mem_cons.2 ⟨.plain hkey hcontent, hparts⟩

/-! ## Reading fields -/

/-- A field is read, whatever follows it. -/
theorem IsField.read (h : IsField levels f bs) (rest : List UInt8) :
    readField levels (bs ++ rest) = some (f, rest) := by
  cases h with
  | plain hkey hcontent =>
    have hread := hcontent.read rest
    rw [List.append_assoc]
    unfold readField
    rw [hkey.read]
    cases hcontent <;> simp only [hread, Option.map_some]
  | group hopen hparts hclose =>
    rw [List.append_assoc, List.append_assoc]
    have hinner := skipGroup_parts rest
      (fun part hpart => ⟨(hparts part hpart).length_pos, (hparts part hpart).isSkipped⟩) hclose
      (Nat.le_refl _)
    simp only [readField, hopen.read, hinner, Nat.add_sub_cancel, Nat.succ_ne_zero, if_false,
      Option.map_some]

/-- **One field is read** exactly if the bytes begin with one. -/
theorem readField_eq_some_iff : readField (levels + 1) bs = some (f, rest)
    ↔ ∃ used, bs = used ++ rest ∧ IsField (levels + 1) f used := by
  constructor
  · intro h
    unfold readField at h
    split at h
    · cases h
    · rename_i n tail hread
      obtain ⟨k, rfl, hkey⟩ := readKey_eq_some_iff.1 hread
      rw [if_neg (Nat.succ_ne_zero _)] at h
      obtain ⟨tail', hskip, hpair⟩ := Option.map_eq_some_iff.1 h
      cases hpair
      obtain ⟨parts, k', rfl, hparts, hclose⟩ := exists_of_skipGroup hskip
      exact ⟨k ++ (parts.flatMap (·.2) ++ k'), by simp, .group hkey hparts hclose⟩
    · rename_i n w tail _ hread
      obtain ⟨k, rfl, hkey⟩ := readKey_eq_some_iff.1 hread
      obtain ⟨⟨payload, tail'⟩, hscalar, hpair⟩ := Option.map_eq_some_iff.1 h
      cases hpair
      obtain ⟨content, rfl, hcontent⟩ := readScalar_eq_some_iff.1 hscalar
      exact ⟨k ++ content, by simp, .plain hkey hcontent⟩
  · rintro ⟨used, rfl, hf⟩
    exact hf.read rest

/-- More rounds than bytes make no difference. -/
theorem readFieldsWithin_eq {rounds rounds' : Nat} (h : bs.length ≤ rounds)
    (h' : bs.length ≤ rounds') :
    readFieldsWithin rounds (levels + 1) bs = readFieldsWithin rounds' (levels + 1) bs := by
  induction rounds generalizing rounds' bs with
  | zero =>
    rw [List.length_eq_zero_iff.1 (Nat.le_zero.1 h)]
    cases rounds' <;> rfl
  | succ rounds ih =>
    cases bs with
    | nil => cases rounds' <;> rfl
    | cons byte bs =>
      obtain ⟨rounds', rfl⟩ :=
        Nat.exists_eq_add_one_of_ne_zero (Nat.ne_of_gt (Nat.lt_of_lt_of_le (Nat.zero_lt_succ _) h'))
      simp only [readFieldsWithin]
      split
      · rfl
      · rename_i f rest hread
        obtain ⟨used, hbytes, hf⟩ := readField_eq_some_iff.1 hread
        have hlength := congrArg List.length hbytes
        have hpos := hf.length_pos
        rw [List.length_append] at hlength
        rw [ih (by omega) (by omega : rest.length ≤ rounds')]

/-- **A field in front of other bytes** is the first one. -/
theorem readFields_cons (hf : IsField (levels + 1) f a) (b : List UInt8) :
    readFields (levels + 1) (a ++ b) = (readFields (levels + 1) b).map (f :: ·) := by
  have hpos := hf.length_pos
  obtain ⟨byte, tail, hbytes⟩ := List.exists_cons_of_length_pos (show 0 < (a ++ b).length by
    rw [List.length_append]
    omega)
  have hread := hf.read b
  have hlength := congrArg List.length hbytes
  rw [List.length_append, List.length_cons] at hlength
  rw [hbytes] at hread ⊢
  simp only [readFields, List.length_cons, readFieldsWithin, hread]
  rw [readFieldsWithin_eq (show b.length ≤ tail.length by omega) (Nat.le_refl _)]

/-- **A message in front of other bytes** gives the first fields. -/
theorem readFields_append (ha : IsMessage (levels + 1) fs a) (b : List UInt8) :
    readFields (levels + 1) (a ++ b) = (readFields (levels + 1) b).map (fs ++ ·) := by
  obtain ⟨parts, hparts, rfl, rfl⟩ := ha
  induction parts with
  | nil => simp
  | cons part parts ih =>
    obtain ⟨hpart, hparts⟩ := List.forall_mem_cons.1 hparts
    rw [List.flatMap_cons, List.append_assoc, readFields_cons hpart, ih hparts, Option.map_map]
    rfl

theorem IsMessage.of_readFieldsWithin {rounds : Nat}
    (h : readFieldsWithin rounds (levels + 1) bs = some fs) : IsMessage (levels + 1) fs bs := by
  induction rounds generalizing bs fs with
  | zero =>
    cases bs with
    | nil =>
      cases h
      exact .nil
    | cons => cases h
  | succ rounds ih =>
    cases bs with
    | nil =>
      cases h
      exact .nil
    | cons byte bs =>
      simp only [readFieldsWithin] at h
      split at h
      · cases h
      · rename_i f rest hread
        obtain ⟨gs, hrest, rfl⟩ := Option.map_eq_some_iff.1 h
        obtain ⟨used, hbytes, hf⟩ := readField_eq_some_iff.1 hread
        rw [hbytes]
        exact .cons hf (ih hrest)

/-- **Reading divides a message into its fields**, and accepts nothing else. -/
theorem readFields_eq_some_iff :
    readFields (levels + 1) bs = some fs ↔ IsMessage (levels + 1) fs bs := by
  refine ⟨IsMessage.of_readFieldsWithin, fun h => ?_⟩
  have hread := readFields_append h []
  rwa [List.append_nil, show readFields (levels + 1) [] = some [] from rfl, Option.map_some,
    List.append_nil] at hread

/-! ## Writing -/

/-- The content can be written: numbers and lengths are told in 64 bits, and content of a fixed size
has that size. -/
def Payload.Fits : Payload → Prop
  | .varint n => n < 2 ^ 64
  | .fixed64 bs => bs.length = 8
  | .bytes bs => bs.length < 2 ^ 64
  | .group => True
  | .fixed32 bs => bs.length = 4

/-- **The field can be written.** -/
structure Field.Fits (f : Field) : Prop where
  pos : 0 < f.number
  lt : f.number < 2 ^ 29
  payload : f.payload.Fits

theorem isKey_key (w : WireType) (hpos : 0 < number) (hlt : number < 2 ^ 29) :
    IsKey (key number w) number w := by
  have hnumber := w.number_lt
  exact ⟨isVarint_varint (by omega), hpos, hlt⟩

theorem Field.Fits.isField (h : f.Fits) : IsField (levels + 1) f f.encode := by
  obtain ⟨number, payload⟩ := f
  have hkey := fun w => isKey_key w h.pos h.lt
  have hpayload := h.payload
  cases payload with
  | varint n => exact .plain (hkey .varint) (.varint (isVarint_varint hpayload))
  | fixed64 bs => exact .plain (hkey .fixed64) (.fixed64 hpayload)
  | bytes bs =>
    simp only [Field.encode, List.append_assoc]
    exact .plain (hkey .bytes) (.bytes (isVarint_varint hpayload))
  | group => exact .group (hkey .openGroup) (List.forall_mem_nil _) (hkey .closeGroup)
  | fixed32 bs => exact .plain (hkey .fixed32) (.fixed32 hpayload)

/-- **Fields that are written can be read.** -/
theorem readFields_encodeFields (h : ∀ f ∈ fs, f.Fits) :
    readFields (levels + 1) (encodeFields fs) = some fs := by
  refine readFields_eq_some_iff.2 ?_
  induction fs with
  | nil => exact .nil
  | cons f fs ih =>
    obtain ⟨hf, hfs⟩ := List.forall_mem_cons.1 h
    exact .cons hf.isField (ih hfs)

end ClusterLink.Wire
