import ClusterLink.Proofs.Node.Selection
import ClusterLink.Proofs.Wire.Field
import ClusterLink.Wire.Features
import Mathlib.Data.List.Basic

/-!
# Replies that are written and read again

What is read from the bytes of a reply is the reply that was written, and the length that is
computed ahead is the number of those bytes (`Wire.MemberTable.decode_encode`,
`Wire.decodeMethodTable_encode` and the lengths beside them). The only condition is that lengths can
be told, which takes 64 bits: a record inside another is preceded by its length.

Each kind of record is treated alike. The fields it is written as can be written, and take the bytes
that were computed (`Wire.Measured`); taking them in one after the other, beginning with the record
of default values, gives the record. A field that is left out holds a default, so it need not be
taken in.

For a client this means that nodes that describe themselves reach it in order, under the names they
gave themselves, and that of any other table it hears of exactly the members with an address that
can be used (`Wire.replies_roundTrip`).
-/

namespace ClusterLink.Wire

variable {number length : Nat} {fs gs : List Field}

/-! ## Lengths -/

theorem le_bytesFieldLength : length ≤ bytesFieldLength number length := Nat.le_add_left ..

theorem le_totalLength {ns : List Nat} {n : Nat} (h : n ∈ ns) : n ≤ totalLength ns := by
  induction h with
  | head => exact Nat.le_add_right ..
  | tail _ _ ih => exact Nat.le_trans ih (Nat.le_add_left ..)

/-- Each item of a list of records is as small as the list. -/
theorem size_lt_of_totalLength_lt {α : Type} {items : List α} {size : α → Nat}
    (h : totalLength (items.map fun x => bytesFieldLength number (size x)) < length) {x : α}
    (hx : x ∈ items) : size x < length := by
  have hle : bytesFieldLength number (size x) ≤ _ :=
    le_totalLength (List.mem_map_of_mem (f := fun x => bytesFieldLength number (size x)) hx)
  exact Nat.lt_of_le_of_lt (Nat.le_trans le_bytesFieldLength hle) h

/-- **The fields can be written, and take so many bytes.** -/
structure Measured (length : Nat) (fs : List Field) : Prop where
  fits : ∀ f ∈ fs, f.Fits
  length_eq : (encodeFields fs).length = length

namespace Measured

theorem nil : Measured 0 [] := ⟨List.forall_mem_nil _, rfl⟩

theorem append {m n : Nat} (h : Measured m fs) (h' : Measured n gs) :
    Measured (m + n) (fs ++ gs) where
  fits f hf := (List.mem_append.1 hf).elim (h.fits f) (h'.fits f)
  length_eq := by
    rw [encodeFields, List.flatMap_append, List.length_append]
    exact congrArg₂ (· + ·) h.length_eq h'.length_eq

/-- A field that holds a number. -/
theorem varint {n : Nat} (hpos : 0 < number) (hlt : number < 2 ^ 29) (h : n < 2 ^ 64) :
    Measured (varintLength (8 * number) + varintLength n) [⟨number, .varint n⟩] where
  fits := List.forall_mem_singleton.2 ⟨hpos, hlt, h⟩
  length_eq := by
    rw [← length_varint h, ← length_varint (show 8 * number < 2 ^ 64 by omega)]
    simp [encodeFields, Field.encode, key, WireType.number]

/-- A field that holds bytes. -/
theorem bytes {bs : List UInt8} (hpos : 0 < number) (hlt : number < 2 ^ 29)
    (hsize : bs.length = length) (h : length < 2 ^ 64) :
    Measured (bytesFieldLength number length) [⟨number, .bytes bs⟩] := by
  subst hsize
  refine ⟨List.forall_mem_singleton.2 ⟨hpos, hlt, h⟩, ?_⟩
  rw [bytesFieldLength, ← length_varint h,
    ← length_varint (show 8 * number + 2 < 2 ^ 64 by omega)]
  simp [encodeFields, Field.encode, key, WireType.number, Nat.add_assoc]

theorem numberField {n : Nat} (hpos : 0 < number) (hlt : number < 2 ^ 29) (h : n < 2 ^ 64) :
    Measured (numberFieldLength number n) (numberField number n) := by
  unfold numberFieldLength Wire.numberField
  split
  · exact nil
  · exact varint hpos hlt h

theorem textField {s : String} (hpos : 0 < number) (hlt : number < 2 ^ 29)
    (h : textFieldLength number s < 2 ^ 64) :
    Measured (textFieldLength number s) (textField number s) := by
  unfold textFieldLength Wire.textField
  split
  · exact nil
  · rename_i hs
    rw [textFieldLength, if_neg hs] at h
    exact bytes hpos hlt rfl (Nat.lt_of_le_of_lt le_bytesFieldLength h)

/-- One field of bytes for each item of a list. -/
theorem map {α : Type} {items : List α} {encode : α → List UInt8} {size : α → Nat}
    (hpos : 0 < number) (hlt : number < 2 ^ 29)
    (h : totalLength (items.map fun x => bytesFieldLength number (size x)) < 2 ^ 64)
    (hsize : ∀ x ∈ items, size x < 2 ^ 64 → (encode x).length = size x) :
    Measured (totalLength (items.map fun x => bytesFieldLength number (size x)))
      (items.map fun x => ⟨number, .bytes (encode x)⟩) := by
  induction items with
  | nil => exact nil
  | cons x items ih =>
    obtain ⟨hfirst, hsize⟩ := List.forall_mem_cons.1 hsize
    have hx := size_lt_of_totalLength_lt h (List.mem_cons_self ..)
    exact append (bytes hpos hlt (hfirst hx) hx)
      (ih (Nat.lt_of_le_of_lt (Nat.le_add_left ..) h) hsize)

/-- What was written is read. -/
theorem readFields (h : Measured length fs) (levels : Nat) :
    readFields (levels + 1) (encodeFields fs) = some fs :=
  readFields_encodeFields h.fits

end Measured

/-! ## Taking in fields -/

@[simp] theorem text?_bytes (s : String) :
    (Payload.bytes s.toByteArray.data.toList).text? = some s := by
  have hbytes : s.toByteArray.data.toList.toByteArray = s.toByteArray :=
    ByteArray.ext (by rw [List.data_toByteArray, Array.toArray_toList])
  rw [Payload.text?, hbytes, String.fromUTF8?, dif_pos s.isValidUTF8]
  rfl

section Fold

variable {σ : Type} {step : σ → Field → Option σ} {r r' : σ}

theorem foldlM_textField {s : String} (hempty : s = "" → r = r')
    (hstep : step r ⟨number, .bytes s.toUTF8.data.toList⟩ = some r') :
    (textField number s).foldlM step r = some r' := by
  unfold textField
  split
  · rename_i hs
    rw [hempty (String.isEmpty_iff.1 hs)]
    rfl
  · rw [List.foldlM_cons, hstep]
    rfl

theorem foldlM_numberField {n : Nat} (hzero : n = 0 → r = r')
    (hstep : step r ⟨number, .varint n⟩ = some r') :
    (numberField number n).foldlM step r = some r' := by
  unfold numberField
  split
  · rename_i hn
    rw [hzero hn]
    rfl
  · rw [List.foldlM_cons, hstep]
    rfl

/-- Items that are added at the end, one after the other. -/
theorem foldlM_items {α : Type} {items : List α} {field : α → Field} (put : List α → σ)
    (hstep : ∀ before, ∀ x ∈ items, step (put before) (field x) = some (put (before ++ [x])))
    (before : List α) :
    (items.map field).foldlM step (put before) = some (put (before ++ items)) := by
  induction items generalizing before with
  | nil => simp
  | cons x items ih =>
    rw [List.map_cons, List.foldlM_cons, hstep before x (List.mem_cons_self ..),
      List.append_cons before x items]
    exact ih (fun before y hy => hstep before y (List.mem_cons_of_mem _ hy)) _

end Fold

/-! ## Signed numbers -/

@[simp] theorem toSigned64_signed64 (n : Int64) : toSigned64 (signed64 n) = n := by
  simp [toSigned64, signed64]

@[simp] theorem toSigned32_signed32 (n : Int32) : toSigned32 (signed32 n) = n := by
  refine Int32.toBitVec.inj ?_
  ext i hi
  simp [toSigned32, signed32, signed64, BitVec.getLsbD_signExtend, hi]
  omega

theorem eq_zero_of_signed64 {n : Int64} (h : signed64 n = 0) : n = 0 := by
  rw [← toSigned64_signed64 n, h]
  rfl

theorem eq_zero_of_signed32 {n : Int32} (h : signed32 n = 0) : n = 0 := by
  rw [← toSigned32_signed32 n, h]
  rfl

theorem signed64_lt (n : Int64) : signed64 n < 2 ^ 64 := n.toUInt64.toNat_lt

/-! ## Addresses -/

namespace AddressRecord

variable {r : AddressRecord}

theorem measured (h : r.encodedLength < 2 ^ 64) : Measured r.encodedLength r.fields := by
  have hhost : textFieldLength 1 r.host < 2 ^ 64 := Nat.lt_of_le_of_lt (Nat.le_add_right ..) h
  have hport := r.port.toNat_lt
  exact (Measured.textField (by decide) (by decide) hhost).append
    (Measured.numberField (by decide) (by decide) (by omega))

theorem foldlM_fields (r : AddressRecord) : r.fields.foldlM apply {} = some r := by
  obtain ⟨host, port⟩ := r
  have hhost : (textField 1 host).foldlM apply {} = some { host } :=
    foldlM_textField (by rintro rfl; rfl) (by simp [apply])
  have hport : (numberField 2 port.toNat).foldlM apply { host } = some ⟨host, port⟩ :=
    foldlM_numberField (fun h => by rw [UInt32.toNat_inj.1 (h.trans UInt32.toNat_zero.symm)])
      (by simp [apply, Payload.varint?])
  rw [fields, List.foldlM_append, hhost]
  exact hport

theorem merge_encode (h : r.encodedLength < 2 ^ 64) (levels : Nat) :
    merge (levels + 1) {} r.encode = some r := by
  rw [merge, encode, (measured h).readFields]
  exact r.foldlM_fields

end AddressRecord

/-! ## Member tables -/

namespace MemberRecord

variable {r : MemberRecord}

theorem address_lt (h : r.encodedLength < 2 ^ 64) {a : AddressRecord} (ha : r.address = some a) :
    a.encodedLength < 2 ^ 64 := by
  rw [encodedLength, ha] at h
  exact Nat.lt_of_le_of_lt (Nat.le_trans le_bytesFieldLength (Nat.le_add_left ..)) h

theorem measured (h : r.encodedLength < 2 ^ 64) : Measured r.encodedLength r.fields := by
  have halive : r.isAlive.toNat < 2 ^ 64 := Nat.lt_of_le_of_lt r.isAlive.toNat_le (by decide)
  refine Measured.append (Measured.append (Measured.append (Measured.append ?_ ?_) ?_) ?_) ?_
  · exact .textField (by decide) (by decide) (by rw [encodedLength] at h; omega)
  · exact .numberField (by decide) (by decide) (signed64_lt _)
  · exact .numberField (by decide) (by decide) (signed64_lt _)
  · exact .numberField (by decide) (by decide) halive
  · cases haddress : r.address with
    | none => exact .nil
    | some a =>
      have hlt := address_lt h haddress
      exact .bytes (by decide) (by decide) (AddressRecord.measured hlt).length_eq hlt

theorem foldlM_fields (levels : Nat) (h : r.encodedLength < 2 ^ 64) :
    r.fields.foldlM (apply (levels + 2)) {} = some r := by
  have haddress := fun a => address_lt h (a := a)
  obtain ⟨id, timeStamp, state, isAlive, address⟩ := r
  have hid : (textField 1 id).foldlM (apply (levels + 2)) {} = some { id } :=
    foldlM_textField (by rintro rfl; rfl) (by simp [apply])
  have htime : (numberField 2 (signed64 timeStamp)).foldlM (apply (levels + 2)) { id }
      = some { id, timeStamp } :=
    foldlM_numberField (fun h => by rw [eq_zero_of_signed64 h]) (by simp [apply, Payload.varint?])
  have hstate : (numberField 3 (signed32 state)).foldlM (apply (levels + 2)) { id, timeStamp }
      = some { id, timeStamp, state } :=
    foldlM_numberField (fun h => by rw [eq_zero_of_signed32 h]) (by simp [apply, Payload.varint?])
  have halive : (numberField 4 isAlive.toNat).foldlM (apply (levels + 2)) { id, timeStamp, state }
      = some { id, timeStamp, state, isAlive } := by
    cases isAlive <;> rfl
  have haddress : (address.toList.map fun a => (⟨5, .bytes a.encode⟩ : Field)).foldlM
      (apply (levels + 2)) { id, timeStamp, state, isAlive }
      = some ⟨id, timeStamp, state, isAlive, address⟩ := by
    cases address with
    | none => rfl
    | some a => simp [apply, AddressRecord.merge_encode (haddress a rfl)]
  simp only [fields, List.foldlM_append, hid, htime, hstate, halive, haddress, Option.bind_eq_bind,
    Option.bind_some]

theorem decode_encode (levels : Nat) (h : r.encodedLength < 2 ^ 64) :
    decode (levels + 2) r.encode = some r := by
  rw [decode, encode, (measured h).readFields]
  exact foldlM_fields levels h

end MemberRecord

namespace MemberTable

variable {t : MemberTable}

theorem measured (h : t.encodedLength < 2 ^ 64) : Measured t.encodedLength t.fields :=
  .map (by decide) (by decide) h fun _ _ hm => (MemberRecord.measured hm).length_eq

/-- **A member table is read as it was written.** -/
theorem decode_encode (h : t.encodedLength < 2 ^ 64) : decode t.encode = some t := by
  rw [decode, encode, nestingLimit, (measured h).readFields]
  refine foldlM_items MemberTable.mk (fun before m hm => ?_) []
  have hm := MemberRecord.decode_encode 97 (size_lt_of_totalLength_lt h hm)
  simp [apply, nestingLimit, hm]

end MemberTable

/-! ## Capabilities -/

variable {m : SupportedMethod} {s : MethodTable}

theorem measured_method (h : methodLength m < 2 ^ 64) :
    Measured (methodLength m) (methodFields m) := by
  rw [methodLength] at h
  refine Measured.append (Measured.append ?_ ?_) ?_
  · exact .textField (by decide) (by decide) (by omega)
  · exact .textField (by decide) (by decide) (by omega)
  · exact .map (by decide) (by decide) (by omega) fun _ _ _ => rfl

theorem foldlM_methodFields (m : SupportedMethod) :
    (methodFields m).foldlM applyMethodField ⟨"", "", []⟩ = some m := by
  obtain ⟨service, method, features⟩ := m
  have hname : (textField 1 method).foldlM applyMethodField ⟨"", "", []⟩
      = some ⟨"", method, []⟩ :=
    foldlM_textField (by rintro rfl; rfl) (by simp [applyMethodField])
  have hservice : (textField 2 service).foldlM applyMethodField ⟨"", method, []⟩
      = some ⟨service, method, []⟩ :=
    foldlM_textField (by rintro rfl; rfl) (by simp [applyMethodField])
  simp only [methodFields, List.foldlM_append, hname, hservice, Option.bind_eq_bind,
    Option.bind_some]
  exact foldlM_items (SupportedMethod.mk service method)
    (fun before f _ => by simp [applyMethodField]) []

theorem decodeMethod_encode (levels : Nat) (h : methodLength m < 2 ^ 64) :
    decodeMethod (levels + 1) (encodeMethod m) = some m := by
  rw [decodeMethod, encodeMethod, (measured_method h).readFields]
  exact foldlM_methodFields m

theorem measured_methodTable (h : methodTableLength s < 2 ^ 64) :
    Measured (methodTableLength s) (methodTableFields s) := by
  rw [methodTableLength] at h
  refine Measured.append ?_ ?_
  · exact .map (by decide) (by decide) (by omega) fun _ _ hm => (measured_method hm).length_eq
  · exact .textField (by decide) (by decide) (by omega)

/-- **A capabilities reply is read as it was written.** -/
theorem decodeMethodTable_encode (h : methodTableLength s < 2 ^ 64) :
    decodeMethodTable (encodeMethodTable s) = some s := by
  rw [decodeMethodTable, encodeMethodTable, nestingLimit, (measured_methodTable h).readFields]
  obtain ⟨methods, version⟩ := s
  have hmethods : (methods.map fun m => (⟨1, .bytes (encodeMethod m)⟩ : Field)).foldlM
      applyMethodTableField ⟨[], ""⟩ = some ⟨methods, ""⟩ := by
    refine foldlM_items (MethodTable.mk · "") (fun before m hm => ?_) []
    have hlt := size_lt_of_totalLength_lt (Nat.lt_of_le_of_lt (Nat.le_add_right ..) h) hm
    simp [applyMethodTableField, nestingLimit, decodeMethod_encode 98 hlt]
  have hversion : (textField 2 version).foldlM applyMethodTableField ⟨methods, ""⟩
      = some ⟨methods, version⟩ :=
    foldlM_textField (by rintro rfl; rfl) (by simp [applyMethodTableField])
  simp only [methodTableFields, List.foldlM_append, hmethods, hversion, Option.bind_eq_bind,
    Option.bind_some]

/-! ## Members -/

namespace MemberRecord

/-- Whether the record has an address that can be used. -/
def hasUsableAddress (r : MemberRecord) : Bool :=
  r.address.any fun a => a.host != "" && a.port.toNat ≤ 65535

/-- **The member is the one that the record describes.** -/
structure Describes (r : MemberRecord) (m : Member) : Prop where
  id : m.id = r.id
  address : ∃ a, r.address = some a ∧ m.endpoint.host = a.host
    ∧ m.endpoint.port.toNat = a.port.toNat
  state : (∃ s : NodeState, r.state.toInt = s.number ∧ m.state = s)
    ∨ (∀ s : NodeState, r.state.toInt ≠ s.number) ∧ m.state = .unknown
  isAlive : m.isAlive = r.isAlive

theorem role_cases (r : MemberRecord) : (∃ s : NodeState, r.state.toInt = s.number ∧ r.role = s)
    ∨ (∀ s : NodeState, r.state.toInt ≠ s.number) ∧ r.role = .unknown := by
  unfold role NodeState.ofNumber
  cases hs : NodeState.ofNumber? r.state.toInt with
  | some s => exact .inl ⟨s, NodeState.ofNumber?_eq_some_iff.1 hs, rfl⟩
  | none =>
    refine .inr ⟨fun s h => ?_, rfl⟩
    cases hs.symm.trans (NodeState.ofNumber?_eq_some_iff.2 h)

theorem hasUsableAddress_iff {r : MemberRecord} : r.hasUsableAddress = true ↔
    ∃ a, r.address = some a ∧ a.host ≠ "" ∧ a.port.toNat ≤ 65535 := by
  unfold hasUsableAddress
  cases r.address <;> simp

/-- A record describes a member exactly if its address can be used. -/
theorem member?_cases (r : MemberRecord) :
    r.hasUsableAddress = true ∧ (∃ m, r.member? = some m ∧ r.Describes m)
      ∨ r.hasUsableAddress = false ∧ r.member? = none := by
  cases hm : r.member? with
  | some m =>
    obtain ⟨a, ha, hhost, hport, rfl⟩ := member?_eq_some_iff.1 hm
    refine .inl ⟨hasUsableAddress_iff.2 ⟨a, ha, hhost, hport⟩, _, rfl, rfl,
      ⟨a, ha, rfl, ?_⟩, r.role_cases, rfl⟩
    rw [UInt16.toNat_ofNat']
    omega
  | none =>
    refine .inr ⟨Bool.eq_false_iff.2 fun h => ?_, rfl⟩
    obtain ⟨a, ha, hhost, hport⟩ := hasUsableAddress_iff.1 h
    cases hm.symm.trans (member?_eq_some_iff.2 ⟨a, ha, hhost, hport, rfl⟩)

/-- A node that has a host describes itself. -/
theorem member?_describing {e : EndPoint} (h : e.host ≠ "") (state : NodeState) (isAlive : Bool) :
    (describing e state isAlive).member? = some ⟨"node-" ++ e.display, e, state, isAlive⟩ := by
  have hport := e.port.toNat_lt
  have hstate : (Int32.ofNat state.number).toInt = state.number := by cases state <;> rfl
  refine member?_eq_some_iff.2 ⟨_, rfl, h, ?_, ?_⟩
  · rw [UInt16.toNat_toUInt32]
    omega
  · simp [describing, role, hstate, NodeState.ofNumber]

end MemberRecord

namespace MemberTable

/-- The table in which nodes describe themselves. -/
def ofNodes (nodes : List (EndPoint × NodeState × Bool)) : MemberTable :=
  ⟨nodes.map fun n => .describing n.1 n.2.1 n.2.2⟩

theorem usable_ofNodes {nodes : List (EndPoint × NodeState × Bool)}
    (h : ∀ n ∈ nodes, n.1.host ≠ "") :
    (ofNodes nodes).usable = nodes.map fun n =>
      ⟨"node-" ++ n.1.display, n.1, n.2.1, n.2.2⟩ := by
  rw [usable, ofNodes, List.filterMap_map, ← List.filterMap_eq_map]
  exact List.filterMap_congr fun n hn => MemberRecord.member?_describing (h n hn) ..

/-- **The members of a table** are those that its records describe, in order, of the records that
have an address that can be used. -/
theorem forall₂_usable (t : MemberTable) :
    List.Forall₂ MemberRecord.Describes (t.members.filter MemberRecord.hasUsableAddress)
      t.usable := by
  rw [usable]
  induction t.members with
  | nil => exact .nil
  | cons r rs ih =>
    obtain ⟨husable, m, hm, hdescribes⟩ | ⟨husable, hm⟩ := r.member?_cases
    · rw [List.filter_cons_of_pos husable, List.filterMap_cons_some hm]
      exact .cons hdescribes ih
    · rw [List.filter_cons_of_neg (by simp [husable]), List.filterMap_cons_none hm]
      exact ih

end MemberTable

/-! ## Whole replies -/

/-- **Replies are read as they were written.** Any member table and any capabilities reply, of a
length that 64 bits can tell, is read again from its bytes, of which there are as many as was
computed. Nodes that describe themselves and have a host are heard of in order, and of any table
exactly the members with an address that can be used. -/
theorem replies_roundTrip (t : MemberTable) (s : MethodTable)
    (nodes : List (EndPoint × NodeState × Bool)) (ht : t.encodedLength < 2 ^ 64)
    (hs : methodTableLength s < 2 ^ 64)
    (hnodes : (MemberTable.ofNodes nodes).encodedLength < 2 ^ 64)
    (hhosts : ∀ n ∈ nodes, n.1.host ≠ "") :
    (MemberTable.decode t.encode = some t ∧ t.encode.length = t.encodedLength)
      ∧ (decodeMethodTable (encodeMethodTable s) = some s
        ∧ (encodeMethodTable s).length = methodTableLength s)
      ∧ (MemberTable.decode (MemberTable.ofNodes nodes).encode).map MemberTable.usable
        = some (nodes.map fun n => ⟨"node-" ++ n.1.display, n.1, n.2.1, n.2.2⟩)
      ∧ ∃ members, (MemberTable.decode t.encode).map MemberTable.usable = some members
        ∧ List.Forall₂ MemberRecord.Describes (t.members.filter MemberRecord.hasUsableAddress)
          members := by
  refine ⟨⟨MemberTable.decode_encode ht, (MemberTable.measured ht).length_eq⟩,
    ⟨decodeMethodTable_encode hs, (measured_methodTable hs).length_eq⟩, ?_, t.usable, ?_,
    t.forall₂_usable⟩
  · rw [MemberTable.decode_encode hnodes, Option.map_some, MemberTable.usable_ofNodes hhosts]
  · rw [MemberTable.decode_encode ht, Option.map_some]

/-- A table with a negative time stamp, a role that is not known, and an address that is there but
empty. -/
def oddTable : MemberTable :=
  ⟨[⟨"nœud", -1, -7, true, some ⟨"", 70000⟩⟩,
    ⟨"", 0, 0, false, some ⟨"", 0⟩⟩, {}]⟩

/-- A capabilities reply with an empty feature and a method without a name. -/
def oddMethods : MethodTable :=
  ⟨[⟨"streams", "append", ["", "batch"]⟩, ⟨"", "", []⟩], ""⟩

theorem replies_roundTrip_of_odd :
    (oddTable.encodedLength < 2 ^ 64 ∧ methodTableLength oddMethods < 2 ^ 64)
    ∧ MemberTable.decode oddTable.encode = some oddTable
    ∧ decodeMethodTable (encodeMethodTable oddMethods) = some oddMethods
    ∧ (MemberTable.decode (MemberTable.ofNodes [(⟨"A", 1⟩, .leader, true)]).encode).map
        MemberTable.usable = some [⟨"node-A:1", ⟨"A", 1⟩, .leader, true⟩] := by
  have ht : oddTable.encodedLength < 2 ^ 64 := by decide +kernel
  have hs : methodTableLength oddMethods < 2 ^ 64 := by decide +kernel
  obtain ⟨hmembers, hmethods, hnodes, _⟩ := replies_roundTrip oddTable oddMethods
    [(⟨"A", 1⟩, .leader, true)] ht hs (by decide +kernel) (by decide)
  exact ⟨⟨ht, hs⟩, hmembers.1, hmethods.1, hnodes⟩

end ClusterLink.Wire
