import ClusterLink.Node.Selection
import ClusterLink.Wire.Field

/-!
# The gossip reply on the wire

A node answers a gossip read with its member table. Each record has an identifier, a time stamp, a
role as a number, a liveness flag and an optional address. Content equal to the default of its type
is not written. Reading keeps the last of several values of one field, appends members, and merges
the parts of an address given in several fields.

The encoded length is also computed without writing anything (`encodedLength`), since a record
inside another is preceded by its length.

From a record to a member (`MemberRecord.member?`): a record without a usable address is dropped,
because no client could connect to it, and a role that is not known is `unknown`.
-/

namespace ClusterLink.Wire

/-- An address as reported. -/
structure AddressRecord where
  host : String := ""
  port : UInt32 := 0
  deriving DecidableEq, Repr, Inhabited

/-- One row of a member table as reported. -/
structure MemberRecord where
  id : String := ""
  timeStamp : Int64 := 0
  state : Int32 := 0
  isAlive : Bool := false
  address : Option AddressRecord := none
  deriving DecidableEq, Repr, Inhabited

/-- **A member table as reported.** -/
structure MemberTable where
  members : List MemberRecord := []
  deriving DecidableEq, Repr, Inhabited

/-! ## Writing -/

/-- A signed number is written as the unsigned 64-bit number with the same bits. -/
def signed64 (n : Int64) : Nat := n.toUInt64.toNat

/-- A signed 32-bit number is extended to 64 bits first, so negative ones take ten bytes. -/
def signed32 (n : Int32) : Nat := signed64 n.toInt64

/-- The sum of lengths. -/
def totalLength : List Nat → Nat
  | [] => 0
  | n :: ns => n + totalLength ns

/-- The length of a field that holds so many bytes. -/
def bytesFieldLength (number length : Nat) : Nat :=
  varintLength (8 * number + 2) + varintLength length + length

/-- The length of a field that holds a text. -/
def textFieldLength (number : Nat) (s : String) : Nat :=
  if s.isEmpty then 0 else bytesFieldLength number s.utf8ByteSize

/-- The length of a field that holds a number. -/
def numberFieldLength (number n : Nat) : Nat :=
  if n = 0 then 0 else varintLength (8 * number) + varintLength n

namespace AddressRecord

def fields (r : AddressRecord) : List Field :=
  textField 1 r.host ++ numberField 2 r.port.toNat

def encode (r : AddressRecord) : List UInt8 := encodeFields r.fields

def encodedLength (r : AddressRecord) : Nat :=
  textFieldLength 1 r.host + numberFieldLength 2 r.port.toNat

end AddressRecord

namespace MemberRecord

def fields (r : MemberRecord) : List Field :=
  textField 1 r.id ++ numberField 2 (signed64 r.timeStamp) ++ numberField 3 (signed32 r.state)
    ++ numberField 4 r.isAlive.toNat ++ r.address.toList.map fun a => ⟨5, .bytes a.encode⟩

def encode (r : MemberRecord) : List UInt8 := encodeFields r.fields

def encodedLength (r : MemberRecord) : Nat :=
  textFieldLength 1 r.id + numberFieldLength 2 (signed64 r.timeStamp)
    + numberFieldLength 3 (signed32 r.state) + numberFieldLength 4 r.isAlive.toNat
    + (match r.address with
      | none => 0
      | some a => bytesFieldLength 5 a.encodedLength)

end MemberRecord

namespace MemberTable

def fields (t : MemberTable) : List Field := t.members.map fun m => ⟨1, .bytes m.encode⟩

/-- **The bytes of a member table.** -/
def encode (t : MemberTable) : List UInt8 := encodeFields t.fields

/-- **How many bytes a member table takes**, computed without writing it. -/
def encodedLength (t : MemberTable) : Nat :=
  totalLength (t.members.map fun m => bytesFieldLength 1 m.encodedLength)

end MemberTable

/-! ## Reading -/

/-- The signed number with the same 64 bits. -/
def toSigned64 (n : Nat) : Int64 := (UInt64.ofNat n).toInt64

/-- The signed number made of the low 32 bits. -/
def toSigned32 (n : Nat) : Int32 := (UInt32.ofNat n).toInt32

namespace AddressRecord

/-- Takes in one field. A known number with content of another kind makes the record unreadable. -/
def apply (r : AddressRecord) (f : Field) : Option AddressRecord :=
  match f.number with
  | 1 => f.payload.text?.map fun s => { r with host := s }
  | 2 => f.payload.varint?.map fun n => { r with port := UInt32.ofNat n }
  | _ => some r

/-- Takes in the fields of an encoded record. -/
def merge (depth : Nat) (r : AddressRecord) (bs : List UInt8) : Option AddressRecord :=
  (readFields depth bs).bind fun fs => fs.foldlM apply r

end AddressRecord

namespace MemberRecord

/-- Takes in one field. -/
def apply (depth : Nat) (r : MemberRecord) (f : Field) : Option MemberRecord :=
  match f.number with
  | 1 => f.payload.text?.map fun s => { r with id := s }
  | 2 => f.payload.varint?.map fun n => { r with timeStamp := toSigned64 n }
  | 3 => f.payload.varint?.map fun n => { r with state := toSigned32 n }
  | 4 => f.payload.varint?.map fun n => { r with isAlive := n != 0 }
  | 5 =>
    match f.payload with
    | .bytes bs =>
      (AddressRecord.merge (depth - 1) (r.address.getD {}) bs).map fun a =>
        { r with address := some a }
    | _ => none
  | _ => some r

/-- Reads a record. -/
def decode (depth : Nat) (bs : List UInt8) : Option MemberRecord :=
  (readFields depth bs).bind fun fs => fs.foldlM (apply depth) {}

end MemberRecord

namespace MemberTable

/-- Takes in one field. -/
def apply (t : MemberTable) (f : Field) : Option MemberTable :=
  match f.number with
  | 1 =>
    match f.payload with
    | .bytes bs =>
      (MemberRecord.decode (nestingLimit - 1) bs).map fun m =>
        { t with members := t.members ++ [m] }
    | _ => none
  | _ => some t

/-- **Reads a member table.** -/
def decode (bs : List UInt8) : Option MemberTable :=
  (readFields nestingLimit bs).bind fun fs => fs.foldlM apply {}

end MemberTable

/-! ## From records to members -/

namespace MemberRecord

/-- The role of a record; a number that no role has stands for `unknown`. -/
def role (r : MemberRecord) : NodeState := NodeState.ofNumber r.state.toInt

/-- The role as the record itself tells it: a number that no role has stands for the first one. -/
def declaredRole (r : MemberRecord) : NodeState :=
  (NodeState.ofNumber? r.state.toInt).getD .initializing

/-- **The member a record describes**, if its address can be used. -/
def member? (r : MemberRecord) : Option Member :=
  match r.address with
  | none => none
  | some a =>
    match EndPoint.ofAddress a.host a.port.toNat with
    | .error _ => none
    | .ok endpoint => some ⟨r.id, endpoint, r.role, r.isAlive⟩

/-- The record by which a node at `endpoint` describes itself. -/
def describing (endpoint : EndPoint) (state : NodeState) (isAlive : Bool) : MemberRecord where
  id := "node-" ++ endpoint.display
  timeStamp := 0
  state := Int32.ofNat state.number
  isAlive := isAlive
  address := some ⟨endpoint.host, endpoint.port.toUInt32⟩

end MemberRecord

/-- The members a table describes, in order. -/
def MemberTable.usable (t : MemberTable) : List Member := t.members.filterMap MemberRecord.member?

end ClusterLink.Wire
