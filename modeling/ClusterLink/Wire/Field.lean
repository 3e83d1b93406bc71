import ClusterLink.Wire.Varint

/-!
# Fields

A message is a sequence of fields. A field starts with a key, a number that holds the field number
and how the content is written: as a number, as eight or four bytes, as bytes with their length in
front, or as a group, which runs to a closing key of the same field number.

`readFields` divides a message into its fields, with no regard to what they mean; a message type
then folds over them. That keeps fields a type does not know apart from those it does: unknown ones
are read past. Groups are never meaningful here, so only their extent is checked. Nesting is
bounded: `depth` is how many levels of groups and messages may still be opened.
-/

namespace ClusterLink.Wire

/-- How the content of a field is written. -/
inductive WireType where
  | varint
  | fixed64
  | bytes
  | openGroup
  | closeGroup
  | fixed32
  deriving DecidableEq, Repr

namespace WireType

def number : WireType → Nat
  | .varint => 0
  | .fixed64 => 1
  | .bytes => 2
  | .openGroup => 3
  | .closeGroup => 4
  | .fixed32 => 5

def ofNumber? : Nat → Option WireType
  | 0 => some .varint
  | 1 => some .fixed64
  | 2 => some .bytes
  | 3 => some .openGroup
  | 4 => some .closeGroup
  | 5 => some .fixed32
  | _ => none

@[simp] theorem ofNumber?_number (w : WireType) : ofNumber? w.number = some w := by
  cases w <;> rfl

end WireType

/-- The content of a field. -/
inductive Payload where
  | varint (value : Nat)
  | fixed64 (bytes : List UInt8)
  | bytes (bytes : List UInt8)
  /-- A group, of which only the extent was checked. -/
  | group
  | fixed32 (bytes : List UInt8)
  deriving DecidableEq, Repr

/-- **One field of a message.** -/
structure Field where
  number : Nat
  payload : Payload
  deriving DecidableEq, Repr

/-! ## Writing -/

/-- The key of a field. -/
def key (number : Nat) (w : WireType) : List UInt8 := varint (8 * number + w.number)

/-- **The bytes of a field.** An empty group is its two keys. -/
def Field.encode (f : Field) : List UInt8 :=
  match f.payload with
  | .varint value => key f.number .varint ++ varint value
  | .fixed64 bs => key f.number .fixed64 ++ bs
  | .bytes bs => key f.number .bytes ++ varint bs.length ++ bs
  | .group => key f.number .openGroup ++ key f.number .closeGroup
  | .fixed32 bs => key f.number .fixed32 ++ bs

/-- The bytes of a message. -/
def encodeFields (fs : List Field) : List UInt8 := fs.flatMap Field.encode

/-! ## Reading -/

/-- Reads a key: the field number is at least 1 and the whole key fits into 32 bits. -/
def readKey (bs : List UInt8) : Option ((Nat × WireType) × List UInt8) :=
  match readVarint bs with
  | none => none
  | some (k, rest) =>
    if 0x100000000 ≤ k ∨ k / 8 = 0 then none
    else (WireType.ofNumber? (k % 8)).map fun w => ((k / 8, w), rest)

/-- Takes exactly `n` bytes. -/
def takeBytes (n : Nat) (bs : List UInt8) : Option (List UInt8 × List UInt8) :=
  if n ≤ bs.length then some (bs.take n, bs.drop n) else none

/-- Reads content that is no group. -/
def readScalar (w : WireType) (bs : List UInt8) : Option (Payload × List UInt8) :=
  match w with
  | .varint => (readVarint bs).map fun r => (.varint r.1, r.2)
  | .fixed64 => (takeBytes 8 bs).map fun r => (.fixed64 r.1, r.2)
  | .bytes =>
    match readVarint bs with
    | none => none
    | some (n, rest) => (takeBytes n rest).map fun r => (.bytes r.1, r.2)
  | .fixed32 => (takeBytes 4 bs).map fun r => (.fixed32 r.1, r.2)
  | .openGroup | .closeGroup => none

/-- Reads past the rest of a group up to its closing key. Each round uses up at least a key, so the
number of bytes bounds the rounds. -/
def skipGroup : (rounds depth number : Nat) → List UInt8 → Option (List UInt8)
  | 0, _, _, _ => none
  | rounds + 1, depth, number, bs =>
    match readKey bs with
    | none => none
    | some ((n, .closeGroup), rest) => if n = number then some rest else none
    | some ((n, .openGroup), rest) =>
      if depth = 0 then none
      else
        match skipGroup rounds (depth - 1) n rest with
        | none => none
        | some rest => skipGroup rounds depth number rest
    | some ((_, w), rest) =>
      if depth = 0 then none
      else
        match readScalar w rest with
        | none => none
        | some (_, rest) => skipGroup rounds depth number rest

/-- Reads one field. -/
def readField (depth : Nat) (bs : List UInt8) : Option (Field × List UInt8) :=
  match readKey bs with
  | none => none
  | some ((n, .openGroup), rest) =>
    if depth = 0 then none
    else (skipGroup rest.length (depth - 1) n rest).map fun rest => (⟨n, .group⟩, rest)
  | some ((n, w), rest) => (readScalar w rest).map fun r => (⟨n, r.1⟩, r.2)

/-- Reads fields to the end of the bytes, as many as `rounds` allows. -/
def readFieldsWithin : (rounds depth : Nat) → List UInt8 → Option (List Field)
  | _, _, [] => some []
  | 0, _, _ :: _ => none
  | rounds + 1, depth, bs =>
    match readField depth bs with
    | none => none
    | some (f, rest) => (readFieldsWithin rounds depth rest).map (f :: ·)

/-- **Divides a message into its fields.** A field takes at least a byte, so there are no more of
them than bytes. -/
def readFields (depth : Nat) (bs : List UInt8) : Option (List Field) :=
  readFieldsWithin bs.length depth bs

/-- How deep messages and groups may nest. -/
def nestingLimit : Nat := 100

/-! ## Content -/

/-- The text of a field, if it is valid UTF-8. -/
def Payload.text? : Payload → Option String
  | .bytes bs => String.fromUTF8? bs.toByteArray
  | _ => none

/-- The number of a field written as one. -/
def Payload.varint? : Payload → Option Nat
  | .varint n => some n
  | _ => none

/-- The field that holds a text, left out when the text is empty. -/
def textField (number : Nat) (s : String) : List Field :=
  if s.isEmpty then [] else [⟨number, .bytes s.toUTF8.data.toList⟩]

/-- The field that holds a number, left out when the number is zero. -/
def numberField (number n : Nat) : List Field :=
  if n = 0 then [] else [⟨number, .varint n⟩]

end ClusterLink.Wire
