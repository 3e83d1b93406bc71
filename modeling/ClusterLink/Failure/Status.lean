import ClusterLink.Text.Case

/-!
# Statuses of remote calls

A remote call that fails ends in a **status**: a code, a message, and metadata the server sent along
as key and value pairs. A key may occur several times, and a value is raw bytes. Only values made of
visible ASCII, spaces and tabs can be read as text; the first value of a key is the one a lookup
sees. Keys compare without regard to case.
-/

namespace ClusterLink

/-- The outcome codes of a remote call. -/
inductive Code where
  | ok
  | cancelled
  | unknown
  | invalidArgument
  | deadlineExceeded
  | notFound
  | alreadyExists
  | permissionDenied
  | resourceExhausted
  | failedPrecondition
  | aborted
  | outOfRange
  | unimplemented
  | internal
  | unavailable
  | dataLoss
  | unauthenticated
  deriving DecidableEq, Repr, Inhabited

namespace Code

/-- All codes, in the order of their numbers. -/
def all : List Code :=
  [.ok, .cancelled, .unknown, .invalidArgument, .deadlineExceeded, .notFound, .alreadyExists,
    .permissionDenied, .resourceExhausted, .failedPrecondition, .aborted, .outOfRange,
    .unimplemented, .internal, .unavailable, .dataLoss, .unauthenticated]

def name : Code → String
  | .ok => "Ok"
  | .cancelled => "Cancelled"
  | .unknown => "Unknown"
  | .invalidArgument => "InvalidArgument"
  | .deadlineExceeded => "DeadlineExceeded"
  | .notFound => "NotFound"
  | .alreadyExists => "AlreadyExists"
  | .permissionDenied => "PermissionDenied"
  | .resourceExhausted => "ResourceExhausted"
  | .failedPrecondition => "FailedPrecondition"
  | .aborted => "Aborted"
  | .outOfRange => "OutOfRange"
  | .unimplemented => "Unimplemented"
  | .internal => "Internal"
  | .unavailable => "Unavailable"
  | .dataLoss => "DataLoss"
  | .unauthenticated => "Unauthenticated"

/-- The code with the given number; a number no code has stands for `unknown`. -/
def ofNumber (n : Int) : Code :=
  if 0 ≤ n then all.getD n.toNat .unknown else .unknown

/-- The code with the given name. -/
def ofName? (name : String) : Option Code :=
  all.find? (·.name == name)

end Code

/-- Key and value pairs, in the order in which they were added. -/
abbrev Metadata := List (String × List UInt8)

namespace Metadata

/-- Whether the byte is a visible ASCII character, a space or a tab. -/
def isReadable (b : UInt8) : Bool :=
  (0x20 ≤ b && b ≤ 0x7e) || b == 0x09

/-- The text of a value, if every byte of it is readable. -/
def text? (value : List UInt8) : Option (List Char) :=
  if value.all isReadable then some (value.map fun b => Char.ofNat b.toNat) else none

/-- The first value of a key. -/
def first? (m : Metadata) (key : String) : Option (List UInt8) :=
  (m.find? fun entry => Text.equalIgnoringCase entry.1 key).map (·.2)

/-- The text of the first value of a key, if that value is readable. -/
def header? (m : Metadata) (key : String) : Option (List Char) :=
  (m.first? key).bind text?

/-- The first of several keys whose first value is readable gives the text. -/
def firstHeader? (m : Metadata) (keys : List String) : Option (List Char) :=
  keys.findSome? m.header?

end Metadata

/-- **How a remote call failed.** -/
structure Status where
  code : Code
  message : String
  metadata : Metadata := []
  deriving DecidableEq, Repr, Inhabited

end ClusterLink
