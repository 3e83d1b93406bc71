import ClusterLink.Text.Split

/-!
# Addresses a channel can be made for

A channel is made for a web address, `http` or `https`, two slashes, and a node's endpoint. The
endpoint stands where such an address names its authority, up to the first slash, question mark or
number sign; what follows is read as a path and a query. An address with a character that has no
place there is refused, and so is an authority with

* more than one colon outside brackets, or more than eight in all,
* brackets that are not one matching pair,
* a percent sign outside the user information and the brackets, or
* nothing in it, or nothing after its last `@`.
-/

namespace ClusterLink.Address

/-! ## Characters -/

/-- Whether the character may stand in an authority as it is. -/
def isAuthorityChar (c : Char) : Bool :=
  c.isAlphanum || "!$&'()*+,-.:;=@[]_~".toList.contains c

/-- Whether the character ends an authority. -/
def endsAuthority (c : Char) : Bool := c == '/' || c == '?' || c == '#'

/-- Whether the character may stand in a path. Quotes and braces may, unescaped as they are. -/
def isPathChar (c : Char) : Bool :=
  (0x21 ≤ c.toNat && c.toNat != 0x3c && c.toNat != 0x3e && c.toNat != 0x60)
    && c != '?' && c != '#'

/-- Whether the character may stand in a query. The delete character, which a path may hold, may
not. -/
def isQueryChar (c : Char) : Bool :=
  0x21 ≤ c.toNat && c.toNat != 0x22 && c.toNat != 0x3c && c.toNat != 0x3e && c.toNat != 0x7f
    && c != '#'

/-! ## The authority -/

/-- What has been seen of an authority. -/
structure Seen where
  /-- Colons since the last `@` or closing bracket. -/
  colons : Nat := 0
  opened : Bool := false
  closed : Bool := false
  /-- Whether a percent sign stands in a place not yet known to be harmless. -/
  percent : Bool := false
  /-- Whether the last character was an `@`. -/
  atEnd : Bool := false

/-- Takes in one character of an authority. -/
def Seen.step (s : Seen) (c : Char) : Option Seen :=
  let s := { s with atEnd := c == '@' }
  match c with
  | ':' => if 8 ≤ s.colons then none else some { s with colons := s.colons + 1 }
  | '[' => if s.percent || s.opened then none else some { s with opened := true }
  | ']' =>
    if !s.opened || s.closed then none
    else some { s with closed := true, colons := 0, percent := false }
  | '@' => some { s with colons := 0, percent := false }
  | '%' => some { s with percent := true }
  | _ => if isAuthorityChar c then some s else none

/-- Whether an authority may end here. -/
def Seen.isComplete (s : Seen) : Bool :=
  s.opened == s.closed && s.colons ≤ 1 && !s.atEnd && !s.percent

/-- Whether the text is an authority. -/
def isAuthority (cs : List Char) : Bool :=
  !cs.isEmpty && (cs.foldlM Seen.step {}).any Seen.isComplete

/-- The host that an authority names: what follows its last `@`, up to the bracket that closes it
or else up to the first colon. -/
def hostOf (cs : List Char) : List Char :=
  let rest := ((Text.splitLast? '@' cs).map (·.2)).getD cs
  if rest.head? == some '[' then rest.takeWhile (· != ']') ++ [']']
  else rest.takeWhile (· != ':')

/-! ## The rest -/

/-- Whether the text can follow an authority: a path and perhaps a query, each ended by a number
sign, after which anything goes. -/
def isTail (cs : List Char) : Bool :=
  match cs.dropWhile isPathChar with
  | [] => true
  | '?' :: query =>
    match query.dropWhile isQueryChar with
    | [] => true
    | c :: _ => c == '#'
  | c :: _ => c == '#'

/-- The authority of an address, given without its scheme. -/
def authority (s : String) : List Char := s.toList.takeWhile (!endsAuthority ·)

/-- The longest address, in bytes. -/
def maxLength : Nat := 65534

/-- **Whether a channel can be made for an address**, given without its scheme, two slashes
included. `schemeLength` counts the bytes of those. -/
def isValid (schemeLength : Nat) (s : String) : Bool :=
  schemeLength + s.utf8ByteSize ≤ maxLength
    && isAuthority (authority s)
    && isTail (s.toList.dropWhile (!endsAuthority ·))

end ClusterLink.Address
