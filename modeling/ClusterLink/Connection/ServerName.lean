import ClusterLink.Connection.Address
import ClusterLink.Text.Numeral
import ClusterLink.Text.Split

/-!
# Names of servers

An encrypted connection is made to a server whose name is known, and the name is the host of its
address. A host is a name in one of three forms.

* A *domain name*: labels of letters, digits, underscores and hyphens, divided by dots. One more
  dot may end it. A name whose last label is a number is none.
* Four decimal bytes, divided by dots.
* Eight groups of hexadecimal digits, divided by colons. Two colons may stand for one or more
  groups of zeros, and four decimal bytes for the last two groups.
-/

namespace ClusterLink.ServerName

/-! ## Domain names -/

/-- The longest domain name, in characters. -/
def maxLength : Nat := 253

/-- The longest label, in characters. -/
def maxLabelLength : Nat := 63

/-- Whether the text is a label of a domain name. Hyphens stand inside it only. -/
def isLabel (cs : List Char) : Bool :=
  !cs.isEmpty && cs.length ≤ maxLabelLength
    && cs.all (fun c => c.isAlphanum || c == '_' || c == '-')
    && cs.head? != some '-' && cs.getLast? != some '-'

/-- The labels of a domain name; the dot that may end it brings no label. -/
def labels (cs : List Char) : List (List Char) :=
  let parts := Text.pieces '.' cs
  if parts.getLast? == some [] then parts.dropLast else parts

/-- **Whether the text is a domain name.** -/
def isDomainName (cs : List Char) : Bool :=
  cs.length ≤ maxLength && (labels cs).all isLabel
    && (labels cs).getLast?.any (!·.all Char.isDigit)

/-! ## Numeric addresses -/

/-- Whether the text is a byte in decimal, written as short as it can be. -/
def isDecimalByte (cs : List Char) : Bool :=
  !cs.isEmpty && cs.length ≤ 3 && (cs.length == 1 || cs.head? != some '0')
    && (Text.readDigits 255 0 cs).isOk

/-- **Whether the text is four decimal bytes.** -/
def isFourBytes (cs : List Char) : Bool :=
  (Text.pieces '.' cs).length == 4 && (Text.pieces '.' cs).all isDecimalByte

/-- Whether the character is a hexadecimal digit. -/
def isHexDigit (c : Char) : Bool :=
  c.isDigit || "abcdefABCDEF".toList.contains c

/-- Whether the text is a group of hexadecimal digits. -/
def isGroup (cs : List Char) : Bool := !cs.isEmpty && cs.length ≤ 4 && cs.all isHexDigit

/-- How many groups a text without two colons in a row stands for, if it is made of groups. Only
the end of an address may be written in bytes. -/
def groupCount? (atEnd : Bool) (cs : List Char) : Option Nat :=
  if cs.isEmpty then some 0
  else
    let parts := Text.pieces ':' cs
    if parts.all isGroup then some parts.length
    else if atEnd && parts.dropLast.all isGroup && parts.getLast?.any isFourBytes then
      some (parts.length + 1)
    else none

/-- The parts before and after the first two colons in a row. -/
def splitGap? : List Char → Option (List Char × List Char)
  | ':' :: ':' :: after => some ([], after)
  | c :: rest => (splitGap? rest).map fun parts => (c :: parts.1, parts.2)
  | [] => none

/-- **Whether the text is eight groups**, some of which may be left out. -/
def isEightGroups (cs : List Char) : Bool :=
  match splitGap? cs with
  | none => groupCount? true cs == some 8
  | some (before, after) =>
    match groupCount? false before, groupCount? true after with
    | some m, some n => m + n < 8
    | _, _ => false

/-! ## Names -/

/-- The text without a pair of brackets around it. -/
def withoutBrackets (cs : List Char) : List Char :=
  match cs with
  | '[' :: rest => if rest.getLast? == some ']' then rest.dropLast else cs
  | _ => cs

/-- **Whether a host can be the name of a server.** -/
def isValid (host : List Char) : Bool :=
  let name := withoutBrackets host
  isDomainName name || isFourBytes name || isEightGroups name

end ClusterLink.ServerName
