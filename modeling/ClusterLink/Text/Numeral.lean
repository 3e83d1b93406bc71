/-!
# Decimal numerals

Ports are written in decimal. A numeral is a non-empty run of ASCII digits, with a leading plus
sign allowed. Reading one under a limit has three ways to fail, and they are told apart: nothing to
read, a character that is no digit, and a value above the limit.

Digits are consumed from the left and the first failure wins, so `99999x` is too large for a
16-bit port while `9999x` has an invalid digit.
-/

namespace ClusterLink.Text

/-- Why a text is not a numeral within the limit. -/
inductive NumeralError where
  | empty
  | invalidDigit
  | tooLarge
  deriving DecidableEq, Repr

/-- The wording of a failed reading. -/
def NumeralError.message : NumeralError → String
  | .empty => "cannot parse integer from empty string"
  | .invalidDigit => "invalid digit found in string"
  | .tooLarge => "number too large to fit in target type"

/-- The value of an ASCII digit. -/
def digit? (c : Char) : Option Nat :=
  if '0' ≤ c ∧ c ≤ '9' then some (c.toNat - '0'.toNat) else none

/-- Reads digits on top of the value `acc` of those already read. -/
def readDigits (limit : Nat) (acc : Nat) : List Char → Except NumeralError Nat
  | [] => .ok acc
  | c :: rest =>
    match digit? c with
    | none => .error .invalidDigit
    | some d =>
      if limit < acc * 10 + d then .error .tooLarge else readDigits limit (acc * 10 + d) rest

/-- **Reads a decimal numeral no larger than `limit`.** A plus sign may lead; a sign alone is no
numeral. -/
def readNumeral (limit : Nat) : List Char → Except NumeralError Nat
  | [] => .error .empty
  | ['+'] => .error .invalidDigit
  | '+' :: rest => readDigits limit 0 rest
  | cs => readDigits limit 0 cs

end ClusterLink.Text
