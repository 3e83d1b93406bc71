/-!
# Durations

A duration is a whole number of nanoseconds below `2 ^ 64` seconds. Timeouts and delays are
durations. An instant is told as the nanoseconds since a fixed start, and has no bound.

Delays grow by a floating-point factor, so a duration can be read as a double-precision number of
seconds (`seconds`) and such a number can be rounded back (`ofSeconds?`). The way back is exact
before it rounds: a double is a whole number times a power of two, and that product, scaled to
nanoseconds, goes to the nearest whole number, a half to the even one.
-/

namespace ClusterLink

/-- Nanoseconds in a second. -/
def nanosPerSecond : Nat := 1000000000

/-- Nanoseconds in a millisecond. -/
def nanosPerMilli : Nat := 1000000

/-- Nanoseconds in `2 ^ 64` seconds: every duration is shorter. -/
def durationLimit : Nat := 18446744073709551616000000000

/-- **A moment**, as the nanoseconds since a fixed start. -/
abbrev Instant := Nat

/-- **A span of time**, in nanoseconds. -/
structure Duration where
  nanos : Nat
  /-- A duration is shorter than `2 ^ 64` seconds. -/
  nanos_lt : nanos < durationLimit := by decide
  deriving DecidableEq, Repr

namespace Duration

/-- The longest duration. -/
def max : Duration := ⟨durationLimit - 1, by decide⟩

def zero : Duration := ⟨0, by decide⟩

instance : Inhabited Duration := ⟨zero⟩

/-- The duration of that many nanoseconds, the longest one where there is none. -/
def ofNanos (n : Nat) : Duration :=
  if h : n < durationLimit then ⟨n, h⟩ else max

/-- The duration of that many milliseconds, the longest one where there is none. -/
def ofMillis (n : Nat) : Duration := ofNanos (n * nanosPerMilli)

/-- The time from one instant to a later one; zero if it is not later. -/
def between (start stop : Instant) : Duration := ofNanos (stop - start)

def isZero (d : Duration) : Bool := d.nanos == 0

/-- Whole milliseconds, the rest dropped. -/
def millis (d : Duration) : Nat := d.nanos / nanosPerMilli

/-- Milliseconds, a started one counted in full: timers have this resolution. -/
def millisUp (d : Duration) : Nat := (d.nanos + (nanosPerMilli - 1)) / nanosPerMilli

/-- Whole seconds, the rest dropped. -/
def wholeSeconds (d : Duration) : Nat := d.nanos / nanosPerSecond

/-- Nanoseconds beyond the whole seconds. -/
def subsecNanos (d : Duration) : Nat := d.nanos % nanosPerSecond

/-- The shorter of two durations. -/
def min (d e : Duration) : Duration := if d.nanos ≤ e.nanos then d else e

/-- **The duration as seconds in double precision**: whole seconds and the fraction are converted
apart and added, each step rounding. -/
def seconds (d : Duration) : Float :=
  (UInt64.ofNat d.wholeSeconds).toFloat
    + (UInt64.ofNat d.subsecNanos).toFloat / (UInt64.ofNat nanosPerSecond).toFloat

theorem isZero_eq_false_iff {d : Duration} : d.isZero = false ↔ 0 < d.nanos := by
  simp [isZero, Nat.pos_iff_ne_zero]

theorem any_isZero_eq_false_iff {x : Option Duration} :
    x.any Duration.isZero = false ↔ ∀ d ∈ x, d.isZero = false := by
  cases x <;> simp

@[simp] theorem nanos_min (d e : Duration) : (d.min e).nanos = Nat.min d.nanos e.nanos := by
  unfold min
  split
  · exact (Nat.min_eq_left ‹_›).symm
  · exact (Nat.min_eq_right (by omega)).symm

@[simp] theorem nanos_ofNanos_of_lt {n : Nat} (h : n < durationLimit) :
    (ofNanos n).nanos = n := by
  unfold ofNanos
  rw [dif_pos h]

end Duration

/-! ## Doubles as exact numbers -/

/-- A non-negative double read exactly, `mantissa * 2 ^ exponent`. -/
structure ExactDouble where
  mantissa : Nat
  exponent : Int
  deriving DecidableEq, Repr

/-- Where a double lies: no number, below zero, beyond all numbers, or a number that is not
negative. The negative zero is the number zero. -/
inductive DoubleClass where
  | notANumber
  | negative
  | infinite
  | number (value : ExactDouble)
  deriving DecidableEq, Repr

/-- What the lowest bit of the exponent counts for in the bits of a double: `2 ^ 52`. -/
def fractionUnits : Nat := 0x10000000000000

/-- What the sign bit counts for in the bits of a double: `2 ^ 63`. -/
def signUnit : Nat := 0x8000000000000000

/-- **Reads a double exactly**, from its sign bit, eleven bits of exponent and fifty-two bits of
fraction. -/
def classifyDouble (x : Float) : DoubleClass :=
  let bits := x.toBits.toNat
  let fraction := bits % fractionUnits
  let biased := bits / fractionUnits % 0x800
  let isNegative := decide (signUnit ≤ bits)
  if biased = 0x7ff then
    if fraction ≠ 0 then .notANumber else if isNegative then .negative else .infinite
  else if biased = 0 then
    if isNegative && fraction != 0 then .negative else .number ⟨fraction, -1074⟩
  else if isNegative then .negative
  else .number ⟨fraction + fractionUnits, Int.ofNat biased - 1075⟩

/-- The whole number nearest to `numerator / denominator`, a half going to the even one. -/
def roundDivEven (numerator denominator : Nat) : Nat :=
  let quotient := numerator / denominator
  let rest := 2 * (numerator % denominator)
  if rest < denominator then quotient
  else if denominator < rest then quotient + 1
  else quotient + quotient % 2

/-- The whole number nearest to `scale` times an exact double, a half going to the even one. -/
def ExactDouble.roundScaled (scale : Nat) (x : ExactDouble) : Nat :=
  if 0 ≤ x.exponent then x.mantissa * scale * Nat.pow 2 x.exponent.toNat
  else roundDivEven (x.mantissa * scale) (Nat.pow 2 (-x.exponent).toNat)

/-- **The duration nearest to a number of seconds**, a half nanosecond going to the even one. There
is none for a negative number, one beyond the longest duration, or what is no number. -/
def Duration.ofSeconds? (x : Float) : Option Duration :=
  match classifyDouble x with
  | .number value =>
    let nanos := value.roundScaled nanosPerSecond
    if h : nanos < durationLimit then some ⟨nanos, h⟩ else none
  | _ => none

/-! ## Text -/

/-- A number of `10 ^ places` parts, with a point and without trailing zeros. -/
def pointed (n places : Nat) : String :=
  let whole := n / Nat.pow 10 places
  let fraction := n % Nat.pow 10 places
  if fraction = 0 then toString whole
  else
    let ds := (toString fraction).toList
    let padded := List.replicate (places - ds.length) '0' ++ ds
    toString whole ++ "."
      ++ String.ofList (padded.reverse.dropWhile (· == '0')).reverse

/-- **The brief text of a duration**, in the largest of seconds, milliseconds, microseconds and
nanoseconds of which it holds at least one. -/
def Duration.brief (d : Duration) : String :=
  if nanosPerSecond ≤ d.nanos then pointed d.nanos 9 ++ "s"
  else if nanosPerMilli ≤ d.nanos then pointed d.nanos 6 ++ "ms"
  else if 1000 ≤ d.nanos then pointed d.nanos 3 ++ "µs"
  else toString d.nanos ++ "ns"

/-! ## Rounding -/

/-- The rounded quotient is within half a unit of the exact one. -/
theorem roundDivEven_near (n d : Nat) (hd : 0 < d) :
    2 * n ≤ 2 * d * roundDivEven n d + d ∧ 2 * d * roundDivEven n d ≤ 2 * n + d := by
  have hdiv : d * (n / d) + n % d = n := Nat.div_add_mod n d
  have hmod : n % d < d := Nat.mod_lt n hd
  have hparity : n / d % 2 = 0 ∨ n / d % 2 = 1 := Nat.mod_two_eq_zero_or_one _
  unfold roundDivEven
  simp only
  split
  · constructor <;> rw [Nat.mul_assoc] <;> omega
  · split
    · rw [Nat.mul_assoc, Nat.mul_add, Nat.mul_one]
      omega
    · rcases hparity with h | h <;> rw [h, Nat.mul_assoc, Nat.mul_add] <;> omega

end ClusterLink
