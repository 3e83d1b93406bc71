import ClusterLink.Time.Duration

/-!
# The shortest decimal of a double

A double stands for every real number that rounds to it, an interval around its value. Among the
decimals in that interval the shortest is the point on the coarsest grid of powers of ten that meets
the interval; of two such points on one grid the nearer is taken.

`Float.brief` writes that decimal with a point for magnitudes from `10 ^ -4` up to `10 ^ 16`, and
with an exponent outside that range. A whole number keeps one zero after the point.
-/

namespace ClusterLink.Decimal

/-- A decimal number, `digits * 10 ^ exponent`. -/
structure Scaled where
  digits : Nat
  exponent : Int
  deriving DecidableEq, Repr

/-- The coarsest grid looked at: no double reaches beyond it. -/
def coarsest : Int := 309

/-- The number of grids between the coarsest and one finer than any double needs. -/
def gridCount : Nat := 309 + 345

/-- **The ends of the interval that rounds to the double**, in quarters of its unit in the last
place. Below a power of two the neighbour is only half as far, so the lower end is nearer there. -/
def interval (x : ExactDouble) : Nat × Nat :=
  if x.mantissa = fractionUnits ∧ -1074 < x.exponent then (4 * x.mantissa - 1, 4 * x.mantissa + 2)
  else (4 * x.mantissa - 2, 4 * x.mantissa + 2)

/-- Two naturals with the quotient of `n * 2 ^ e` and `10 ^ k`. -/
def onGrid (n : Nat) (e k : Int) : Nat × Nat :=
  (n * Nat.pow 2 e.toNat * Nat.pow 10 (-k).toNat, Nat.pow 2 (-e).toNat * Nat.pow 10 k.toNat)

/-- The point of the grid of `10 ^ k` that stands for the double, if the grid has one. -/
def onGrid? (x : ExactDouble) (k : Int) : Option Nat :=
  let (low, high) := interval x
  let isClosed := x.mantissa % 2 = 0
  let (value, unit) := onGrid (4 * x.mantissa) (x.exponent - 2) k
  let lowEnd := (onGrid low (x.exponent - 2) k).1
  let highEnd := (onGrid high (x.exponent - 2) k).1
  let reads (c : Nat) : Bool :=
    if isClosed then lowEnd ≤ c * unit && c * unit ≤ highEnd
    else lowEnd < c * unit && c * unit < highEnd
  let below := value / unit
  let above := below + 1
  match reads below, reads above with
  | true, true =>
    if 2 * value < (below + above) * unit then some below
    else if (below + above) * unit < 2 * value then some above
    else some (below + below % 2)
  | true, false => some below
  | false, true => some above
  | false, false => none

/-- **The shortest decimal of a positive double.** -/
def shortest (x : ExactDouble) : Scaled :=
  let found := (List.range gridCount).findSome? fun (i : Nat) =>
    let k := coarsest - Int.ofNat i
    (onGrid? x k).map fun c => (⟨c, k⟩ : Scaled)
  found.getD ⟨0, 0⟩

/-- The digits of a natural number. -/
def digitsOf (n : Nat) : List Char := (toString n).toList

namespace Scaled

/-- The power of ten of the leading digit. -/
def magnitude (s : Scaled) : Int := (digitsOf s.digits).length - 1 + s.exponent

/-- With a point, and at least one digit on either side of it. -/
def withPoint (s : Scaled) : String :=
  let ds := digitsOf s.digits
  if 0 ≤ s.exponent then String.ofList (ds ++ List.replicate s.exponent.toNat '0') ++ ".0"
  else
    let places := (-s.exponent).toNat
    let padded := List.replicate (places + 1 - ds.length) '0' ++ ds
    let whole := padded.take (padded.length - places)
    let fraction := padded.drop (padded.length - places)
    String.ofList whole ++ "." ++ String.ofList fraction

/-- With an exponent, after one digit and the fraction if there is one. -/
def withExponent (s : Scaled) : String :=
  let ds := digitsOf s.digits
  let fraction := ds.drop 1
  String.ofList (ds.take 1) ++ (if fraction.isEmpty then "" else "." ++ String.ofList fraction)
    ++ "e" ++ toString s.magnitude

end Scaled

/-- The text of a number that is not negative. -/
def briefExact (x : ExactDouble) : String :=
  if x.mantissa = 0 then "0.0"
  else
    let s := shortest x
    if -4 ≤ s.magnitude ∧ s.magnitude < 16 then s.withPoint else s.withExponent

/-- **The brief text of a double.** -/
def brief (x : Float) : String :=
  let isNegative := decide (signUnit ≤ x.toBits.toNat)
  match classifyDouble (if isNegative then -x else x) with
  | .notANumber => "NaN"
  | .infinite => if isNegative then "-inf" else "inf"
  | .negative => "-inf"
  | .number value => (if isNegative then "-" else "") ++ briefExact value

end ClusterLink.Decimal
