import ClusterLink.Failure.Error
import ClusterLink.Time.Duration

/-!
# Backoff between attempts

A client that fails waits before it tries again, and waits longer each time. The delays start from
`initial`, each is the one before times `multiplier`, and none exceeds `max` (`Backoff.current`).
What a client waits is the delay spread at random by up to `jitter` of its length to either side;
the sequence itself goes on from the delay before the spread.

The products are taken in double precision, in seconds, and rounded to nanoseconds. A product that
is no duration counts as `max`.

Randomness is an argument: a draw is a position between the two ends of the spread, in double
precision, 0 at the lower end and 1 at the upper one.
-/

namespace ClusterLink

/-- **The parameters of a sequence of delays.** -/
structure BackoffConfig where
  initial : Duration := Duration.ofMillis 100
  max : Duration := Duration.ofMillis 10000
  multiplier : Float := 1.6
  jitter : Float := 0.2

/-- Why parameters describe no usable sequence. -/
inductive BackoffFlaw where
  | zeroInitial
  | maxBelowInitial
  | badMultiplier
  | badJitter
  deriving DecidableEq, Repr

def BackoffFlaw.message : BackoffFlaw → String
  | .zeroInitial => "initial backoff cannot be zero"
  | .maxBelowInitial => "max backoff must be at least the initial backoff"
  | .badMultiplier => "backoff multiplier must be a finite value >= 1.0"
  | .badJitter => "backoff jitter must be within [0.0, 1.0]"

namespace BackoffConfig

/-- The first flaw of the parameters, if they have one. -/
def flaw? (c : BackoffConfig) : Option BackoffFlaw :=
  if c.initial.isZero then some .zeroInitial
  else if c.max.nanos < c.initial.nanos then some .maxBelowInitial
  else if !(c.multiplier.isFinite && 1.0 ≤ c.multiplier) then some .badMultiplier
  else if !(0.0 ≤ c.jitter && c.jitter ≤ 1.0) then some .badJitter
  else none

/-- Checks that the parameters describe a usable sequence. -/
def validate (c : BackoffConfig) : Except Error Unit :=
  match c.flaw? with
  | some flaw => .error (.config flaw.message)
  | none => .ok ()

/-- There is no flaw if the first check finds none and the others find none either. -/
theorem ite_flaw_eq_none_iff {p : Prop} [Decidable p] {flaw : BackoffFlaw}
    {rest : Option BackoffFlaw} :
    (if p then some flaw else rest) = none ↔ ¬p ∧ rest = none := by
  by_cases h : p <;> simp [h]

/-- **Which parameters are usable.** -/
theorem validate_eq_ok_iff {c : BackoffConfig} : c.validate = .ok () ↔ c.initial.isZero = false
    ∧ c.initial.nanos ≤ c.max.nanos ∧ (c.multiplier.isFinite = true ∧ 1.0 ≤ c.multiplier)
    ∧ 0.0 ≤ c.jitter ∧ c.jitter ≤ 1.0 := by
  have hflaw : c.validate = .ok () ↔ c.flaw? = none := by
    unfold validate
    cases c.flaw? <;> simp
  rw [hflaw]
  simp [flaw?, ite_flaw_eq_none_iff]

end BackoffConfig

/-! ## Jitter -/

/-- Whether a spread by `factor` leaves the delay as it is: a factor that is not above zero, or
nothing to spread. -/
def leavesDelay (d : Duration) (factor : Float) : Bool := factor ≤ 0.0 || d.isZero

/-- The factor brought into the range from zero to one. -/
def clampFactor (factor : Float) : Float :=
  if factor < 0.0 then 0.0 else if 1.0 < factor then 1.0 else factor

/-- **Spreads a delay.** The draw picks a number of seconds between the two ends of the spread; one
that is no duration stands for the delay itself. A factor that is no number leaves nothing to draw
from. -/
def spread? (d : Duration) (factor draw : Float) : Option Duration :=
  if leavesDelay d factor then some d
  else
    let f := clampFactor factor
    let low := d.seconds * (1.0 - f)
    let high := d.seconds * (1.0 + f)
    if low ≤ high then some ((Duration.ofSeconds? (low + draw * (high - low))).getD d) else none

/-- The spread of a delay whose factor is a number; the delay itself otherwise. -/
def spread (d : Duration) (factor draw : Float) : Duration := (spread? d factor draw).getD d

/-! ## The sequence -/

/-- **A sequence of delays under way.** -/
structure Backoff where
  config : BackoffConfig
  /-- The delay most recently reached, before its spread. -/
  current : Duration

namespace Backoff

/-- A sequence at its start. -/
def start (config : BackoffConfig) : Backoff := ⟨config, config.initial⟩

/-- The delay after `d`: the rounded product, and no more than the maximum. -/
def grow (c : BackoffConfig) (d : Duration) : Duration :=
  ((Duration.ofSeconds? (d.seconds * c.multiplier)).getD c.max).min c.max

/-- The sequence one delay further on. -/
def advance (b : Backoff) : Backoff := { b with current := grow b.config b.current }

/-- **The next delay to wait**, and the sequence after it. -/
def next (b : Backoff) (draw : Float) : Duration × Backoff :=
  (spread b.advance.current b.config.jitter draw, b.advance)

/-- The sequence back at its start. -/
def reset (b : Backoff) : Backoff := start b.config

@[simp] theorem current_start (c : BackoffConfig) : (start c).current = c.initial := rfl

@[simp] theorem config_advance (b : Backoff) : b.advance.config = b.config := rfl

@[simp] theorem current_advance (b : Backoff) : b.advance.current = grow b.config b.current := rfl

@[simp] theorem config_reset (b : Backoff) : b.reset.config = b.config := rfl

@[simp] theorem current_reset (b : Backoff) : b.reset.current = b.config.initial := rfl

theorem grow_le_max (c : BackoffConfig) (d : Duration) : (grow c d).nanos ≤ c.max.nanos := by
  unfold grow
  rw [Duration.nanos_min]
  exact Nat.min_le_right _ _

end Backoff

end ClusterLink
