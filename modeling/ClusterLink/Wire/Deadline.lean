import ClusterLink.Time.Duration

/-!
# Deadlines of calls

A call tells the node how long it may take, as a whole number of at most eight digits and a unit.
The unit is the smallest that is large enough, from nanoseconds up to hours, and what is left over
of it is dropped. So the deadline that a call carries is at most the one that was asked for, and
falls short of it by less than one unit. A deadline that is too long in hours cannot be carried.
-/

namespace ClusterLink.Wire

/-- The units of a deadline, in nanoseconds. -/
def deadlineUnits : List Nat :=
  [1, 1000, nanosPerMilli, nanosPerSecond, 60 * nanosPerSecond, 3600 * nanosPerSecond]

/-- The least number with more than eight digits. -/
def deadlineLimit : Nat := 100000000

/-- The unit in which a deadline is told, if there is one. -/
def deadlineUnit? (d : Duration) : Option Nat :=
  deadlineUnits.find? fun unit => d.nanos / unit < deadlineLimit

/-- **The deadline that a call carries**; `none` if it is too long for any unit. -/
def carriedDeadline? (d : Duration) : Option Duration :=
  (deadlineUnit? d).map fun unit => Duration.ofNanos (d.nanos / unit * unit)

/-- A call never carries more time than it was given. -/
theorem nanos_le_of_carriedDeadline? {d e : Duration} (h : carriedDeadline? d = some e) :
    e.nanos ≤ d.nanos := by
  obtain ⟨unit, _, rfl⟩ := Option.map_eq_some_iff.1 h
  have hle : d.nanos / unit * unit ≤ d.nanos := Nat.div_mul_le_self _ _
  rw [Duration.nanos_ofNanos_of_lt (Nat.lt_of_le_of_lt hle d.nanos_lt)]
  exact hle

end ClusterLink.Wire
