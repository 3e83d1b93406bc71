import ClusterLink.Resolver.Caller

/-!
# Refreshing in the background

A resolver with an interval can refresh the member table on its own. The first refresh comes one
interval after the start, and each later one at a multiple of it. A refresh that takes longer than
an interval misses ticks: one of them is made up for at once and the others are left out, so that
the ticks stay on the multiples. No failure ends the refreshing; shutting the resolver down does.

Looking whether there is anything to start, and starting it, is one step (`startRefresh`). Another
thread that shuts the resolver down between the two is left out; the refresh would be started then,
and end with its first look at the token.
-/

namespace ClusterLink.Resolver

/-- How late a tick may be taken without counting as missed. -/
def tickTolerance : Nat := 5 * nanosPerMilli

/-- **When the next tick is due**, after one that was due at `due` is taken at `now`. A tick taken
too late is followed by the next one that is still to come. -/
def nextTick (period : Duration) (due now : Instant) : Instant :=
  if due + tickTolerance < now then now + period.nanos - (now - due) % period.nanos
  else due + period.nanos

/-- **Starts the refresh in the background**, unless there is no interval, the resolver was shut
down, or it runs already. The answer is whether it was started. -/
def startRefresh (r : Resolver) : Bool × Resolver :=
  if r.settings.interval.isNone || r.isShutDown || !r.refresh.isOff then (false, r)
  else (true, { r with refresh := .starting })

/-- **One step of the refresh in the background**; `none` if there is nothing to do yet. -/
def refreshStep (r : Resolver) (now : Instant) : Option Resolver :=
  match r.settings.interval with
  | none => none
  | some period =>
    match r.refresh with
    | .off => none
    | .starting => some { r with refresh := .ticking (now + period.nanos) }
    | .ticking due =>
      if now < due then none
      else some { r with refresh := .refreshing .fresh (nextTick period due now) }
    | .refreshing call due =>
      match r.advanceCall call r.isShutDown with
      | none => none
      | some (.done _, r) => some { r with refresh := .ticking due }
      | some (call, r) => some { r with refresh := .refreshing call due }

end ClusterLink.Resolver
