import ClusterLink.Time.Backoff

/-!
# Settings of a resolver
-/

namespace ClusterLink

/-- **The settings of a gossip resolver.** -/
structure ResolverSettings where
  /-- How long one gossip call may take. -/
  gossipTimeout : Duration := Duration.ofMillis 5000
  /-- How many attempts a resolution makes; each asks every cached endpoint once. -/
  maxAttempts : Nat := 10
  /-- The delays between attempts. -/
  backoff : BackoffConfig := {}
  /-- The period of the refresh in the background, if there is one. -/
  interval : Option Duration := none

namespace ResolverSettings

/-- Checks the settings; the first flaw is reported. -/
def validate (s : ResolverSettings) : Except Error Unit :=
  if s.maxAttempts = 0 then .error (.config "max_discover_attempts must be at least 1")
  else if s.gossipTimeout.isZero then .error (.config "gossip_timeout cannot be zero")
  else if s.interval.any Duration.isZero then .error (.config "discovery_interval cannot be zero")
  else s.backoff.validate

/-- **The settings have no flaw.** -/
structure IsValid (s : ResolverSettings) : Prop where
  gossipTimeout : s.gossipTimeout.isZero = false
  interval : ∀ d ∈ s.interval, d.isZero = false
  maxAttempts : s.maxAttempts ≠ 0
  backoff : s.backoff.validate = .ok ()

theorem validate_eq_ok_iff {s : ResolverSettings} : s.validate = .ok () ↔ s.IsValid := by
  unfold validate
  constructor
  · intro h
    split at h
    · cases h
    rename_i hattempts
    split at h
    · cases h
    rename_i htimeout
    split at h
    · cases h
    rename_i hinterval
    exact {
      gossipTimeout := Bool.eq_false_iff.2 htimeout
      interval := Duration.any_isZero_eq_false_iff.1 (Bool.eq_false_iff.2 hinterval)
      maxAttempts := hattempts
      backoff := h }
  · intro h
    rw [if_neg h.maxAttempts, h.gossipTimeout, if_neg Bool.false_ne_true,
      Duration.any_isZero_eq_false_iff.2 h.interval, if_neg Bool.false_ne_true]
    exact h.backoff

end ResolverSettings

end ClusterLink
