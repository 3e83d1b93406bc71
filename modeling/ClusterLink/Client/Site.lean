import ClusterLink.Resolver.Refresh
import ClusterLink.Resolver.Steps

/-!
# The cache and the resolver together

A client of a cluster has a cache and a resolver that works on it; a client of a single node has a
cache alone. The steps of the resolver are taken here together with what they do to the cache.
-/

namespace ClusterLink

/-- **The parts that find and keep connections.** -/
structure Site where
  cache : Cache := {}
  /-- The resolver of a client of a cluster. -/
  resolver : Option Resolver := none

instance : Inhabited Site := ⟨{}⟩

namespace Site

/-- Changes the resolver, if there is one. -/
def mapResolver (s : Site) (f : Resolver → Resolver) : Site :=
  { s with resolver := s.resolver.map f }

/-- **One step of a resolution.** -/
def stepResolution (s : Site) (id : Nat) (resumed : Bool) (arrange : List Contact → List Contact)
    (now : Instant) (draw : Float) : Resolver.Next × Site :=
  match s.resolver with
  | none => (.idle, s)
  | some r =>
    let (next, r, cache) := r.step s.cache id resumed arrange now draw
    (next, { cache := cache, resolver := some r })

/-- **A resolution takes in what came of asking a node.** -/
def takeIn (s : Site) (id : Nat) (outcome : GossipOutcome) (now : Instant) : Site :=
  match s.resolver with
  | none => s
  | some r =>
    let (r, cache) := r.takeIn s.cache id outcome now
    { cache := cache, resolver := some r }

/-- What the waiters of a resolution get, once it is over. -/
def result? (s : Site) (id : Nat) : Option (Except Error Resolution) :=
  s.resolver.bind (·.result? id)

/-- One step of the refresh in the background, if there is something to do. -/
def stepRefresh? (s : Site) (now : Instant) : Option Site :=
  (s.resolver.bind (·.refreshStep now)).map fun r => { s with resolver := some r }

/-- Shuts the parts down for good. -/
def shutdown (s : Site) : Site :=
  { cache := s.cache.dispose, resolver := s.resolver.map Resolver.shutdown }

end Site

end ClusterLink
