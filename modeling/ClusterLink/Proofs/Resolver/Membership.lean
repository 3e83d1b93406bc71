import ClusterLink.Proofs.Connection.Replacement
import ClusterLink.Proofs.Resolver.Attempts

/-!
# What discovery makes of the cache

Others may use the cache while a resolution goes on. Of the resolution itself only two turns change
what is cached: the one that ends it with a member table leaves exactly the members cached, and the
one that finds no node left to ask leaves exactly the seeds. Both keep the connections of the
endpoints that stay, and where such a turn fails, the cache is as it was. The same holds when a
resolver is made.
-/

namespace ClusterLink

namespace ResolutionPhase

/-! ## One turn -/

section

variable {seeds : List EndPoint} {maxAttempts : Nat} {isCancelled : Bool}
  {cause : TurnCause} {cache cache' : Cache} {phase phase' : ResolutionPhase}

/-- A turn that ends a resolution well leaves exactly the members cached. -/
theorem Turn.replaced_of_ok {resolution : Resolution}
    (h : Turn seeds maxAttempts isCancelled cause cache phase (.ended (.ok resolution)) cache') :
    cause = .answer (.success resolution.members)
      ∧ cache.Replaced cache' (resolution.members.map (·.endpoint)) := by
  cases h with
  | finds _ _ _ _ _ _ hcause _ hcache =>
    exact ⟨hcause, (Cache.replaced_of_reconcile hcache).of_distinct⟩

/-- **A turn that finds no node left** leaves exactly the seeds cached, and pauses or gives up; or
the cache refuses the seeds and is left as it was. -/
theorem Turn.replaced_or_unchanged {attempt : Nat} {failures : List String}
    (h : Turn seeds maxAttempts isCancelled cause cache (.ready attempt [] failures) phase'
      cache') :
    cache.Replaced cache' seeds
        ∧ (attempt < maxAttempts ∧ (∃ delay, phase' = .pausing attempt delay)
          ∨ maxAttempts ≤ attempt
            ∧ phase' = .ended (.error (Resolver.exhausted attempt failures)))
      ∨ cache.Unchanged cache' ∧ ∃ error, cache.reconcile seeds = (.error error, cache')
        ∧ phase' = .ended (.error error) := by
  rcases h.of_none_left with ⟨hcache, hnext⟩ | ⟨error, hcache, rfl⟩
  · exact .inl ⟨Cache.replaced_of_reconcile hcache, hnext⟩
  · exact .inr ⟨Cache.unchanged_of_reconcile hcache, error, hcache, rfl⟩

/-- **Any other turn leaves the cache as it was.** -/
theorem Turn.unchanged (h : Turn seeds maxAttempts isCancelled cause cache phase phase' cache')
    (hleft : ∀ attempt failures, phase ≠ .ready attempt [] failures)
    (hok : ∀ resolution, phase' ≠ .ended (.ok resolution)) : cache.Unchanged cache' := by
  cases h with
  | finds _ _ _ resolution => cases hok resolution rfl
  | reseeds attempt failures | exhausts attempt failures | refusesSeeds attempt failures =>
    cases hleft attempt failures rfl
  | refusesMembers _ _ _ _ _ _ _ _ _ hcache => exact Cache.unchanged_of_reconcile hcache
  | _ => exact .refl cache

/-- A resolution that was cancelled while it waits for an answer does not touch the cache. -/
theorem Turn.eq_of_asking {attempt : Nat} {asked : Contact} {left : List Contact}
    {failures : List String}
    (h : Turn seeds maxAttempts true cause cache (.asking attempt asked left failures) phase'
      cache') :
    phase' = .ended (.error .cancelled) ∧ cache' = cache := by
  rcases h.of_cancelled with ⟨-, hended, hcache⟩ | ⟨hwaiting, -⟩ | ⟨_, _, hready⟩
  · exact ⟨hended, hcache⟩
  · cases hwaiting
  · cases hready

end

end ResolutionPhase

namespace Resolver

/-- **A resolver that is made** leaves exactly the seeds cached; one that cannot be made leaves the
cache as it was. -/
theorem replaced_of_new {seeds : List EndPoint} {settings : ResolverSettings} {cache cache' : Cache}
    {result : Except Error Resolver} (h : new seeds settings cache = (result, cache')) :
    (∀ r, result = .ok r → cache.Replaced cache' seeds)
      ∧ ∀ error, result = .error error → cache.Unchanged cache' := by
  unfold new at h
  generalize settings.validate = valid at h
  split at h
  · obtain ⟨rfl, rfl⟩ := Prod.mk.inj h
    exact ⟨fun _ hr => (nomatch hr), fun _ _ => .refl cache⟩
  · cases valid with
    | error error =>
      obtain ⟨rfl, rfl⟩ := Prod.mk.inj h
      exact ⟨fun _ hr => (nomatch hr), fun _ _ => .refl cache⟩
    | ok =>
      dsimp only at h
      split at h <;> obtain ⟨rfl, rfl⟩ := Prod.mk.inj h <;> rename_i hcache
      · exact ⟨fun _ hr => (nomatch hr), fun _ _ => Cache.unchanged_of_reconcile hcache⟩
      · exact ⟨fun _ _ => Cache.replaced_of_reconcile hcache, fun _ hr => (nomatch hr)⟩

end Resolver

/-! ## The result -/

namespace DiscoveryRun

/-- **Discovery keeps the cache to the members, or to the seeds.** Whatever others do to the cache
meanwhile: the step that ends an attempt with a member table leaves exactly the endpoints of that
table cached. The step that ends an attempt in which every node was asked in vain leaves exactly the
seeds cached, unless the cache refuses them. The endpoints that stay keep their connections.

Everything else that a resolution does leaves the cache as it was, so does the step at which the
cache refuses, and a resolution that was cancelled while it waits for an answer does not touch the
cache. Making a resolver leaves exactly the seeds cached, or it fails and leaves the cache as it
was. -/
theorem discovery_maintains_cache (x : DiscoveryRun) :
    (∀ n id resolution,
      (x.state n).resolver.phase? id ≠ some (.ended (.ok resolution)) →
      (x.state (n + 1)).resolver.phase? id = some (.ended (.ok resolution)) →
      (x.events n).worksOn? = some id
      ∧ (x.events n).cause = .answer (.success resolution.members)
      ∧ (x.state n).cache.Replaced (x.state (n + 1)).cache (resolution.members.map (·.endpoint)))
    ∧ (∀ n id attempt failures phase,
      (x.state n).resolver.phase? id = some (.ready attempt [] failures) →
      (x.state (n + 1)).resolver.phase? id = some phase → phase ≠ .ready attempt [] failures →
      x.FailsAttempt n id attempt
      ∧ ((x.state n).cache.Replaced (x.state (n + 1)).cache x.seeds
          ∧ (attempt < x.settings.maxAttempts ∧ (∃ delay, phase = .pausing attempt delay)
            ∨ x.settings.maxAttempts ≤ attempt
              ∧ phase = .ended (.error (Resolver.exhausted attempt failures)))
        ∨ (x.state n).cache.Unchanged (x.state (n + 1)).cache
          ∧ ∃ error,
            (x.state n).cache.reconcile x.seeds = (.error error, (x.state (n + 1)).cache)
            ∧ phase = .ended (.error error)))
    ∧ (∀ n id, (x.events n).worksOn? = some id →
      (∀ attempt failures,
        (x.state n).resolver.phase? id ≠ some (.ready attempt [] failures)) →
      (∀ resolution, (x.state (n + 1)).resolver.phase? id = some (.ended (.ok resolution)) →
        (x.state n).resolver.phase? id = some (.ended (.ok resolution))) →
      (x.state n).cache.Unchanged (x.state (n + 1)).cache)
    ∧ (∀ n id attempt asked left failures phase,
      (x.state n).resolver.phase? id = some (.asking attempt asked left failures) →
      (x.state n).resolver.isCancelled id = true →
      (x.state (n + 1)).resolver.phase? id = some phase →
      phase ≠ .asking attempt asked left failures →
      phase = .ended (.error .cancelled) ∧ (x.state (n + 1)).cache = (x.state n).cache)
    ∧ ∀ result cache', Resolver.new x.seeds x.settings x.cache = (result, cache') →
      (∀ r, result = .ok r → x.cache.Replaced cache' x.seeds)
      ∧ ∀ error, result = .error error → x.cache.Unchanged cache' := by
  refine ⟨?_, ?_, ?_, ?_, fun result cache' hnew => Resolver.replaced_of_new hnew⟩
  · intro n id resolution hbefore hended
    rcases phase_cases hended with hsame | ⟨-, hwaiting⟩ | ⟨phase, hturns⟩
    · exact absurd hsame hbefore
    · cases hwaiting
    · exact ⟨hturns.worksOn?_eq, hturns.turn.replaced_of_ok⟩
  · intro n id attempt failures phase hready hphase hne
    have hturn := (turns_of_ne hready hphase hne.symm).turn
    obtain ⟨hseeds, hsettings⟩ := seeds_and_settings_eq x n
    rw [hseeds, hsettings] at hturn
    exact ⟨failsAttempt_of_ready hready, hturn.replaced_or_unchanged⟩
  · intro n id hworks hleft hok
    rcases turns_or_idles hworks with ⟨phase, phase', hturns⟩ | ⟨-, hcache, -⟩
    · refine hturns.turn.unchanged (fun attempt failures hphase => ?_) fun resolution hphase' => ?_
      · exact hleft attempt failures (hphase ▸ hturns.phase?_eq)
      · -- a resolution that is over takes no turn
        subst hphase'
        have hended := hok resolution hturns.records.phase?_eq
        cases hturns.phase?_eq.symm.trans hended
        cases hturns.turn
    · rw [hcache]
      exact .refl _
  · intro n id attempt asked left failures phase hasking hc hphase hne
    have hturn := (turns_of_ne hasking hphase hne.symm).turn
    rw [hc] at hturn
    exact hturn.eq_of_asking

/-- Two nodes are cached, and the first one reports itself, spelled otherwise, and a third one. -/
def reported : DiscoveryRun where
  seeds := [⟨"a", 1⟩]
  settings := {}
  cache := (({ channels := { factory := .lazy false } } : Cache).reconcile
    [⟨"a", 1⟩, ⟨"b", 2⟩]).2
  events := fun n => [.come, .advance 0, .advance 0, .advance 0, .step 0 false id 5 0.5,
    .step 0 false id 5 0.5,
    .answer 0 (.success [⟨"one", ⟨"A", 1⟩, .leader, true⟩,
      ⟨"three", ⟨"c", 3⟩, .follower, true⟩]) 5].getD n .come

/-- The node that is reported no more goes, the new one comes, and the first one keeps its
connection. -/
theorem discovery_maintains_cache_of_reported :
    (reported.state 6).cache.keys = EndPoint.keys [⟨"a", 1⟩, ⟨"b", 2⟩]
      ∧ (∀ k, k ∈ (reported.state 7).cache.keys
        ↔ k ∈ EndPoint.keys [⟨"a", 1⟩, ⟨"c", 3⟩])
      ∧ (reported.state 7).cache.find? ⟨"A", 1⟩ = some ⟨0, ⟨"a", 1⟩, false⟩ := by
  have hended : (reported.state 7).resolver.phase? 0 = some (.ended (.ok
      ⟨[⟨"one", ⟨"A", 1⟩, .leader, true⟩, ⟨"three", ⟨"c", 3⟩, .follower, true⟩],
        ⟨"a", 1⟩, 1, .zero⟩)) := rfl
  obtain ⟨htable, -⟩ := discovery_maintains_cache reported
  obtain ⟨-, -, hreplaced⟩ := htable 6 0 _ nofun hended
  exact ⟨rfl, hreplaced.mem_keys_iff, hreplaced.find?_eq _ _ (by decide) rfl⟩

end DiscoveryRun

end ClusterLink
