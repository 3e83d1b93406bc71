import ClusterLink.Proofs.Connection.Holding
import ClusterLink.Proofs.Resolver.Flight
import ClusterLink.Proofs.Resolver.Membership

/-!
# Resolutions that come to a good end

Suppose that the seeds answer in time, and that whoever answers with a table names members that a
client can connect to (`GossipOutcome.IsGood`). A resolution that is not called off then finds such
a table in its second attempt at the latest: when the first attempt has failed the seeds are cached,
and they stay cached until the second attempt begins, since no other resolution finds a table
meanwhile. `ResolutionPhase.IsHopeful` says so of the phases in between, and every turn keeps it
(`ResolutionPhase.Turn.isHopeful`).
-/

namespace ClusterLink

/-- **A client can connect to what the table lists**: there is a member, each of them may be
connected to, and a channel can be made for each. -/
structure ChannelFactory.Serves (f : ChannelFactory) (members : List Member) : Prop where
  ne_nil : members ≠ []
  isEligible : ∀ member ∈ members, member.isEligible = true
  builds : ∀ member ∈ members, f.Builds member.endpoint

/-- **A good answer** of a node: every table lists members that a client can connect to, and a seed
answers with a table. -/
structure GossipOutcome.IsGood (f : ChannelFactory) (seeds : List EndPoint) (asked : EndPoint)
    (outcome : GossipOutcome) : Prop where
  serves : ∀ members, outcome = .success members → f.Serves members
  exists_success : asked.key ∈ EndPoint.keys seeds → ∃ members, outcome = .success members

namespace Cache

/-- An entry of the cache is found under its key. -/
theorem key_mem_keys {c : Cache} {k : List Char × UInt16} :
    k ∈ c.keys ↔ ∃ contact ∈ c.entries, contact.1.key = k := by
  rw [keys_eq, List.mem_map]

/-- What the cache holds when it is made to hold the seeds. -/
theorem Replaced.exists_key {c c' : Cache} {seeds : List EndPoint} (h : Replaced c c' seeds)
    (hseeds : seeds ≠ []) : ∃ k ∈ c'.keys, k ∈ EndPoint.keys seeds := by
  obtain ⟨seed, hseed⟩ := List.exists_mem_of_ne_nil seeds hseeds
  have hkey : seed.key ∈ EndPoint.keys seeds := List.mem_map.2 ⟨seed, hseed, rfl⟩
  exact ⟨seed.key, (h.mem_keys_iff _).2 hkey, hkey⟩

end Cache

namespace ResolutionPhase

/-- **The resolution will find a good table.** In the second attempt a seed is among those that are
still to be asked. -/
def IsHopeful (f : ChannelFactory) (seeds : List EndPoint)
    (cache : Cache) : ResolutionPhase → Prop
  | .waiting => True
  | .ready attempt left _ =>
    attempt = 1 ∨ attempt = 2 ∧ ∃ contact ∈ left, contact.1.key ∈ EndPoint.keys seeds
  | .asking attempt asked left _ =>
    attempt = 1 ∨ attempt = 2 ∧ ∃ contact ∈ asked :: left,
      contact.1.key ∈ EndPoint.keys seeds
  | .pausing attempt _ => attempt = 1 ∧ ∃ k ∈ cache.keys, k ∈ EndPoint.keys seeds
  | .ended (.ok resolution) => f.Serves resolution.members
  | .ended (.error _) | .brokenDown => False

variable {seeds : List EndPoint} {maxAttempts : Nat} {isCancelled : Bool} {cause : TurnCause}
  {cache cache' : Cache} {phase phase' : ResolutionPhase}

/-- Of the cache it matters only whether it holds a seed. -/
theorem IsHopeful.of_keys {f : ChannelFactory} (h : phase.IsHopeful f seeds cache)
    (hkeys : (∃ k ∈ cache.keys, k ∈ EndPoint.keys seeds) →
      ∃ k ∈ cache'.keys, k ∈ EndPoint.keys seeds) : phase.IsHopeful f seeds cache' := by
  cases phase with
  | pausing attempt delay => exact ⟨h.1, hkeys h.2⟩
  | ended result => cases result <;> exact h
  | _ => exact h

/-- **Every turn keeps the hope up**, unless the resolution is cancelled. -/
theorem Turn.isHopeful (h : Turn seeds maxAttempts false cause cache phase phase' cache')
    (hattempts : 2 ≤ maxAttempts) (hd : cache.isDisposed = false) (hseeds : seeds ≠ [])
    (hbuilds : ∀ seed ∈ seeds, cache.channels.factory.Builds seed)
    (hbreak : cause ≠ .breakDown) (hgood : ∀ attempt asked left failures outcome,
      phase = .asking attempt asked left failures → cause = .answer outcome →
      outcome.IsGood cache.channels.factory seeds asked.1)
    (hperm : ∀ attempt delay attempt' left failures, phase = .pausing attempt delay →
      phase' = .ready attempt' left failures → left.Perm cache.entries)
    (hhope : phase.IsHopeful cache.channels.factory seeds cache) :
    phase'.IsHopeful cache.channels.factory seeds cache' := by
  cases h with
  | begins arrange => exact .inl rfl
  | resumes attempt delay arrange =>
    obtain ⟨rfl, k, hk, hseed⟩ := hhope
    obtain ⟨contact, hcontact, rfl⟩ := Cache.key_mem_keys.1 hk
    exact .inr ⟨rfl, contact, (hperm _ _ _ _ _ rfl rfl).mem_iff.2 hcontact, hseed⟩
  | shutOut phase hdisposed => cases hd.symm.trans hdisposed
  | asks attempt contact left failures => exact hhope
  | heeds phase hc => cases hc
  | misses attempt asked left failures outcome hc hcause hmisses =>
    refine hhope.imp_right fun ⟨hattempt, contact, hcontact, hseed⟩ =>
      ⟨hattempt, contact, ?_, hseed⟩
    rcases List.mem_cons.1 hcontact with rfl | hleft
    · -- a seed does not miss
      obtain ⟨members, hsuccess⟩ := (hgood _ _ _ _ _ rfl hcause).exists_success hseed
      exact absurd hsuccess (hmisses members)
    · exact hleft
  | finds asked left failures resolution cache' hc hcause =>
    exact (hgood _ _ _ _ _ rfl hcause).serves _ rfl
  | refusesMembers attempt asked left failures members error cache' hc hcause hcache =>
    refine absurd hcache (Cache.reconcile_ne_error hd (fun e he => ?_) error cache')
    obtain ⟨member, hmember, rfl⟩ := List.mem_map.1 (EndPoint.mem_of_mem_distinct he)
    exact ((hgood _ _ _ _ _ rfl hcause).serves _ rfl).builds member hmember
  | reseeds attempt failures delay cache' hlt hcache =>
    rcases hhope with rfl | ⟨-, contact, hcontact, -⟩
    · exact ⟨rfl, (Cache.replaced_of_reconcile hcache).exists_key hseeds⟩
    · cases hcontact
  | exhausts attempt failures cache' hle hcache =>
    rcases hhope with rfl | ⟨-, contact, hcontact, -⟩
    · omega
    · cases hcontact
  | refusesSeeds attempt failures error cache' hcache =>
    exact absurd hcache (Cache.reconcile_ne_error hd hbuilds error cache')
  | breaks attempt asked left failures hc hcause => exact absurd hcause hbreak

/-- **A turn of another resolution leaves a seed in the cache**, unless it finds a table. -/
theorem Turn.exists_key (h : Turn seeds maxAttempts isCancelled cause cache phase phase' cache')
    (hseeds : seeds ≠ []) (hfinds : isCancelled = true ∨ phase.isOver = true)
    (hkey : ∃ k ∈ cache.keys, k ∈ EndPoint.keys seeds) :
    ∃ k ∈ cache'.keys, k ∈ EndPoint.keys seeds := by
  cases h with
  | finds asked left failures resolution cache' hc =>
    rcases hfinds with hcancelled | hover
    · cases hc.symm.trans hcancelled
    · cases hover
  | refusesMembers attempt asked left failures members error cache' hc hcause hcache =>
    rw [Cache.unchanged_of_reconcile hcache]
    exact hkey
  | reseeds attempt failures delay cache' hlt hcache =>
    exact (Cache.replaced_of_reconcile hcache).exists_key hseeds
  | exhausts attempt failures cache' hle hcache =>
    exact (Cache.replaced_of_reconcile hcache).exists_key hseeds
  | refusesSeeds attempt failures error cache' hcache =>
    rw [Cache.unchanged_of_reconcile hcache]
    exact hkey
  | _ => exact hkey

end ResolutionPhase

namespace Resolver

/-- The second attempt asks the nodes that are cached when it begins. -/
theorem left_of_step {r : Resolver} {cache : Cache} {id attempt attempt' : Nat} {delay : Duration}
    {left : List Contact} {failures : List String} {resumed : Bool}
    {arrange : List Contact → List Contact} {now : Instant} {draw : Float}
    (hphase : r.phase? id = some (.pausing attempt delay))
    (hphase' : (r.step cache id resumed arrange now draw).2.1.phase? id
      = some (.ready attempt' left failures)) : left = arrange cache.entries := by
  have hended : ∀ {k : Nat} {result : Except Error Resolution},
      (r.finish id k result now).phase? id ≠ some (.ready attempt' left failures) := by
    intro k result hready
    cases (Records.finish hphase k result now).phase?_eq.symm.trans hready
  rw [step, hphase] at hphase'
  dsimp only at hphase'
  split at hphase'
  · exact absurd hphase' hended
  · split at hphase'
    · unfold beginAttempt at hphase'
      split at hphase'
      · exact absurd hphase' hended
      · rename_i contacts hsnapshot
        have hready : (r.setPhase id (.ready (attempt + 1) (arrange contacts) [])).phase? id
            = some (.ready (attempt + 1) (arrange contacts) []) :=
          phase?_modify_self hphase fun _ => rfl
        cases hready.symm.trans hphase'
        unfold Cache.snapshot at hsnapshot
        split at hsnapshot
        · cases hsnapshot
        · cases hsnapshot
          rfl
    · cases hphase.symm.trans hphase'

end Resolver

end ClusterLink
