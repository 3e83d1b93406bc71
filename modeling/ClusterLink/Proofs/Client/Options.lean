import ClusterLink.Client.Options
import ClusterLink.Proofs.Connection.Reconciliation
import ClusterLink.Resolver.Basic

/-!
# Options that can be built

Building stops at the first flaw, so what is built has none: the options are complete
(`ClientOptions.IsComplete`), and complete options are always built. What is left unset is no flaw,
since every default passes the check that it is put to.

A resolver makes the checks of its settings once more, in another order, and asks for at least one
seed. What was built passes them all, so a cluster that was configured starts unless a channel to
one of its seeds is refused (`ClientConfig.Starts`).
-/

namespace ClusterLink

/-! ## Sequences of checks -/

/-- A sequence of checks succeeds if each of them does. -/
theorem Except.bind_eq_ok_iff {ε α β : Type} {x : Except ε α} {f : α → Except ε β}
    {b : β} : x >>= f = .ok b ↔ ∃ a, x = .ok a ∧ f a = .ok b := by
  cases x with
  | error e => exact iff_of_false (by simp [bind, Except.bind]) (by simp)
  | ok a => simp [bind, Except.bind]

/-- Of a check only whether it succeeds goes into what follows. -/
theorem Except.bind_unit_eq_ok_iff {ε β : Type} {x : Except ε Unit} {f : Unit → Except ε β}
    {b : β} : x >>= f = .ok b ↔ x = .ok () ∧ f () = .ok b :=
  Except.bind_eq_ok_iff.trans ⟨fun ⟨(), hx, hf⟩ => ⟨hx, hf⟩, fun h => ⟨(), h⟩⟩

theorem Except.map_eq_ok_iff {ε α β : Type} {x : Except ε α} {f : α → β} {b : β} :
    x.map f = .ok b ↔ ∃ a, x = .ok a ∧ f a = b := by
  cases x with
  | error e => exact iff_of_false (by simp [Except.map]) (by simp)
  | ok a => simp [Except.map]

theorem Except.exists_map_iff {ε α β : Type} {x : Except ε α} {f : α → β} :
    (∃ b, x.map f = .ok b) ↔ ∃ a, x = .ok a := by
  simp only [Except.map_eq_ok_iff]
  exact ⟨fun ⟨_, a, ha, _⟩ => ⟨a, ha⟩, fun ⟨a, ha⟩ => ⟨f a, a, ha, rfl⟩⟩

/-- All texts are read just if each of them is. -/
theorem Except.exists_mapM_iff {ε α β : Type} {f : α → Except ε β} {as : List α} :
    (∃ bs, as.mapM f = .ok bs) ↔ ∀ a ∈ as, ∃ b, f a = .ok b := by
  induction as with
  | nil => exact iff_of_true ⟨[], rfl⟩ (by simp)
  | cons a as ih =>
    rw [List.forall_mem_cons, ← ih]
    simp only [List.mapM_cons, Except.bind_eq_ok_iff]
    constructor
    · rintro ⟨-, b, hb, bs, hbs, -⟩
      exact ⟨⟨b, hb⟩, bs, hbs⟩
    · rintro ⟨⟨b, hb⟩, bs, hbs⟩
      exact ⟨b :: bs, b, hb, bs, hbs, rfl⟩

theorem Except.ne_nil_of_mapM {ε α β : Type} {f : α → Except ε β} {as : List α}
    {bs : List β} (h : as.mapM f = .ok bs) (hne : as ≠ []) : bs ≠ [] := by
  obtain ⟨a, as, rfl⟩ := List.exists_cons_of_ne_nil hne
  rw [List.mapM_cons] at h
  obtain ⟨b, -, h⟩ := Except.bind_eq_ok_iff.1 h
  obtain ⟨bs, -, h⟩ := Except.bind_eq_ok_iff.1 h
  exact Except.ok.inj h ▸ List.cons_ne_nil b bs

/-- An option is fine if it is left unset, provided that its default is. -/
theorem Option.getD_iff_forall_mem {α : Type} {p : α → Prop} {x : Option α} {default : α}
    (h : p default) : p (x.getD default) ↔ ∀ a ∈ x, p a := by
  cases x with
  | none => exact iff_of_true h (by simp)
  | some a => simp

/-- A time is not zero if it is left unset, provided that its default is not. -/
theorem Duration.isZero_getD_iff {x : Option Duration} {default : Duration}
    (h : default.isZero = false) :
    (x.getD default).isZero = false ↔ ∀ d ∈ x, d.isZero = false :=
  Option.getD_iff_forall_mem (p := fun d : Duration => d.isZero = false) h

namespace ClientOptions

theorem require_eq_ok_iff {condition : Bool} {message : String} :
    require condition message = .ok () ↔ condition = true := by
  unfold require
  cases condition <;> simp

/-! ## Complete options -/

/-- **The options are complete**: they say in one way where the nodes are, and nothing that is given
has a flaw. -/
structure IsComplete (o : ClientOptions) : Prop where
  /-- Either there are seeds, or there is a single node. -/
  one_way : o.gossipSeeds ≠ [] ↔ o.singleNode = none
  seeds : ∀ text ∈ o.gossipSeeds, ∃ e, EndPoint.ofText text = .ok e
  singleNode : ∀ text ∈ o.singleNode, ∃ e, EndPoint.ofText text = .ok e
  gossipTimeout : ∀ d ∈ o.gossipTimeout, d.isZero = false
  discoveryInterval : ∀ d ∈ o.discoveryInterval, d.isZero = false
  maxAttempts : ∀ n ∈ o.maxAttempts, 1 ≤ n
  discoveryBackoff : (o.discoveryBackoff.getD {}).validate = .ok ()
  reconnectBackoff : (o.reconnectBackoff.getD {}).validate = .ok ()
  connectTimeout : ∀ d ∈ o.connectTimeout, d.isZero = false
  keepAlive : ∀ k ∈ o.keepAlive, k.1.isZero = false ∧ k.2.isZero = false
  negotiationTimeout : ∀ d ∈ o.negotiationTimeout, d.isZero = false

/-- A topology is read from seeds or from a single node, but not from both. -/
theorem exists_topology_iff {o : ClientOptions} : (∃ topology, o.topology = .ok topology)
    ↔ (o.gossipSeeds ≠ [] ↔ o.singleNode = none)
      ∧ (∀ text ∈ o.gossipSeeds, ∃ e, EndPoint.ofText text = .ok e)
      ∧ ∀ text ∈ o.singleNode, ∃ e, EndPoint.ofText text = .ok e := by
  unfold topology
  cases hseeds : o.gossipSeeds with
  | nil =>
    cases hnode : o.singleNode with
    | none => simp
    | some node => simp [Except.exists_map_iff]
  | cons seed seeds =>
    cases hnode : o.singleNode with
    | none =>
      dsimp only
      rw [Except.exists_map_iff, Except.exists_mapM_iff]
      simp
    | some node => simp

/-- The seeds of a cluster are those that were given, and some were. -/
theorem mapM_of_topology {o : ClientOptions} {seeds : List EndPoint}
    (h : o.topology = .ok (.cluster seeds)) :
    o.gossipSeeds ≠ [] ∧ o.gossipSeeds.mapM EndPoint.ofText = .ok seeds := by
  unfold topology at h
  split at h
  · cases h
  · obtain ⟨node, -, htopology⟩ := Except.map_eq_ok_iff.1 h
    cases htopology
  · rename_i hne
    obtain ⟨read, hread, htopology⟩ := Except.map_eq_ok_iff.1 h
    cases htopology
    exact ⟨hne, hread⟩
  · cases h

/-- **The options pass all checks**, the defaults put in. -/
structure Passes (o : ClientOptions) : Prop where
  resolver : o.resolverSettings.IsValid
  reconnectBackoff : (o.reconnectBackoff.getD {}).validate = .ok ()
  connectTimeout : (o.connectTimeout.getD defaultConnectTimeout).isZero = false
  keepAlive : (o.keepAlive.getD defaultKeepAlive).1.isZero = false
    ∧ (o.keepAlive.getD defaultKeepAlive).2.isZero = false
  negotiationTimeout : (o.negotiationTimeout.getD defaultNegotiationTimeout).isZero = false

/-- The configuration with the given topology, the defaults put in. -/
def config (o : ClientOptions) (topology : Topology) : ClientConfig where
  topology := topology
  resolver := o.resolverSettings
  selector := ⟨o.preference, o.randomizeTies⟩
  reconnectBackoff := o.reconnectBackoff.getD {}
  connectTimeout := o.connectTimeout.getD defaultConnectTimeout
  keepAliveInterval := (o.keepAlive.getD defaultKeepAlive).1
  keepAliveTimeout := (o.keepAlive.getD defaultKeepAlive).2
  negotiationTimeout :=
    if o.negotiate.getD true then some (o.negotiationTimeout.getD defaultNegotiationTimeout)
    else none
  tls := o.tls

/-- **What is built** is the configuration with the topology that was read, if all checks are
passed. -/
theorem build_eq_ok_iff {o : ClientOptions} {built : ClientConfig} :
    o.build = .ok built ↔ ∃ topology, o.topology = .ok topology ∧ o.Passes
      ∧ o.config topology = built := by
  unfold build
  rw [Except.bind_eq_ok_iff]
  simp only [Except.bind_unit_eq_ok_iff, require_eq_ok_iff, Bool.not_eq_true', Bool.and_eq_true,
    bne_iff_ne, Duration.any_isZero_eq_false_iff]
  refine exists_congr fun topology => and_congr_right fun _ => ?_
  constructor
  · rintro ⟨htimeout, hinterval, hattempts, hbackoff, hreconnect, hconnect, hkeepAlive,
      hnegotiation, hbuilt⟩
    exact ⟨⟨⟨htimeout, hinterval, hattempts, hbackoff⟩, hreconnect, hconnect, hkeepAlive,
      hnegotiation⟩, Except.ok.inj hbuilt⟩
  · rintro ⟨⟨⟨htimeout, hinterval, hattempts, hbackoff⟩, hreconnect, hconnect, hkeepAlive,
      hnegotiation⟩, rfl⟩
    exact ⟨htimeout, hinterval, hattempts, hbackoff, hreconnect, hconnect, hkeepAlive,
      hnegotiation, rfl⟩

/-- A configuration that was built has usable delays between connections. -/
theorem validate_of_build {o : ClientOptions} {built : ClientConfig} (h : o.build = .ok built) :
    built.reconnectBackoff.validate = .ok () := by
  obtain ⟨topology, -, hpasses, rfl⟩ := build_eq_ok_iff.1 h
  exact hpasses.reconnectBackoff

/-- **The checks** are of what is given only: each default passes its own. -/
theorem isComplete_iff {o : ClientOptions} :
    o.IsComplete ↔ (∃ topology, o.topology = .ok topology) ∧ o.Passes := by
  have hgossip : o.resolverSettings.gossipTimeout.isZero = false ↔ ∀ d ∈ o.gossipTimeout,
      d.isZero = false :=
    Duration.isZero_getD_iff rfl
  have hconnect : (o.connectTimeout.getD defaultConnectTimeout).isZero = false
      ↔ ∀ d ∈ o.connectTimeout, d.isZero = false := Duration.isZero_getD_iff rfl
  have hnegotiation : (o.negotiationTimeout.getD defaultNegotiationTimeout).isZero = false
      ↔ ∀ d ∈ o.negotiationTimeout, d.isZero = false := Duration.isZero_getD_iff rfl
  have hkeepAlive : (o.keepAlive.getD defaultKeepAlive).1.isZero = false
        ∧ (o.keepAlive.getD defaultKeepAlive).2.isZero = false
      ↔ ∀ k ∈ o.keepAlive, k.1.isZero = false ∧ k.2.isZero = false :=
    Option.getD_iff_forall_mem (p := fun k : Duration × Duration => k.1.isZero = false
      ∧ k.2.isZero = false) ⟨rfl, rfl⟩
  have hattempts : o.resolverSettings.maxAttempts ≠ 0 ↔ ∀ n ∈ o.maxAttempts, 1 ≤ n :=
    Nat.one_le_iff_ne_zero.symm.trans
      <| Option.getD_iff_forall_mem (p := fun n => 1 ≤ n) (by decide)
  rw [exists_topology_iff]
  constructor
  · intro h
    exact ⟨⟨h.one_way, h.seeds, h.singleNode⟩,
      ⟨hgossip.2 h.gossipTimeout, h.discoveryInterval, hattempts.2 h.maxAttempts,
        h.discoveryBackoff⟩,
      h.reconnectBackoff, hconnect.2 h.connectTimeout, hkeepAlive.2 h.keepAlive,
      hnegotiation.2 h.negotiationTimeout⟩
  · rintro ⟨⟨hway, hseeds, hnode⟩, h⟩
    exact ⟨hway, hseeds, hnode, hgossip.1 h.resolver.gossipTimeout, h.resolver.interval,
      hattempts.1 h.resolver.maxAttempts, h.resolver.backoff, h.reconnectBackoff,
      hconnect.1 h.connectTimeout, hkeepAlive.1 h.keepAlive, hnegotiation.1 h.negotiationTimeout⟩

theorem exists_build_iff {o : ClientOptions} :
    (∃ built, o.build = .ok built) ↔ o.IsComplete := by
  simp only [build_eq_ok_iff, isComplete_iff]
  constructor
  · rintro ⟨-, topology, htopology, hpasses, -⟩
    exact ⟨⟨topology, htopology⟩, hpasses⟩
  · rintro ⟨⟨topology, htopology⟩, hpasses⟩
    exact ⟨_, topology, htopology, hpasses, rfl⟩

end ClientOptions

/-! ## Starting a cluster -/

namespace Cache

variable {c c' : Cache} {wanted : List EndPoint} {error : Error}

/-- **A wanted endpoint is refused** when its turn comes. -/
def RefusesWanted (c : Cache) (wanted : List EndPoint) (error : Error) : Prop :=
  ∃ e ∈ wanted, ∃ request,
    (e, request) ∈ (c.uncached (EndPoint.distinct wanted)).zipIdx c.channels.requests
    ∧ c.channels.factory.refusal? request e = some error

theorem refusesWanted_of_reconcile (hd : c.isDisposed = false)
    (h : c.reconcile wanted = (.error error, c')) : c.RefusesWanted wanted error := by
  rcases reconcileIn_error h with ⟨hdisposed, -⟩ | ⟨channels, hall, -⟩
  · cases hd.symm.trans hdisposed
  · obtain ⟨⟨e, request⟩, hturn, hrefusal⟩ := refusal_of_createAll hall
    have hmissing : e ∈ c.uncached (EndPoint.distinct wanted) := List.fst_mem_of_mem_zipIdx hturn
    exact ⟨e, EndPoint.mem_of_mem_distinct (List.mem_filter.1 hmissing).1, request,
      hturn, hrefusal⟩

end Cache

section

variable {seeds : List EndPoint} {settings : ResolverSettings} {cache cache' : Cache}

/-- If no resolver is made from seeds and valid settings, the seeds could not be cached. -/
theorem Resolver.reconcile_of_new {error : Error} (hne : seeds ≠ []) (hvalid : settings.IsValid)
    (h : Resolver.new seeds settings cache = (.error error, cache')) :
    cache.reconcile seeds = (.error error, cache') := by
  unfold new at h
  rw [if_neg (mt List.isEmpty_iff.1 hne)] at h
  split at h
  · rename_i hinvalid
    cases hinvalid.symm.trans (ResolverSettings.validate_eq_ok_iff.2 hvalid)
  · split at h
    · rename_i hreconcile
      cases h
      exact hreconcile
    · cases h

/-- If they could be cached, a resolver is made. -/
theorem Resolver.new_of_reconcile (hne : seeds ≠ []) (hvalid : settings.IsValid)
    (h : cache.reconcile seeds = (.ok (), cache')) :
    Resolver.new seeds settings cache = (.ok { seeds := seeds, settings := settings }, cache') := by
  rw [new, if_neg (mt List.isEmpty_iff.1 hne), ResolverSettings.validate_eq_ok_iff.2 hvalid, h]

end

/-- **A cluster that was configured starts** unless one of its seeds is refused. -/
structure ClientConfig.Starts (config : ClientConfig) : Prop where
  /-- No resolver is made only because a seed is refused. -/
  refused : ∀ seeds cache cache' error, config.topology = .cluster seeds →
    cache.isDisposed = false → Resolver.new seeds config.resolver cache
      = (.error error, cache') → cache.RefusesWanted seeds error
  /-- If none is refused, one is made. -/
  made : ∀ seeds cache, config.topology = .cluster seeds → cache.isDisposed = false →
    (∀ error, ¬cache.RefusesWanted seeds error) →
    ∃ cache', Resolver.new seeds config.resolver cache
      = (.ok { seeds := seeds, settings := config.resolver }, cache')

namespace ClientOptions

theorem starts_of_build {o : ClientOptions} {config : ClientConfig} (h : o.build = .ok config) :
    config.Starts := by
  obtain ⟨topology, htopology, hpasses, rfl⟩ := build_eq_ok_iff.1 h
  have hseeds : ∀ seeds, topology = .cluster seeds → seeds ≠ [] := by
    rintro seeds rfl
    obtain ⟨hgiven, hread⟩ := mapM_of_topology htopology
    exact Except.ne_nil_of_mapM hread hgiven
  constructor
  · intro seeds cache cache' error htopology hd hfails
    exact Cache.refusesWanted_of_reconcile hd
      (Resolver.reconcile_of_new (hseeds seeds htopology) hpasses.resolver hfails)
  · intro seeds cache htopology hd hbuilds
    cases hreconcile : cache.reconcile seeds with
    | mk answer cache' =>
      cases answer with
      | error error => exact absurd (Cache.refusesWanted_of_reconcile hd hreconcile) (hbuilds error)
      | ok =>
        exact ⟨cache',
          Resolver.new_of_reconcile (hseeds seeds htopology) hpasses.resolver hreconcile⟩

/-- **Options are built exactly if they are complete**, and a cluster that they configure starts
unless a seed is refused. -/
structure BuildsWhatStarts (o : ClientOptions) : Prop where
  exists_build_iff : (∃ config, o.build = .ok config) ↔ o.IsComplete
  starts : ∀ config, o.build = .ok config → config.Starts

/-- **Whatever is set, and in whichever order**, what is built can be started. -/
theorem buildsWhatStarts_ofSettings (settings : List Setting) :
    (ofSettings settings).BuildsWhatStarts where
  exists_build_iff := exists_build_iff
  starts _ := starts_of_build

end ClientOptions

end ClusterLink
