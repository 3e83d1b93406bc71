import ClusterLink.Proofs.Client.Pace
import ClusterLink.Proofs.Resolver.Hope

/-!
# Clients of a cluster that is well

A client is well (`ClientRun.IsWell`) if from some instant on the seeds answer in time, whoever
answers with a table names members that the client can connect to, and channels can be made for the
seeds and for the members. Every resolution that is started from then on and is not called off finds
such a table, as long as nobody interferes (`IsWell.isHopeful`).
-/

namespace ClusterLink

/-- **Nothing bad comes of the event**: the nodes answer well, no task breaks down, and others take
connections from the cache and do nothing else to it. -/
def DiscoveryEvent.IsBenign (f : ChannelFactory) (seeds : List EndPoint) (d : Deployment) :
    DiscoveryEvent → Prop
  | .step _ _ arrange _ _ => ∀ contacts, (arrange contacts).Perm contacts
  | .answer id outcome _ => ∀ attempt asked left failures,
      d.resolution? id = some (.asking attempt asked left failures) →
      outcome.IsGood f seeds asked.1
  | .breakDown _ | .shutdown => False
  | .use u => ∃ node, u = .getOrCreate node
  | _ => True

@[inherit_doc DiscoveryEvent.IsBenign]
def ClientEvent.IsBenign (f : ChannelFactory) (seeds : List EndPoint) (d : Deployment) :
    ClientEvent → Prop
  | .stepRun _ shuffle _ _ => ∀ members, (shuffle members).Perm members
  | .discover event _ => event.IsBenign f seeds d
  | _ => True

namespace ClientRun

/-- **The client is well** from `m` on, in the generation that it has come to. -/
structure IsWell (x : ClientRun) (seeds : List EndPoint) (generation m : Nat) : Prop where
  generation_eq : (x.state m).client.provider.generation = generation
  topology_eq : x.config.topology = .cluster seeds
  builds : ∀ seed ∈ seeds, x.factory.Builds seed
  /-- A resolution that asks other nodes first has an attempt left for the seeds. -/
  attempts : 2 ≤ x.config.resolver.maxAttempts
  canNegotiate : (Client.settingsOf x.config).CanNegotiate
  /-- The resolver was not shut down, and the resolution in flight has not broken down. -/
  resolver : ∀ r, (x.state m).client.site.resolver = some r → r.isShutDown = false
    ∧ ∀ f, r.inFlight = some f → r.phase? f.id ≠ some .brokenDown
  benign : ∀ n, m ≤ n → (x.events n).IsBenign x.factory seeds (x.state n)

namespace IsWell

variable {x : ClientRun} {seeds : List EndPoint} {generation k m n : Nat} {r : Resolver}

/-- Nobody has interfered before. -/
theorem quiet_of_le (h : x.IsWell seeds generation m) (hmk : m ≤ k) (hkn : k ≤ n)
    (hquiet : x.IsUndisturbed generation n) : x.IsUndisturbed generation k :=
  hquiet.of_le hkn (h.generation_eq ▸ x.generation_mono hmk)

/-- What happens to the resolver and to the cache is benign. -/
theorem benign_discovery (h : x.IsWell seeds generation m) (hmn : m ≤ n) {event : DiscoveryEvent}
    (hevent : (x.events n).discovery? = some event) :
    event.IsBenign x.factory seeds (x.state n) := by
  have hbenign := h.benign n hmn
  generalize x.events n = e at hevent hbenign
  cases e with
  | discover event' hdials =>
    cases hevent
    exact hbenign
  | _ => cases hevent

theorem seeds_eq (h : x.IsWell seeds generation m)
    (hr : (x.state n).client.site.resolver = some r) :
    r.seeds = seeds ∧ seeds ≠ [] ∧ 2 ≤ r.settings.maxAttempts := by
  obtain ⟨htopology, hseeds, hsettings⟩ := x.seeds_and_settings_state hr
  cases h.topology_eq.symm.trans htopology
  exact ⟨rfl, hseeds, hsettings ▸ h.attempts⟩

/-- The client has a resolver. -/
theorem exists_resolver (h : x.IsWell seeds generation m) (n : Nat) :
    ∃ r, (x.state n).client.site.resolver = some r := by
  rw [← Option.isSome_iff_exists]
  induction n with
  | zero =>
    have hmade := x.made
    unfold Client.new at hmade
    rw [h.topology_eq] at hmade
    dsimp only at hmade
    split at hmade
    · cases hmade
    · show x.client.site.resolver.isSome = true
      rw [← Except.ok.inj hmade]
      rfl
  | succ n ih => exact (x.change_site n).isSome_resolver.trans ih

/-- The resolver is not shut down. -/
theorem isShutDown_eq_false (h : x.IsWell seeds generation m) (hmn : m ≤ n)
    (hquiet : x.IsUndisturbed generation n)
    (hr : (x.state n).client.site.resolver = some r) : r.isShutDown = false := by
  induction n, hmn using Nat.le_induction generalizing r with
  | base => exact (h.resolver r hr).1
  | succ n hmn ih =>
    obtain ⟨r₀, hr₀⟩ := x.exists_resolver_of_succ hr
    rcases (x.change_site n).isShutDown_cases hr₀ hr with hsame | hshutdown | hdisposed
    · exact hsame.trans (ih (h.quiet_of_le hmn (Nat.le_succ n) hquiet) hr₀)
    · exact (h.benign_discovery hmn hshutdown).elim
    · cases hquiet.cache.symm.trans hdisposed

/-- **The resolution in flight is not over.** -/
theorem isOver_of_inFlight (h : x.IsWell seeds generation m) (hmn : m ≤ n)
    (hr : (x.state n).client.site.resolver = some r) {f : InFlight} (hf : r.inFlight = some f)
    {phase : ResolutionPhase} (hphase : r.phase? f.id = some phase) : phase.isOver = false := by
  have hbroken : r.phase? f.id ≠ some .brokenDown := by
    clear hphase
    induction n, hmn using Nat.le_induction generalizing r f with
    | base => exact (h.resolver r hr).2 f hf
    | succ n hmn ih =>
      obtain ⟨r₀, hr₀⟩ := x.exists_resolver_of_succ hr
      intro hbroken
      rcases (x.change_site n).phase_cases hr₀ hr hbroken with hsame | ⟨-, hwaiting⟩
        | ⟨event, before, hevent, -, -, -, hturn⟩
      · rcases ((x.change_site n).grows hr₀ hr).inFlight f hf with ⟨f₀, hf₀, hid⟩ | hnew
        · exact ih hr₀ hf₀ (hid ▸ hsame)
        · obtain ⟨t, ht, -⟩ := Option.map_eq_some_iff.1 hsame
          exact absurd (List.getElem?_eq_some_iff.1 ht).1 (Nat.not_lt.2 hnew)
      · cases hwaiting
      · have hbenign := h.benign_discovery hmn hevent
        generalize (x.state (n + 1)).client.site.cache = cache' at hturn
        cases hturn with
        | breaks attempt asked left failures hc hcause =>
          cases event with
          | breakDown => exact hbenign
          | _ => cases hcause
  cases phase with
  | brokenDown => exact absurd hphase hbroken
  | ended result => exact absurd hphase ((x.makesRoom_state hr).phase?_ne f hf result)
  | _ => rfl

/-- A turn of a resolution does not spoil the hopes of another one that is not called off. -/
theorem exists_key_of_turn (h : x.IsWell seeds generation m)
    (hr : (x.state n).client.site.resolver = some r) {id id' : Nat}
    (hne : id' ≠ id) {attempt : Nat} {delay : Duration}
    (hpausing : r.phase? id = some (.pausing attempt delay)) (hc : r.isCancelled id = false)
    {phase phase' : ResolutionPhase} {cause : TurnCause} {cache' : Cache}
    (hphase : r.phase? id' = some phase)
    (hturn : ResolutionPhase.Turn r.seeds r.settings.maxAttempts (r.isCancelled id') cause
      (x.state n).client.site.cache phase phase' cache')
    (hkey : ∃ k ∈ (x.state n).client.site.cache.keys, k ∈ EndPoint.keys seeds) :
    ∃ k ∈ cache'.keys, k ∈ EndPoint.keys seeds := by
  obtain ⟨hseeds, hne_nil, -⟩ := h.seeds_eq hr
  rw [hseeds] at hturn
  refine hturn.exists_key hne_nil ?_ hkey
  -- there is room for one of them only
  rw [or_iff_not_imp_left, Bool.not_eq_true]
  intro hc'
  refine Bool.eq_true_of_not_eq_false fun hopen => hne ?_
  have hflight : ∀ {k : Nat} {phase : ResolutionPhase}, r.phase? k = some phase →
      phase.isOver = false → r.isCancelled k = false →
      ∃ f, r.inFlight = some f ∧ f.id = k := by
    intro k phase hphase hopen hc
    obtain ⟨t, ht, rfl⟩ := Option.map_eq_some_iff.1 hphase
    refine x.worksInFlight_state hr k t ht hopen (Bool.eq_false_iff.2 fun hoff => ?_)
    rw [Resolver.isCancelled, ht, Option.any_some, hoff, Bool.or_true] at hc
    cases hc
  obtain ⟨f, hf, hid⟩ := hflight hpausing rfl hc
  obtain ⟨f', hf', hid'⟩ := hflight hphase hopen hc'
  cases hf.symm.trans hf'
  exact hid'.symm.trans hid

/-- **While the resolutions rest, the cache keeps a seed**: others take connections from it, and
nobody disposes of it. -/
theorem exists_key_of_rests (h : x.IsWell seeds generation m) (hmn : m ≤ n)
    (hquiet : x.IsUndisturbed generation (n + 1))
    (hcache : (x.state (n + 1)).client.site.cache = (x.state n).client.site.cache
      ∨ ∃ u, (x.state (n + 1)).client.site.cache = (x.state n).client.site.cache.use u
        ∧ ((x.events n).discovery? = some (.use u) ∨ (∃ node, u = .getOrCreate node)
          ∨ u = .dispose))
    (hkey : ∃ k ∈ (x.state n).client.site.cache.keys, k ∈ EndPoint.keys seeds) :
    ∃ k ∈ (x.state (n + 1)).client.site.cache.keys, k ∈ EndPoint.keys seeds := by
  rcases hcache with hsame | ⟨u, huse, hu⟩
  · exact hsame ▸ hkey
  · obtain ⟨node, rfl⟩ : ∃ node, u = .getOrCreate node := by
      rcases hu with hevent | hgets | rfl
      · exact h.benign_discovery hmn hevent
      · exact hgets
      · have hopen := hquiet.cache
        rw [huse] at hopen
        cases hopen.symm.trans (Cache.isDisposed_dispose _)
    obtain ⟨k, hk, hseed⟩ := hkey
    obtain ⟨contact, hcontact, rfl⟩ := Cache.key_mem_keys.1 hk
    rw [huse]
    exact ⟨_, Cache.key_mem_keys.2 ⟨contact,
      (Cache.entries_sublist_of_getOrCreate _ node).subset hcontact, rfl⟩, hseed⟩

/-- **The second attempt asks all nodes** that are cached when it begins. -/
theorem left_perm (h : x.IsWell seeds generation m) (hmn : m ≤ n) {event : DiscoveryEvent}
    (hevent : (x.events n).discovery? = some event) {id : Nat} (hworks : event.worksOn? = some id)
    {requests : List Request} {attempt attempt' : Nat} {delay : Duration} {left : List Contact}
    {failures : List String} (hphase : r.phase? id = some (.pausing attempt delay))
    (hphase' :
      (Discovery.perform ⟨r, (x.state n).client.site.cache, requests⟩ event).resolver.phase? id
      = some (.ready attempt' left failures)) :
    left.Perm (x.state n).client.site.cache.entries := by
  have hbenign := h.benign_discovery hmn hevent
  cases event with
  | step k resumed arrange now draw =>
    cases hworks
    rw [Resolver.left_of_step hphase hphase']
    exact hbenign _
  | answer k outcome now =>
    -- a delay runs on, whatever is answered
    cases hworks
    have hsame : (r.takeIn (x.state n).client.site.cache id outcome now).1 = r := by
      rw [Resolver.takeIn, hphase]
    cases hphase.symm.trans ((congrArg (·.phase? id) hsame).symm.trans hphase')
  | breakDown => exact hbenign.elim
  | _ => cases hworks

/-- **A turn keeps the hope up**, unless the resolution is called off. -/
theorem isHopeful_of_turn (h : x.IsWell seeds generation m) (hmn : m ≤ n)
    (hquiet : x.IsUndisturbed generation n) (hr : (x.state n).client.site.resolver = some r)
    {event : DiscoveryEvent} (hevent : (x.events n).discovery? = some event) {id : Nat}
    (hworks : event.worksOn? = some id) {requests : List Request} {phase phase' : ResolutionPhase}
    (hphase : r.phase? id = some phase)
    (hphase' :
      (Discovery.perform ⟨r, (x.state n).client.site.cache, requests⟩ event).resolver.phase? id
      = some phase') {cache' : Cache}
    (hturn : ResolutionPhase.Turn r.seeds r.settings.maxAttempts false event.cause
      (x.state n).client.site.cache phase phase' cache')
    (hhope : phase.IsHopeful x.factory seeds (x.state n).client.site.cache) :
    phase'.IsHopeful x.factory seeds cache' := by
  have hbenign := h.benign_discovery hmn hevent
  obtain ⟨hseeds, hne_nil, hattempts⟩ := h.seeds_eq hr
  have hfactory := x.factory_state n
  rw [hseeds] at hturn
  rw [← hfactory] at hhope ⊢
  refine hturn.isHopeful hattempts hquiet.cache hne_nil ?_ ?_ ?_ ?_ hhope
  · exact fun seed hseed => hfactory ▸ h.builds seed hseed
  · intro hcause
    cases event with
    | breakDown => exact hbenign
    | _ => cases hcause
  · rintro attempt asked left failures outcome rfl hcause
    cases event with
    | answer k outcome' now =>
      cases hcause
      cases hworks
      rw [hfactory]
      exact hbenign attempt asked left failures (by
        rw [Deployment.resolution?, hr, Option.bind_some, hphase])
    | _ => cases hcause
  · rintro attempt delay attempt' left failures rfl rfl
    exact h.left_perm hmn hevent hworks hphase hphase'

/-- **A resolution that is started while the client is well comes to a good end**, unless it is
called off. -/
theorem isHopeful (h : x.IsWell seeds generation m) {r₀ : Resolver}
    (hr₀ : (x.state m).client.site.resolver = some r₀) (hmn : m ≤ n)
    (hquiet : x.IsUndisturbed generation n)
    (hr : (x.state n).client.site.resolver = some r) {id : Nat} (hid : r₀.tasks.length ≤ id)
    {phase : ResolutionPhase} (hphase : r.phase? id = some phase) (hc : r.isCancelled id = false) :
    phase.IsHopeful x.factory seeds (x.state n).client.site.cache := by
  induction n, hmn using Nat.le_induction generalizing r phase with
  | base =>
    cases hr₀.symm.trans hr
    obtain ⟨t, ht, -⟩ := Option.map_eq_some_iff.1 hphase
    exact absurd (List.getElem?_eq_some_iff.1 ht).1 (Nat.not_lt.2 hid)
  | succ n hmn ih =>
    obtain ⟨r₁, hr₁⟩ := x.exists_resolver_of_succ hr
    have hchange := x.change_site n
    have hc₁ : r₁.isCancelled id = false := Bool.eq_false_iff.2 fun hcancelled => by
      cases hc.symm.trans ((hchange.grows hr₁ hr).isCancelled hcancelled)
    have hquiet₁ := h.quiet_of_le hmn (Nat.le_succ n) hquiet
    rcases hchange.rests_or_turns hr₁ hr with ⟨hrests, hcache⟩
      | ⟨event, id', before, after, hevent, hworks, hresolver, hbefore, hturn, hrecords⟩
    · cases hphase₁ : r₁.phase? id with
      | none =>
        rcases hrests.phase?_new id hphase₁ with hnone | hwaiting
        · cases hnone.symm.trans hphase
        · cases hwaiting.symm.trans hphase
          trivial
      | some phase₁ =>
        cases (hrests.phase?_eq id phase₁ hphase₁).symm.trans hphase
        exact (ih hquiet₁ hr₁ hphase₁ hc₁).of_keys (h.exists_key_of_rests hmn hquiet hcache)
    · by_cases hid' : id = id'
      · subst hid'
        cases hrecords.phase?_eq.symm.trans hphase
        rw [hc₁] at hturn
        exact h.isHopeful_of_turn hmn hquiet₁ hr₁ hevent hworks hbefore
          (hresolver ▸ hrecords.phase?_eq) hturn (ih hquiet₁ hr₁ hbefore hc₁)
      · have hphase₁ : r₁.phase? id = some phase :=
          (hrecords.phase?_ne id hid').symm.trans hphase
        have hhope := ih hquiet₁ hr₁ hphase₁ hc₁
        cases phase with
        | pausing attempt delay =>
          exact ⟨hhope.1,
            h.exists_key_of_turn hr₁ (Ne.symm hid') hphase₁ hc₁ hbefore hturn hhope.2⟩
        | ended result => cases result <;> exact hhope
        | _ => exact hhope

end IsWell

end ClientRun

end ClusterLink
