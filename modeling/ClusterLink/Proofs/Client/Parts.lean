import ClusterLink.Proofs.Client.Attempts
import ClusterLink.Proofs.Client.Options

/-!
# The parts of a client over one event

What an event makes of the cache, of the resolutions and of the calls for a refresh. The cache is
used or left alone (`Site.Change.cache_cases`), a resolution takes a turn or stays as it is
(`Site.Change.phase_cases`), and a call for a refresh comes, goes on or is dropped
(`Deployment.request_cases`).

The delays of a client were checked when it was configured, so that its provider never jams
(`ClientRun.not_jams`).
-/

namespace ClusterLink

/-! ## The resolver and the cache -/

/-- Where no resolution is worked on, the cache is left alone, or somebody else uses it. -/
theorem Discovery.cache_eq_or_use {event : DiscoveryEvent} (h : event.worksOn? = none)
    (d : Discovery) :
    (d.perform event).cache = d.cache
      ∨ ∃ u, event = .use u ∧ (d.perform event).cache = d.cache.use u := by
  cases event with
  | come | startRefresh | refreshStep | shutdown => exact .inl rfl
  | cancel i =>
    refine .inl ?_
    show (d.cancelRequest i).cache = _
    unfold cancelRequest
    split <;> rfl
  | advance i =>
    refine .inl ?_
    show (d.stepRequest i).cache = _
    unfold stepRequest
    split
    · rfl
    · split <;> rfl
  | drop i =>
    refine .inl ?_
    show (d.dropRequest i).cache = _
    unfold dropRequest
    split <;> rfl
  | use u => exact .inr ⟨u, rfl, rfl⟩
  | step | answer | breakDown => cases h

/-- **An event uses the cache or leaves it alone.** -/
theorem Discovery.cache_cases (d : Discovery) {event : DiscoveryEvent} (h : event.dials = false) :
    (d.perform event).cache = d.cache
      ∨ ∃ u, (DiscoveryEvent.use u).dials = false
        ∧ (d.perform event).cache = d.cache.use u := by
  cases hworks : event.worksOn? with
  | none =>
    exact (cache_eq_or_use hworks d).imp_right fun ⟨u, hevent, hcache⟩ =>
      ⟨u, hevent ▸ h, hcache⟩
  | some id =>
    cases event with
    | step id resumed arrange now draw =>
      rcases Resolver.cache_step d.cache d.resolver id resumed arrange now draw with h | h
      · exact .inl h
      · exact .inr ⟨.reconcile d.resolver.seeds, rfl, h⟩
    | answer id outcome now =>
      rcases Resolver.cache_takeIn d.cache d.resolver id outcome now with h | ⟨members, -, h⟩
      · exact .inl h
      · exact .inr ⟨.reconcile _, rfl, h⟩
    | breakDown => exact .inl rfl
    | _ => cases hworks

namespace Site.Change

variable {requests : List Request} {source : Option DiscoveryEvent} {s s' : Site}

/-- **A change uses the cache or leaves it alone.** -/
theorem cache_cases (h : Change requests source s s') :
    s'.cache = s.cache
      ∨ ∃ u, (DiscoveryEvent.use u).dials = false ∧ s'.cache = s.cache.use u := by
  cases h with
  | stay | call => exact .inl rfl
  | discover event hdials hsource r hr => exact Discovery.cache_cases _ hdials
  | use u hu => exact .inr ⟨u, hu, rfl⟩
  | shutdown => exact .inr ⟨.dispose, rfl, rfl⟩

/-- A client has a resolver always or never. -/
theorem isSome_resolver (h : Change requests source s s') :
    s'.resolver.isSome = s.resolver.isSome := by
  cases h with
  | stay | use => rfl
  | discover event hdials hsource r hr => simp [hr]
  | call r r' call call' isCancelled hr hcall => simp [hr]
  | shutdown => simp [Site.shutdown]

variable {r r' : Resolver}

/-- **The resolutions go on.** -/
theorem grows (h : Change requests source s s') (hr : s.resolver = some r)
    (hr' : s'.resolver = some r') :
    Resolver.Grows s.cache r r' := by
  have hsame : r' = r → Resolver.Grows s.cache r r' := fun heq => heq ▸ .refl _ _
  cases h with
  | stay | use => exact hsame (Option.some.inj (hr'.symm.trans hr))
  | discover event hdials hsource r₀ hr₀ =>
    cases hr.symm.trans hr₀
    cases hr'
    exact (Discovery.change_perform ⟨r, s.cache, requests⟩ event).grows
  | call r₀ r₁ call call' isCancelled hr₀ hcall =>
    cases hr.symm.trans hr₀
    cases hr'
    exact .advanceCall hcall
  | shutdown =>
    rw [Site.shutdown, hr] at hr'
    cases hr'
    exact (Discovery.change_perform ⟨r, s.cache, requests⟩ .shutdown).grows

/-- **A resolution takes a turn, or all of them rest.** If they rest, the cache is left alone, or
somebody uses it. -/
theorem rests_or_turns (h : Change requests source s s') (hr : s.resolver = some r)
    (hr' : s'.resolver = some r') :
    Resolver.Rests r r' ∧ (s'.cache = s.cache ∨ ∃ u, s'.cache = s.cache.use u
        ∧ (source = some (.use u) ∨ (∃ node, u = .getOrCreate node) ∨ u = .dispose))
      ∨ ∃ event id phase phase', source = some event ∧ event.worksOn? = some id
        ∧ r' = (Discovery.perform ⟨r, s.cache, requests⟩ event).resolver
        ∧ r.phase? id = some phase
        ∧ ResolutionPhase.Turn r.seeds r.settings.maxAttempts (r.isCancelled id) event.cause
          s.cache phase phase' s'.cache
        ∧ Resolver.Records r id phase' r' := by
  have hsame : r' = r → Resolver.Rests r r' := fun heq => heq ▸ .refl _
  cases h with
  | stay => exact .inl ⟨hsame (Option.some.inj (hr'.symm.trans hr)), .inl rfl⟩
  | use u hu hsource =>
    exact .inl ⟨hsame (Option.some.inj (hr'.symm.trans hr)),
      .inr ⟨u, rfl, hsource.imp_right .inl⟩⟩
  | discover event hdials hsource r₀ hr₀ =>
    cases hr.symm.trans hr₀
    cases hr'
    cases hworks : event.worksOn? with
    | none =>
      refine .inl ⟨Discovery.rests_perform hworks ⟨r, s.cache, requests⟩, ?_⟩
      exact (Discovery.cache_eq_or_use hworks ⟨r, s.cache, requests⟩).imp_right
        fun ⟨u, hevent, hcache⟩ => ⟨u, hcache, .inl (hevent ▸ hsource)⟩
    | some id =>
      have hwork := Discovery.work_perform hworks ⟨r, s.cache, requests⟩
      dsimp only at hwork
      generalize hresolver : (Discovery.perform ⟨r, s.cache, requests⟩ event).resolver = r₁
        at hwork ⊢
      generalize (Discovery.perform ⟨r, s.cache, requests⟩ event).cache = c₁ at hwork ⊢
      cases hwork with
      | rest => exact .inl ⟨.refl _, .inl rfl⟩
      | turn phase phase' _ _ hphase hturn hrecords =>
        exact .inr ⟨event, id, phase, phase', hsource, hworks, hresolver.symm, hphase,
          hturn, hrecords⟩
  | call r₀ r₁ call call' isCancelled hr₀ hcall =>
    cases hr.symm.trans hr₀
    cases hr'
    exact .inl ⟨.advanceCall hcall, .inl rfl⟩
  | shutdown =>
    rw [Site.shutdown, hr] at hr'
    cases hr'
    exact .inl ⟨.shutdown r, .inr ⟨.dispose, rfl, .inr (.inr rfl)⟩⟩

/-- **Where the phase of a resolution comes from**: it was so before, the resolution has just been
started, or it has taken a turn. -/
theorem phase_cases (h : Change requests source s s') (hr : s.resolver = some r)
    (hr' : s'.resolver = some r') {id : Nat} {phase' : ResolutionPhase}
    (hphase' : r'.phase? id = some phase') :
    r.phase? id = some phase' ∨ r.phase? id = none ∧ phase' = .waiting
      ∨ ∃ event phase, source = some event ∧ event.worksOn? = some id
        ∧ r' = (Discovery.perform ⟨r, s.cache, requests⟩ event).resolver
        ∧ r.phase? id = some phase
        ∧ ResolutionPhase.Turn r.seeds r.settings.maxAttempts (r.isCancelled id) event.cause
          s.cache phase phase' s'.cache := by
  rcases h.rests_or_turns hr hr' with ⟨hrests, -⟩
    | ⟨event, id', phase, after, hsource, hworks, hresolver, hphase, hturn, hrecords⟩
  · cases hphase : r.phase? id with
    | none =>
      rcases hrests.phase?_new id hphase with hnone | hwaiting
      · cases hnone.symm.trans hphase'
      · exact .inr (.inl ⟨rfl, Option.some.inj (hphase'.symm.trans hwaiting)⟩)
    | some phase =>
      exact .inl (congrArg some (Option.some.inj
        ((hrests.phase?_eq id phase hphase).symm.trans hphase')))
  · by_cases hid : id = id'
    · subst hid
      cases hrecords.phase?_eq.symm.trans hphase'
      exact .inr (.inr ⟨event, phase, hsource, hworks, hresolver, hphase, hturn⟩)
    · exact .inl ((hrecords.phase?_ne id hid).symm.trans hphase')

end Site.Change

namespace Deployment

/-! ## Calls for a refresh -/

/-- What happens to the resolver and the cache, if there is a resolver. -/
theorem performDiscovery_eq {d : Deployment} {r : Resolver} (hr : d.client.site.resolver = some r)
    (event : DiscoveryEvent) :
    d.performDiscovery event = { d with
      client := { d.client with
        site := ⟨(Discovery.perform ⟨r, d.client.site.cache, d.requests⟩ event).cache,
          some (Discovery.perform ⟨r, d.client.site.cache, d.requests⟩ event).resolver⟩ }
      requests := (Discovery.perform ⟨r, d.client.site.cache, d.requests⟩
        event).requests } := by
  unfold performDiscovery
  rw [hr]

/-- What happens without a resolver reaches no call for a refresh. -/
theorem requests_performDiscovery_of_none {d : Deployment} (hr : d.client.site.resolver = none)
    (event : DiscoveryEvent) : (d.performDiscovery event).requests = d.requests := by
  unfold performDiscovery
  rw [hr]
  cases event <;> rfl

/-- A call takes its steps apart from the calls for a refresh. -/
theorem requests_stepCall (d : Deployment) (call : Nat) (now : Instant) (draw : Float) :
    (d.stepCall call now draw).requests = d.requests := by
  unfold stepCall
  split
  · rfl
  · split <;> rfl

/-- **What becomes of a call for a refresh**: it comes, its token is cancelled, it is dropped, it
takes a step, or it stays as it is. -/
theorem request_cases {d : Deployment} {event : ClientEvent} {i : Nat} {q' : Request}
    (hq' : (d.perform event).requests[i]? = some q') :
    d.requests[i]? = none ∧ q' = {} ∨ ∃ q, d.requests[i]? = some q
      ∧ (q' = q ∨ q' = { q with isCancelled := true } ∨ q' = { q with call := q.call.drop }
        ∨ ∃ call r r' h, event = .discover (.advance i) h ∧ q' = { q with call := call }
          ∧ d.client.site.resolver = some r
          ∧ (d.perform event).client.site.resolver = some r'
          ∧ r.advanceCall q.call q.isCancelled = some (call, r')) := by
  cases event with
  | discover event h =>
    have hperform : d.perform (.discover event h) = d.performDiscovery event := rfl
    rw [hperform] at hq' ⊢
    cases hr : d.client.site.resolver with
    | none =>
      rw [requests_performDiscovery_of_none hr] at hq'
      exact .inr ⟨q', hq', .inl rfl⟩
    | some r =>
      rw [performDiscovery_eq hr] at hq' ⊢
      rcases (Discovery.change_perform ⟨r, d.client.site.cache, d.requests⟩ event).request_cases
        hq' with hnew | ⟨q, hq, hsame | hcancel | hdrop | ⟨call, rfl, hadvance, hcall⟩⟩
      · exact .inl hnew
      · exact .inr ⟨q, hq, .inl hsame⟩
      · exact .inr ⟨q, hq, .inr (.inl hcancel)⟩
      · exact .inr ⟨q, hq, .inr (.inr (.inl hdrop))⟩
      · exact .inr
          ⟨q, hq, .inr (.inr (.inr ⟨call, r, _, h, rfl, hadvance, rfl, rfl, hcall⟩))⟩
  | advance call now draw =>
    have hsame : (d.perform (.advance call now draw)).requests = d.requests :=
      requests_stepCall d call now draw
    rw [hsame] at hq'
    exact .inr ⟨q', hq', .inl rfl⟩
  | connectionInfo | forceReconnect | demand | peek | cancel | giveUp | triggerReconnect | reset
  | use | stepRun | answerRun | disposeProvider | shutdown | beginShutdown =>
    exact .inr ⟨q', hq', .inl rfl⟩

end Deployment

/-! ## Events that are steps -/

namespace ClientEvent

/-- The call for the connection that takes a step. -/
def advances? : ClientEvent → Option Nat
  | .advance call .. => some call
  | _ => none

/-- The run that takes a step. -/
def stepsRun? : ClientEvent → Option Nat
  | .stepRun run .. => some run
  | _ => none

end ClientEvent

namespace Deployment

variable {d : Deployment} {event : ClientEvent} {i : Nat}

/-- **The call whose turn it is takes its step**, or heeds its token. -/
theorem calls_of_advances {q : ConnectionCall} (hq : d.calls[i]? = some q)
    (hevent : event.advances? = some i) : ∃ q', (d.perform event).calls[i]? = some q'
      ∧ (q.isCancelled = true ∧ q'.phase = .done (.error .cancelled)
        ∨ ∃ now draw, q'.phase = (d.client.provider.advanceCall q.phase now draw).1
          ∧ (d.perform event).client.provider
            = (d.client.provider.advanceCall q.phase now draw).2) := by
  cases event with
  | advance call now draw =>
    cases hevent
    have hlt := (List.getElem?_eq_some_iff.1 hq).1
    show ∃ q', (d.stepCall i now draw).calls[i]? = some q'
      ∧ (_ ∨ ∃ now' draw', _ ∧ (d.stepCall i now draw).client.provider = _)
    unfold stepCall
    rw [hq]
    dsimp only
    split
    · rename_i hc
      rw [Bool.and_eq_true] at hc
      exact ⟨_, List.getElem?_set_self hlt, .inl ⟨hc.1, rfl⟩⟩
    · exact ⟨_, List.getElem?_set_self hlt, .inr ⟨now, draw, rfl, rfl⟩⟩
  | _ => cases hevent

/-- No call is forgotten. -/
theorem exists_call {q : ConnectionCall} (hq : d.calls[i]? = some q) (event : ClientEvent) :
    ∃ q', (d.perform event).calls[i]? = some q' := by
  have hlt := (List.getElem?_eq_some_iff.1 hq).1
  suffices h : d.calls.length ≤ (d.perform event).calls.length from
    ⟨_, List.getElem?_eq_getElem (Nat.lt_of_lt_of_le hlt h)⟩
  cases event with
  | connectionInfo | forceReconnect | demand | peek =>
    exact (List.sublist_append_left ..).length_le
  | advance call now draw =>
    show d.calls.length ≤ (d.stepCall call now draw).calls.length
    unfold stepCall
    split
    · exact Nat.le_refl _
    · split <;> exact Nat.le_of_eq List.length_set.symm
  | cancel | giveUp => exact Nat.le_of_eq (List.length_modify ..).symm
  | discover event hdials =>
    show d.calls.length ≤ (d.performDiscovery event).calls.length
    unfold performDiscovery
    split <;> exact Nat.le_refl _
  | triggerReconnect | reset | use | stepRun | answerRun | disposeProvider | shutdown
  | beginShutdown => exact Nat.le_refl _

/-- **A call that is over stays as it is.** -/
theorem phase_of_isLive_eq_false {q q' : ConnectionCall} (hq : d.calls[i]? = some q)
    (hover : q.phase.isLive = false) (hq' : (d.perform event).calls[i]? = some q') :
    q'.phase = q.phase := by
  cases goes_of_perform hq' with
  | begins q' hnone => cases hnone.symm.trans hq
  | stays q' hold =>
    cases hq.symm.trans hold
    rfl
  | cancel q' hold =>
    cases hq.symm.trans hold
    rfl
  | giveUp q' hold =>
    cases hq.symm.trans hold
    show q.phase.giveUp = q.phase
    cases hphase : q.phase with
    | done | brokenDown | gone => rfl
    | forcing | asking | waiting =>
      rw [hphase] at hover
      cases hover
  | heeds q' hold hcancelled hlive =>
    cases hq.symm.trans hold
    cases hover.symm.trans hlive
  | steps q' now draw hold =>
    cases hq.symm.trans hold
    show (d.client.provider.advanceCall q.phase now draw).1 = q.phase
    cases hphase : q.phase with
    | done | brokenDown | gone => rfl
    | forcing | asking | waiting =>
      rw [hphase] at hover
      cases hover

end Deployment

/-! ## What no event changes -/

/-- A client connects in the same way all the time. -/
theorem Deployment.settings_perform (d : Deployment) (event : ClientEvent) :
    (d.perform event).client.settings = d.client.settings := by
  cases event with
  | connectionInfo | forceReconnect | demand | peek | cancel | giveUp | reset | use
  | disposeProvider | beginShutdown => rfl
  | advance call now draw =>
    show (d.stepCall call now draw).client.settings = _
    unfold stepCall
    split
    · rfl
    · split <;> rfl
  | triggerReconnect leader now inRuntime =>
    show (d.client.triggerReconnect leader now inRuntime).settings = _
    unfold Client.triggerReconnect
    split <;> rfl
  | stepRun run shuffle now draw =>
    show (d.client.stepRun run shuffle now draw).2.settings = _
    cases hr : d.client.provider.runs[run]? with
    | none => rw [Client.stepRun_of_none hr]
    | some r =>
      rw [Client.stepRun_eq hr]
      rfl
  | answerRun run answer now draw =>
    show (d.client.takeIn run answer now draw).settings = _
    rw [Client.takeIn_eq]
    rfl
  | discover event h =>
    show (d.performDiscovery event).client.settings = _
    unfold performDiscovery
    split <;> rfl
  | shutdown =>
    show d.client.shutdown.settings = _
    unfold Client.shutdown
    split <;> rfl

/-- A client that was shut down stays so. -/
theorem Deployment.isShutDown_perform {d : Deployment} (h : d.client.isShutDown = true)
    (event : ClientEvent) : (d.perform event).client.isShutDown = true := by
  cases event with
  | advance call now draw =>
    show (d.stepCall call now draw).client.isShutDown = true
    unfold stepCall
    split
    · exact h
    · split <;> exact h
  | triggerReconnect leader now inRuntime =>
    show (d.client.triggerReconnect leader now inRuntime).isShutDown = true
    rw [Client.triggerReconnect, if_pos h]
    exact h
  | stepRun run shuffle now draw =>
    show (d.client.stepRun run shuffle now draw).2.isShutDown = true
    cases hr : d.client.provider.runs[run]? with
    | none => rwa [Client.stepRun_of_none hr]
    | some r =>
      rw [Client.stepRun_eq hr]
      exact h
  | answerRun run answer now draw =>
    show (d.client.takeIn run answer now draw).isShutDown = true
    rw [Client.takeIn_eq]
    exact h
  | discover event hdials =>
    show (d.performDiscovery event).client.isShutDown = true
    unfold performDiscovery
    split <;> exact h
  | shutdown =>
    show d.client.shutdown.isShutDown = true
    rw [Client.shutdown, if_pos h]
    exact h
  | beginShutdown => rfl
  | connectionInfo | forceReconnect | demand | peek | cancel | giveUp | reset | use
  | disposeProvider => exact h

/-! ## Delays that can be drawn -/

namespace Provider

theorem Change.config_eq {p q : Provider} (h : Change p q) :
    q.backoff.config = p.backoff.config := by
  rcases h.backoff_cases with h | h | h <;> rw [h] <;> rfl

end Provider

namespace ClientRun

variable (x : ClientRun)

/-! ## Whole runs -/

/-- The cache of a client that was just made holds nothing, or the seeds. -/
theorem cache_client : x.client.site.cache = { channels := { factory := x.factory } }
    ∨ ∃ seeds, x.client.site.cache
      = Cache.use { channels := { factory := x.factory } } (.reconcile seeds) := by
  have hmade := x.made
  unfold Client.new at hmade
  dsimp only at hmade
  split at hmade
  · exact .inl (congrArg (·.site.cache) (Except.ok.inj hmade).symm)
  · rename_i seeds _
    refine .inr ⟨seeds, ?_⟩
    split at hmade
    · cases hmade
    · rename_i resolver cache hnew
      rw [← Except.ok.inj hmade]
      unfold Resolver.new at hnew
      split at hnew
      · cases hnew
      · split at hnew
        · cases hnew
        · split at hnew
          · cases hnew
          · rename_i hreconcile
            cases hnew
            exact (congrArg Prod.snd hreconcile).symm

/-- **What holds of the cache of every client** holds of an empty one and is kept by every use. -/
theorem cache_induction {P : Cache → Prop} (hnew : P { channels := { factory := x.factory } })
    (huse : ∀ c u, (DiscoveryEvent.use u).dials = false → P c → P (c.use u)) (n : Nat) :
    P (x.state n).client.site.cache := by
  induction n with
  | zero =>
    rcases x.cache_client with h | ⟨seeds, h⟩
    · exact h.symm ▸ hnew
    · exact h.symm ▸ huse _ (.reconcile seeds) rfl hnew
  | succ n ih =>
    rcases (x.change_site n).cache_cases with h | ⟨u, hu, h⟩
    · exact h.symm ▸ ih
    · exact h.symm ▸ huse _ u hu ih

/-- The cache of a client holds nothing once it is disposed of. -/
theorem holdsNothingOnceDisposed (n : Nat) :
    (x.state n).client.site.cache.HoldsNothingOnceDisposed :=
  x.cache_induction (fun _ => rfl) (fun _ _ hu h => h.use hu) n

theorem settings_state (n : Nat) :
    (x.state n).client.settings = Client.settingsOf x.config := by
  induction n with
  | zero =>
    obtain ⟨site, hclient⟩ := x.client_eq
    show x.client.settings = _
    rw [hclient]
  | succ n ih => exact (Deployment.settings_perform _ (x.events n)).trans ih

/-- A client keeps its channel factory. -/
theorem factory_state (n : Nat) :
    (x.state n).client.site.cache.channels.factory = x.factory :=
  x.cache_induction (P := fun c => c.channels.factory = x.factory) rfl
    (fun c u _ h => (c.factory_use u).trans h) n

/-- **The cache of a client is genuine.** -/
theorem genuine_state (n : Nat) : (x.state n).client.site.cache.Genuine :=
  x.cache_induction nofun (fun _ u _ h => h.use u) n

theorem generation_mono {m n : Nat} (h : m ≤ n) :
    (x.state m).client.provider.generation ≤ (x.state n).client.provider.generation := by
  induction n, h using Nat.le_induction with
  | base => exact Nat.le_refl _
  | succ n _ ih => exact ih.trans (x.change_provider n).generation_le

/-- No call is ever forgotten. -/
theorem exists_call_of_le {m n : Nat} (hmn : m ≤ n) {i : Nat} {q : ConnectionCall}
    (hq : (x.state m).calls[i]? = some q) : ∃ q', (x.state n).calls[i]? = some q' := by
  induction n, hmn using Nat.le_induction with
  | base => exact ⟨q, hq⟩
  | succ n hmn ih =>
    obtain ⟨q', hq'⟩ := ih
    exact Deployment.exists_call hq' (x.events n)

/-- A call that is over stays so for good. -/
theorem phase_of_le {m n : Nat} (hmn : m ≤ n) {i : Nat} {q q' : ConnectionCall}
    (hq : (x.state m).calls[i]? = some q) (hover : q.phase.isLive = false)
    (hq' : (x.state n).calls[i]? = some q') : q'.phase = q.phase := by
  induction n, hmn using Nat.le_induction generalizing q' with
  | base =>
    cases hq.symm.trans hq'
    rfl
  | succ n hmn ih =>
    obtain ⟨q₁, hq₁⟩ := x.exists_call_of_le hmn hq
    have hsame := ih hq₁
    exact (Deployment.phase_of_isLive_eq_false hq₁ (hsame ▸ hover) hq').trans hsame

/-- A connection that a caller was given is never taken from it. -/
theorem held_of_le {m n : Nat} (hmn : m ≤ n) {i : Nat} {c : Connection}
    (h : (x.state m).held i = some c) : (x.state n).held i = some c := by
  obtain ⟨q, hq, hc⟩ := Option.bind_eq_some_iff.1 h
  obtain ⟨q', hq'⟩ := x.exists_call_of_le hmn hq
  have hover : q.phase.isLive = false := by
    rw [CallPhase.connection?_eq_some.1 hc]
    rfl
  refine Option.bind_eq_some_iff.2 ⟨q', hq', ?_⟩
  rw [x.phase_of_le hmn hq hover hq']
  exact hc

/-- The provider of a client keeps the delays that it was configured with. -/
theorem config_backoff_state (n : Nat) :
    (x.state n).client.provider.backoff.config = x.config.reconnectBackoff := by
  induction n with
  | zero =>
    rw [x.provider_zero]
    rfl
  | succ n ih => exact (x.change_provider n).config_eq.trans ih

/-- **The provider of a client never jams**: its delays can always be drawn. -/
theorem not_jams (n : Nat) : ¬Provider.Jams (x.state n).client.provider.backoff.advance := by
  rw [Provider.jams_iff, Backoff.config_advance, x.config_backoff_state n,
    BackoffConfig.isNaN_jitter (ClientOptions.validate_of_build x.built)]
  nofun

end ClientRun

end ClusterLink
