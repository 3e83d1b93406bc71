import ClusterLink.Proofs.Client.Parts
import ClusterLink.Proofs.Resolver.Flight

/-!
# Runs that wait for the members

The runs of a client wait for resolutions beside the callers of the resolver and the refresh in the
background. The resolver counts all of them (`ClientRun.countsWaiters_state`). So a resolution that
a run waits for is not called off, and unless the resolver is shut down it is not cancelled
(`ClientRun.isCancelled_of_waiting`).
-/

namespace ClusterLink

namespace ConnectPhase

/-- The call with which the attempt waits for the members. -/
def call? : ConnectPhase → Option RefreshCall
  | .resolving call => some call
  | _ => none

/-- Whether the attempt counts among the waiters of a resolution. -/
def holds (phase : ConnectPhase) (id : Nat) : Bool := phase.call?.any (·.holds id)

/-- How often the attempt counts among the waiters of a resolution. -/
def weight (phase : ConnectPhase) (id : Nat) : Nat := if phase.holds id then 1 else 0

theorem weight_of_none {phase : ConnectPhase} (h : phase.call? = none) (k : Nat) :
    phase.weight k = 0 := by
  rw [weight, holds, h]
  rfl

theorem weight_of_some {phase : ConnectPhase} {call : RefreshCall} (h : phase.call? = some call)
    (k : Nat) : phase.weight k = call.weight k := by
  rw [weight, holds, h]
  rfl

theorem call?_ofResolution (selector : NodeSelector) (shuffle : List Member → List Member)
    (result : Except Error Resolution) : (ofResolution selector shuffle result).call? = none := by
  rcases ofResolution_cases selector shuffle result with ⟨error, h⟩ | ⟨node, h⟩
    <;> rw [h] <;> rfl

theorem call?_takeIn (phase : ConnectPhase) (answer : Option (Except Status MethodTable)) :
    (phase.takeIn answer).call? = phase.call? := by
  cases phase <;> rfl

end ConnectPhase

/-- The number of runs that hold on to a resolution, when one of them has gone on. -/
theorem Client.countP_setAttempt (c : Client) (run : Nat) (phase : ConnectPhase) (k : Nat) :
    (c.setAttempt run phase).attempts.countP (·.holds k) + (c.attempt run).weight k
      = c.attempts.countP (·.holds k) + phase.weight k := by
  have hpadding : (c.attempts ++ List.replicate (run + 1 - c.attempts.length)
      ConnectPhase.waiting).countP (·.holds k) = c.attempts.countP (·.holds k) := by
    rw [List.countP_append, List.countP_replicate]
    rfl
  have hlt : run < (c.attempts ++ List.replicate (run + 1 - c.attempts.length)
      ConnectPhase.waiting).length := by
    rw [List.length_append, List.length_replicate]
    omega
  have hget : (c.attempts ++ List.replicate (run + 1 - c.attempts.length)
      ConnectPhase.waiting)[run] = c.attempt run := by
    rw [List.getElem_append]
    split
    · rename_i h
      show _ = c.attempts.getD run .waiting
      rw [List.getD_eq_getElem?_getD, List.getElem?_eq_getElem h]
      rfl
    · rename_i h
      show _ = c.attempts.getD run .waiting
      rw [List.getElem_replicate, List.getD_eq_getElem?_getD,
        List.getElem?_eq_none (Nat.not_lt.1 h)]
      rfl
  have hle : (if (c.attempt run).holds k then 1 else 0) ≤ c.attempts.countP (·.holds k) := by
    rw [← hpadding, ← hget]
    exact List.boole_getElem_le_countP (p := fun phase => phase.holds k) hlt
  show ((c.attempts ++ List.replicate (run + 1 - c.attempts.length) ConnectPhase.waiting).set run
    phase).countP (·.holds k) + _ = _
  rw [List.countP_set hlt, hpadding, hget, ConnectPhase.weight, ConnectPhase.weight]
  omega

namespace Deployment

/-- **All who wait for a resolution are counted**, the runs among them. -/
def CountsWaiters (d : Deployment) : Prop :=
  ∀ r, d.client.site.resolver = some r →
    r.Counts fun k => Discovery.guards ⟨r, d.client.site.cache, d.requests⟩ k
      + d.client.attempts.countP (·.holds k)

variable {d : Deployment}

/-- What else happens does not matter. -/
theorem CountsWaiters.of_eq {d' : Deployment} (h : d.CountsWaiters)
    (hsite : d'.client.site = d.client.site) (hrequests : d'.requests = d.requests)
    (hattempts : d'.client.attempts = d.client.attempts) : d'.CountsWaiters := by
  rw [CountsWaiters, hsite, hrequests, hattempts]
  exact h

/-- A run that goes on keeps the count right. -/
theorem CountsWaiters.advanceRun (h : d.CountsWaiters) {run : Nat} {trigger : Trigger}
    {isCancelled : Bool} {shuffle : List Member → List Member} {phase : ConnectPhase}
    {site : Site}
    (hmoves : ConnectPhase.Moves d.client.settings trigger isCancelled shuffle d.client.site
      (d.client.attempt run) phase site) (now : Instant) (draw : Float) :
    CountsWaiters { d with client := d.client.advanceRun run phase site now draw } := by
  intro r' hr'
  show r'.Counts fun k => Discovery.guards ⟨r', site.cache, d.requests⟩ k
    + (d.client.setAttempt run phase).attempts.countP (·.holds k)
  have hr'' : site.resolver = some r' := hr'
  have hset := d.client.countP_setAttempt run phase
  generalize d.client.attempt run = before at hmoves hset
  -- where no call takes a step, the resolver and its waiters stay as they are
  have hsame : site.resolver = d.client.site.resolver →
      (∀ k, phase.weight k = before.weight k) → r'.Counts fun k =>
        Discovery.guards ⟨r', site.cache, d.requests⟩ k
          + (d.client.setAttempt run phase).attempts.countP (·.holds k) := by
    intro hresolver hweight
    have hcount : ∀ k, (d.client.setAttempt run phase).attempts.countP (·.holds k)
        = d.client.attempts.countP (·.holds k) := fun k =>
      Nat.add_right_cancel ((hset k).trans (congrArg _ (hweight k)))
    simp only [hcount]
    exact h r' (hresolver.symm.trans hr'')
  have hadvances : ∀ {r : Resolver} {call call' : RefreshCall},
      d.client.site.resolver = some r → before = .resolving call →
      r.advanceCall call isCancelled = some (call', r') →
      (∀ k, phase.weight k = call'.weight k) →
      r'.Counts fun k => Discovery.guards ⟨r', site.cache, d.requests⟩ k
        + (d.client.setAttempt run phase).attempts.countP (·.holds k) := by
    intro r call call' hr hbefore hcall hweight
    refine (h r hr).advanceCall hcall fun k => ?_
    have hguards : Discovery.guards ⟨r', site.cache, d.requests⟩ k
        = Discovery.guards ⟨r, d.client.site.cache, d.requests⟩ k := by
      rw [Discovery.guards, Discovery.guards, Resolver.refresh_advanceCall hcall]
    have hk := hset k
    rw [hbefore, show (ConnectPhase.resolving call).weight k = call.weight k from
      ConnectPhase.weight_of_some rfl k, hweight] at hk
    rw [hguards]
    omega
  cases hmoves with
  | calls call call' r r₀ hr hcall =>
    cases hr''
    exact hadvances hr rfl hcall fun k => ConnectPhase.weight_of_some rfl k
  | hears call result r r₀ hr hcall =>
    cases hr''
    refine hadvances hr rfl hcall fun k => ?_
    rw [ConnectPhase.weight_of_none (ConnectPhase.call?_ofResolution _ _ _),
      RefreshCall.weight_of_none rfl]
  | lost call hr => cases hr.symm.trans hr''
  | heeds before hc hphase =>
    refine hsame rfl fun k => ?_
    rcases hphase with ⟨handle, timeout, rfl⟩ | ⟨handle, rfl⟩ <;> rfl
  | _ => exact hsame rfl fun _ => rfl

/-- **Every event keeps the count right.** -/
theorem CountsWaiters.perform (h : d.CountsWaiters) (event : ClientEvent) :
    (d.perform event).CountsWaiters := by
  cases event with
  | connectionInfo | forceReconnect | demand | peek | cancel | giveUp | reset | use
  | disposeProvider | beginShutdown => exact h.of_eq rfl rfl rfl
  | advance call now draw =>
    show (d.stepCall call now draw).CountsWaiters
    unfold stepCall
    split
    · exact h
    · split <;> exact h.of_eq rfl rfl rfl
  | triggerReconnect leader now inRuntime =>
    show CountsWaiters { d with client := d.client.triggerReconnect leader now inRuntime }
    unfold Client.triggerReconnect
    split <;> exact h.of_eq rfl rfl rfl
  | stepRun run shuffle now draw =>
    show CountsWaiters { d with client := (d.client.stepRun run shuffle now draw).2 }
    cases hr : d.client.provider.runs[run]? with
    | none =>
      rw [Client.stepRun_of_none hr]
      exact h
    | some r =>
      rw [Client.stepRun_eq hr]
      exact h.advanceRun (ConnectPhase.moves_step ..) now draw
  | answerRun run answer now draw =>
    show CountsWaiters { d with client := d.client.takeIn run answer now draw }
    rw [Client.takeIn_eq]
    intro r hr
    have hcount : ∀ k,
        (d.client.setAttempt run ((d.client.attempt run).takeIn answer)).attempts.countP
          (·.holds k) = d.client.attempts.countP (·.holds k) := fun k => by
      have hset := d.client.countP_setAttempt run ((d.client.attempt run).takeIn answer) k
      rw [ConnectPhase.weight, ConnectPhase.weight, ConnectPhase.holds, ConnectPhase.holds,
        ConnectPhase.call?_takeIn] at hset
      exact Nat.add_right_cancel hset
    show r.Counts fun k => _ + (d.client.setAttempt run _).attempts.countP (·.holds k)
    simp only [hcount]
    exact h r hr
  | discover event hdials =>
    show (d.performDiscovery event).CountsWaiters
    cases hr : d.client.site.resolver with
    | none =>
      intro r' hr'
      have hnone : (d.performDiscovery event).client.site.resolver = none := by
        unfold performDiscovery
        rw [hr]
        cases event <;> first | rfl | exact hr
      cases hnone.symm.trans hr'
    | some r =>
      rw [performDiscovery_eq hr]
      intro r' hr'
      cases hr'
      exact (Discovery.change_perform ⟨r, d.client.site.cache, d.requests⟩ event).counts _
        (h r hr)
  | shutdown =>
    show CountsWaiters { d with client := d.client.shutdown }
    unfold Client.shutdown
    split
    · exact h
    · intro r' hr'
      have hshut : d.client.site.resolver.map Resolver.shutdown = some r' := hr'
      obtain ⟨r, hr, rfl⟩ := Option.map_eq_some_iff.1 hshut
      exact (Discovery.change_perform ⟨r, d.client.site.cache, d.requests⟩ .shutdown).counts _
        (h r hr)

end Deployment

/-- **A change keeps to one resolution in flight.** -/
theorem Site.Change.worksInFlight {requests : List Request} {source : Option DiscoveryEvent}
    {s s' : Site} (h : Change requests source s s') {r r' : Resolver} (hr : s.resolver = some r)
    (hr' : s'.resolver = some r') (hw : r.WorksInFlight) : r'.WorksInFlight := by
  have hsame : r' = r → r'.WorksInFlight := fun heq => heq ▸ hw
  cases h with
  | stay | use => exact hsame (Option.some.inj (hr'.symm.trans hr))
  | discover event hdials hsource r₀ hr₀ =>
    cases hr.symm.trans hr₀
    cases hr'
    exact (Discovery.change_perform ⟨r, s.cache, requests⟩ event).worksInFlight hw
  | call r₀ r₁ call call' isCancelled hr₀ hcall =>
    cases hr.symm.trans hr₀
    cases hr'
    exact hw.advanceCall hcall
  | shutdown =>
    rw [Site.shutdown, hr] at hr'
    cases hr'
    exact (Discovery.change_perform ⟨r, s.cache, requests⟩ .shutdown).worksInFlight hw

/-- A change lets a resolution that has ended make room. -/
theorem Site.Change.makesRoom {requests : List Request} {source : Option DiscoveryEvent}
    {s s' : Site} (h : Change requests source s s') {r r' : Resolver} (hr : s.resolver = some r)
    (hr' : s'.resolver = some r') (hroom : r.MakesRoom) : r'.MakesRoom := by
  have hsame : r' = r → r'.MakesRoom := fun heq => heq ▸ hroom
  cases h with
  | stay | use => exact hsame (Option.some.inj (hr'.symm.trans hr))
  | discover event hdials hsource r₀ hr₀ =>
    cases hr.symm.trans hr₀
    cases hr'
    exact Discovery.makesRoom_perform (d := ⟨r, s.cache, requests⟩) hroom event
  | call r₀ r₁ call call' isCancelled hr₀ hcall =>
    cases hr.symm.trans hr₀
    cases hr'
    exact hroom.advanceCall hcall
  | shutdown =>
    rw [Site.shutdown, hr] at hr'
    cases hr'
    exact Discovery.makesRoom_perform (d := ⟨r, s.cache, requests⟩) hroom .shutdown

/-- A resolver is shut down on purpose, or with its client, whose cache is disposed of then. -/
theorem Site.Change.isShutDown_cases {requests : List Request} {source : Option DiscoveryEvent}
    {s s' : Site} (h : Change requests source s s') {r r' : Resolver} (hr : s.resolver = some r)
    (hr' : s'.resolver = some r') :
    r'.isShutDown = r.isShutDown ∨ source = some .shutdown ∨ s'.cache.isDisposed = true := by
  have hsame : r' = r → r'.isShutDown = r.isShutDown := fun heq => heq ▸ rfl
  cases h with
  | stay | use => exact .inl (hsame (Option.some.inj (hr'.symm.trans hr)))
  | discover event hdials hsource r₀ hr₀ =>
    cases hr.symm.trans hr₀
    cases hr'
    by_cases hevent : event = .shutdown
    · exact .inr (.inl (hevent ▸ hsource))
    · exact .inl ((Discovery.change_perform ⟨r, s.cache, requests⟩ event).isShutDown_eq hevent)
  | call r₀ r₁ call call' isCancelled hr₀ hcall =>
    cases hr.symm.trans hr₀
    cases hr'
    exact .inl (Resolver.Spares.advanceCall hcall).isShutDown_eq
  | shutdown => exact .inr (.inr s.cache.isDisposed_dispose)

/-! ## Whole runs -/

namespace ClientRun

variable (x : ClientRun) {n : Nat} {r : Resolver}

/-- The resolver of a client that was just made has started nothing but its refresh. -/
theorem resolver_client (hr : x.client.site.resolver = some r) :
    ∃ seeds, x.config.topology = .cluster seeds ∧ seeds ≠ []
      ∧ r = (Resolver.startRefresh { seeds := seeds, settings := x.config.resolver }).2 := by
  have hmade := x.made
  unfold Client.new at hmade
  dsimp only at hmade
  split at hmade
  · rw [← Except.ok.inj hmade] at hr
    cases hr
  · rename_i seeds htopology
    refine ⟨seeds, htopology, ?_⟩
    split at hmade
    · cases hmade
    · rename_i resolver cache hnew
      rw [← Except.ok.inj hmade] at hr
      unfold Resolver.new at hnew
      split at hnew
      · cases hnew
      · rename_i hempty
        split at hnew
        · cases hnew
        · split at hnew
          · cases hnew
          · cases hnew
            cases hr
            exact ⟨fun hnil => hempty (by rw [hnil]; rfl), rfl⟩

/-- There has been a resolver before. -/
theorem exists_resolver_of_succ (hr : (x.state (n + 1)).client.site.resolver = some r) :
    ∃ r₀, (x.state n).client.site.resolver = some r₀ := by
  rw [← Option.isSome_iff_exists, ← (x.change_site n).isSome_resolver, hr]
  rfl

/-- **All who wait for a resolution are counted** at every instant. -/
theorem countsWaiters_state (n : Nat) : (x.state n).CountsWaiters := by
  induction n with
  | zero =>
    intro r hr
    obtain ⟨seeds, -, -, rfl⟩ := x.resolver_client hr
    obtain ⟨site, hclient⟩ := x.client_eq
    have hattempts : (x.state 0).client.attempts = [] := by
      show x.client.attempts = []
      rw [hclient]
    have hguards : ∀ k, Discovery.guards
        ⟨(Resolver.startRefresh { seeds := seeds, settings := x.config.resolver }).2,
          (x.state 0).client.site.cache, (x.state 0).requests⟩ k
        + (x.state 0).client.attempts.countP (·.holds k) = 0 := by
      intro k
      have hweight : (Resolver.startRefresh
          { seeds := seeds, settings := x.config.resolver }).2.refresh.weight k = 0 := by
        unfold Resolver.startRefresh
        split <;> rfl
      rw [hattempts, Discovery.guards, hweight]
      rfl
    simp only [hguards]
    unfold Resolver.startRefresh
    split <;> exact ⟨by simp, by simp, fun id hid => absurd hid (Nat.lt_irrefl 0), by simp⟩
  | succ n ih => exact ih.perform (x.events n)

/-- **There is one resolution in flight at most.** -/
theorem worksInFlight_state (hr : (x.state n).client.site.resolver = some r) : r.WorksInFlight := by
  induction n generalizing r with
  | zero =>
    obtain ⟨seeds, -, -, rfl⟩ := x.resolver_client hr
    unfold Resolver.startRefresh
    split <;> exact nofun
  | succ n ih =>
    obtain ⟨r₀, hr₀⟩ := x.exists_resolver_of_succ hr
    exact (x.change_site n).worksInFlight hr₀ hr (ih hr₀)

/-- **A resolution that has ended is in flight no more.** -/
theorem makesRoom_state (hr : (x.state n).client.site.resolver = some r) : r.MakesRoom := by
  induction n generalizing r with
  | zero =>
    obtain ⟨seeds, -, -, rfl⟩ := x.resolver_client hr
    unfold Resolver.startRefresh
    split <;> exact ⟨nofun⟩
  | succ n ih =>
    obtain ⟨r₀, hr₀⟩ := x.exists_resolver_of_succ hr
    exact (x.change_site n).makesRoom hr₀ hr (ih hr₀)

/-- A resolver keeps its seeds and its settings. -/
theorem seeds_and_settings_state (hr : (x.state n).client.site.resolver = some r) :
    x.config.topology = .cluster r.seeds ∧ r.seeds ≠ [] ∧ r.settings = x.config.resolver := by
  induction n generalizing r with
  | zero =>
    obtain ⟨seeds, htopology, hseeds, rfl⟩ := x.resolver_client hr
    unfold Resolver.startRefresh
    split <;> exact ⟨htopology, hseeds, rfl⟩
  | succ n ih =>
    obtain ⟨r₀, hr₀⟩ := x.exists_resolver_of_succ hr
    have hbefore := ih hr₀
    rcases (x.change_site n).rests_or_turns hr₀ hr with ⟨hrests, -⟩
      | ⟨event, id, phase, phase', -, -, -, -, -, hrecords⟩
    · rw [hrests.seeds_eq, hrests.settings_eq]
      exact hbefore
    · rw [hrecords.seeds_eq, hrecords.settings_eq]
      exact hbefore

variable {x}

/-- Who waits for a resolution counts among its waiters. -/
theorem countP_holds_pos {run id : Nat} {call : RefreshCall}
    (hrun : (x.state n).client.attempt run = .resolving call) (hcall : call.guard? = some id) :
    0 < (x.state n).client.attempts.countP (·.holds id) := by
  have hholds : ((x.state n).client.attempt run).holds id = true := by
    rw [hrun]
    show call.holds id = true
    rw [RefreshCall.holds, hcall, beq_self_eq_true]
  have hmem : (x.state n).client.attempt run ∈ (x.state n).client.attempts := by
    by_cases hlt : run < (x.state n).client.attempts.length
    · rw [Client.attempt, List.getD_eq_getElem?_getD, List.getElem?_eq_getElem hlt]
      exact List.getElem_mem hlt
    · rw [Client.attempt, List.getD_eq_getElem?_getD, List.getElem?_eq_none (Nat.not_lt.1 hlt)]
        at hrun
      cases hrun
  exact List.countP_pos_iff.2 ⟨_, hmem, hholds⟩

/-- **A resolution that a run waits for is not cancelled**, unless the resolver is shut down. -/
theorem isCancelled_of_waiting (hr : (x.state n).client.site.resolver = some r)
    (hs : r.isShutDown = false) {run id : Nat} {call : RefreshCall}
    (hrun : (x.state n).client.attempt run = .resolving call) (hcall : call.guard? = some id) :
    r.isCancelled id = false :=
  (x.countsWaiters_state n r hr).not_isCancelled
    (Nat.add_pos_right _ (countP_holds_pos hrun hcall)) hs

/-- A resolution that a run waits for has been started. -/
theorem lt_length_of_waiting (hr : (x.state n).client.site.resolver = some r) {run id : Nat}
    {call : RefreshCall} (hrun : (x.state n).client.attempt run = .resolving call)
    (hcall : call.guard? = some id) : id < r.tasks.length :=
  (x.countsWaiters_state n r hr).lt_length id (Nat.add_pos_right _ (countP_holds_pos hrun hcall))

end ClientRun

end ClusterLink
