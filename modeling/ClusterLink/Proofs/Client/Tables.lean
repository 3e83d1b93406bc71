import ClusterLink.Proofs.Client.Pace
import ClusterLink.Proofs.Connection.Replacement
import ClusterLink.Proofs.Node.Selection

/-!
# What runs are told of the cluster

A run that asks for the members waits for a resolution, and the resolution ends by a turn of its own
(`ClientRun.Turns`) and stays as it ended. If it ends over a member table, it finds the members of
that table, or was cancelled, or the cache has not taken the members in (`ClientRun.Settles.cases`).

What is known of an attempt to connect from what has happened before is shown by one induction over
all that may become of the attempt (`ClientRun.attempt_induction`).
-/

namespace ClusterLink

/-! ## Runs and their triggers -/

/-- A run keeps its trigger. -/
theorem Provider.Change.run_trigger_eq {p q : Provider} (h : Change p q) {k : Nat} {r s : Run}
    (hr : p.runs[k]? = some r) (hs : q.runs[k]? = some s) : s.trigger = r.trigger := by
  have hsame : ∀ {o : Provider}, KeepsRuns p o → o.runs[k]? = some s →
      s.trigger = r.trigger := by
    intro o hkeeps ho
    obtain ⟨r', hr', -, htrigger⟩ := hkeeps k s ho
    cases hr.symm.trans hr'
    exact htrigger.symm
  have hset : ∀ {o : Provider} {run : Nat} {phase : RunPhase}, o.runs = p.runs →
      (o.setPhase run phase).runs[k]? = some s → s.trigger = r.trigger := by
    intro o run phase ho hs
    obtain ⟨r', hr', -, htrigger⟩ := keepsRuns_setPhase o run phase k s hs
    rw [ho] at hr'
    cases hr.symm.trans hr'
    exact htrigger.symm
  have hlt : k < p.runs.length := (List.getElem?_eq_some_iff.1 hr).1
  cases h with
  | stay =>
    cases hr.symm.trans hs
    rfl
  | start now hd hpend hready =>
    rw [getElem?_runs_start, if_neg (Nat.ne_of_lt hlt), hr] at hs
    cases hs
    rfl
  | advance now inRuntime trigger hd =>
    rw [advance_eq] at hs
    split at hs
    · have hne : k ≠ (p.renew trigger).runs.length :=
        Nat.ne_of_lt (Nat.lt_of_lt_of_eq hlt (length_runs_callOff p).symm)
      rw [getElem?_runs_start, if_neg hne] at hs
      exact hsame (keepsRuns_callOff p) hs
    · exact hsame (keepsRuns_callOff p) hs
  | dispose hd =>
    rw [dispose_eq hd] at hs
    exact hsame (keepsRuns_callOff p) hs
  | breakDown | lapse | connect | fail | jam => exact hset rfl hs

namespace ClientRun

variable {x : ClientRun} {m n run id : Nat}

/-- **The run was started by the trigger.** -/
def IsStartedBy (x : ClientRun) (n run : Nat) (trigger : Trigger) : Prop :=
  ∃ r, (x.state n).client.provider.runs[run]? = some r ∧ r.trigger = trigger

theorem IsStartedBy.succ {trigger : Trigger} (h : x.IsStartedBy n run trigger) :
    x.IsStartedBy (n + 1) run trigger := by
  obtain ⟨r, hr, rfl⟩ := h
  obtain ⟨s, hs, -⟩ := (x.change_provider n).run_persists hr
  exact ⟨s, hs, (x.change_provider n).run_trigger_eq hr hs⟩

/-- A run has one trigger. -/
theorem IsStartedBy.eq {trigger trigger' : Trigger} (h : x.IsStartedBy n run trigger)
    (h' : x.IsStartedBy n run trigger') : trigger' = trigger := by
  obtain ⟨r, hr, rfl⟩ := h
  obtain ⟨r', hr', rfl⟩ := h'
  cases hr.symm.trans hr'
  rfl

/-! ## What holds of attempts -/

/-- **A run that has begun takes its step** when it is its turn. -/
theorem moves_of_stepsRun (hsteps : (x.events n).stepsRun? = some run)
    (hbegun : (x.state n).client.attempt run ≠ .waiting) :
    ∃ (r : Run) (shuffle : List Member → List Member) (now : Instant) (draw : Float),
      x.events n = .stepRun run shuffle now draw
        ∧ ConnectPhase.Moves (Client.settingsOf x.config) r.trigger
          ((x.state n).client.provider.isRunCancelled run) shuffle (x.state n).client.site
          ((x.state n).client.attempt run) ((x.state (n + 1)).client.attempt run)
          (x.state (n + 1)).client.site := by
  obtain ⟨shuffle, now, draw, hevent⟩ : ∃ shuffle now draw,
      x.events n = .stepRun run shuffle now draw := by
    generalize x.events n = event at hsteps
    cases event with
    | stepRun =>
      cases hsteps
      exact ⟨_, _, _, rfl⟩
    | _ => cases hsteps
  have hrun : (x.state n).client.provider.runs[run]? ≠ none := fun hnone =>
    hbegun ((x.runsFit_state n).fresh run (List.getElem?_eq_none_iff.1 hnone))
  have hattempted := x.attempted n run
  generalize (x.state (n + 1)).client.attempt run = phase at hattempted ⊢
  cases hattempted with
  | stays h => exact absurd rfl (h run shuffle now draw hevent hrun)
  | steps r shuffle now draw phase hevent hr hmoves =>
    rw [x.settings_state] at hmoves
    exact ⟨r, shuffle, now, draw, hevent, hmoves⟩
  | answers answer now draw hanswer => cases hevent.symm.trans hanswer

/-- A run whose turn it is not stays as it is, unless it is answered. -/
theorem attempt_of_stepsRun_ne (hsteps : (x.events n).stepsRun? ≠ some run) :
    (x.state (n + 1)).client.attempt run = (x.state n).client.attempt run
      ∨ ∃ answer, (x.state (n + 1)).client.attempt run
        = ((x.state n).client.attempt run).takeIn answer := by
  have hattempted := x.attempted n run
  generalize (x.state (n + 1)).client.attempt run = phase at hattempted ⊢
  cases hattempted with
  | stays => exact .inl rfl
  | steps r shuffle now draw phase hevent => exact absurd (by rw [hevent]; rfl) hsteps
  | answers answer => exact .inr ⟨answer, rfl⟩

/-- **What holds of all attempts at all times** holds of one that has not begun, goes on to hold,
and is kept by every step and by every answer. -/
theorem attempt_induction {P : Nat → ConnectPhase → Prop} (run : Nat) (hnew : P 0 .waiting)
    (hstays : ∀ n phase, P n phase → P (n + 1) phase)
    (hstep : ∀ n r shuffle now draw phase phase', x.events n = .stepRun run shuffle now draw →
      (x.state n).client.provider.runs[run]? = some r → (x.state n).client.attempt run = phase →
      ConnectPhase.Moves (Client.settingsOf x.config) r.trigger
        ((x.state n).client.provider.isRunCancelled run) shuffle (x.state n).client.site
        phase phase' (x.state (n + 1)).client.site →
      P n phase → P (n + 1) phase')
    (hanswer : ∀ n handle answer now draw, x.events n = .answerRun run answer now draw →
      (x.state n).client.attempt run = .negotiating handle → P n (.negotiating handle) →
      P (n + 1) (.ended (.ok ⟨handle, ConnectPhase.capabilitiesOf answer⟩))) (n : Nat) :
    P n ((x.state n).client.attempt run) := by
  induction n with
  | zero =>
    rw [(x.runsFit_state 0).fresh run (List.getElem?_eq_none_iff.1 (x.getElem?_runs_zero run))]
    exact hnew
  | succ n ih =>
    have hattempted := x.attempted n run
    generalize (x.state (n + 1)).client.attempt run = phase' at hattempted ⊢
    cases hattempted with
    | stays => exact hstays n _ ih
    | steps r shuffle now draw phase' hevent hr hmoves =>
      rw [x.settings_state] at hmoves
      exact hstep n r shuffle now draw _ _ hevent hr rfl hmoves ih
    | answers answer now draw hevent =>
      generalize hphase : (x.state n).client.attempt run = phase at ih ⊢
      cases phase with
      | negotiating handle => exact hanswer n handle answer now draw hevent hphase ih
      | _ => exact hstays n _ ih

/-! ## How resolutions end -/

/-- **A resolution takes a turn** from one instant to the next, by what happens to it. -/
structure Turns (x : ClientRun) (n id : Nat) (event : DiscoveryEvent)
    (phase phase' : ResolutionPhase) : Prop where
  discovery?_eq : (x.events n).discovery? = some event
  worksOn?_eq : event.worksOn? = some id
  before : (x.state n).resolution? id = some phase
  after : (x.state (n + 1)).resolution? id = some phase'
  turn : ∃ r, (x.state n).client.site.resolver = some r
    ∧ ResolutionPhase.Turn r.seeds r.settings.maxAttempts (r.isCancelled id) event.cause
      (x.state n).client.site.cache phase phase' (x.state (n + 1)).client.site.cache

/-- **A resolution is in a phase** since it was in it before, since it is new, or by a turn. -/
theorem resolution_cases {phase : ResolutionPhase}
    (h : (x.state (n + 1)).resolution? id = some phase) :
    (x.state n).resolution? id = some phase
      ∨ (x.state n).resolution? id = none ∧ phase = .waiting
      ∨ ∃ event before, x.Turns n id event before phase := by
  obtain ⟨r', hr', hphase⟩ := Option.bind_eq_some_iff.1 h
  obtain ⟨r, hr⟩ := x.exists_resolver_of_succ hr'
  have hresolution : (x.state n).resolution? id = r.phase? id := by
    rw [Deployment.resolution?, hr, Option.bind_some]
  rw [hresolution]
  rcases (x.change_site n).phase_cases hr hr' hphase with hsame | hnew
    | ⟨event, before, hevent, hworks, -, hbefore, hturn⟩
  · exact .inl hsame
  · exact .inr (.inl hnew)
  · exact .inr
      (.inr ⟨event, before, hevent, hworks, hresolution.trans hbefore, h, r, hr, hturn⟩)

/-- **A resolution goes to another phase** by a turn. -/
theorem turns_of_ne {phase phase' : ResolutionPhase}
    (hphase : (x.state n).resolution? id = some phase)
    (hphase' : (x.state (n + 1)).resolution? id = some phase') (hne : phase ≠ phase') :
    ∃ event, x.Turns n id event phase phase' := by
  rcases resolution_cases hphase' with hsame | ⟨hnone, -⟩ | ⟨event, before, hturns⟩
  · exact absurd (Option.some.inj (hphase.symm.trans hsame)) hne
  · cases hphase.symm.trans hnone
  · cases hphase.symm.trans hturns.before
    exact ⟨event, hturns⟩

/-- **An answer that a resolution waits for** gives it a turn. -/
theorem turns_of_answer {outcome : GossipOutcome} {now : Instant} {hdials} {phase : ResolutionPhase}
    (hevent : x.events n = .discover (.answer id outcome now) hdials)
    (hphase : (x.state n).resolution? id = some phase) (hasking : phase.isAsking = true) :
    ∃ phase', x.Turns n id (.answer id outcome now) phase phase' := by
  obtain ⟨r, hr, hphase'⟩ := Option.bind_eq_some_iff.1 hphase
  have hstate : x.state (n + 1) = (x.state n).performDiscovery (.answer id outcome now) := by
    show (x.state n).perform (x.events n) = _
    rw [hevent]
    rfl
  rw [Deployment.performDiscovery_eq hr] at hstate
  have hwork := r.work_takeIn (x.state n).client.site.cache id outcome now
  generalize hafter : r.takeIn (x.state n).client.site.cache id outcome now = after at hwork
  obtain ⟨r', cache'⟩ := after
  have hsite : (x.state (n + 1)).client.site = ⟨cache', some r'⟩ := by
    rw [hstate]
    show Site.mk (r.takeIn _ id outcome now).2 (some (r.takeIn _ id outcome now).1) = _
    rw [hafter]
  cases hwork with
  | rest hidle => cases hasking.symm.trans (hidle phase hphase')
  | turn before after _ _ hbefore hturn hrecords =>
    cases hphase'.symm.trans hbefore
    refine ⟨after, by rw [hevent]; rfl, rfl, hphase, ?_, r, hr, ?_⟩
    · rw [Deployment.resolution?, hsite, Option.bind_some]
      exact hrecords.phase?_eq
    · rw [hsite]
      exact hturn

/-- **The phase of a resolution goes back to a turn**, if it has begun. -/
theorem exists_turn {phase : ResolutionPhase} (h : (x.state n).resolution? id = some phase) :
    phase = .waiting ∨ ∃ k < n, ∃ event before, x.Turns k id event before phase := by
  induction n with
  | zero =>
    obtain ⟨r, hr, hphase⟩ := Option.bind_eq_some_iff.1 h
    obtain ⟨seeds, -, -, rfl⟩ := x.resolver_client hr
    unfold Resolver.startRefresh at hphase
    split at hphase <;> cases hphase
  | succ n ih =>
    rcases resolution_cases h with hsame | ⟨-, hwaiting⟩ | ⟨event, before, hturns⟩
    · exact (ih hsame).imp_right fun ⟨k, hk, hturns⟩ => ⟨k, Nat.lt_succ_of_lt hk, hturns⟩
    · exact .inl hwaiting
    · exact .inr ⟨n, Nat.lt_succ_self n, event, before, hturns⟩

/-- **A resolution that has ended stays so.** -/
theorem resolution_of_ended {result : Except Error Resolution} (hmn : m ≤ n)
    (h : (x.state m).resolution? id = some (.ended result)) :
    (x.state n).resolution? id = some (.ended result) := by
  induction n, hmn using Nat.le_induction with
  | base => exact h
  | succ n hmn ih =>
    rcases x.resolution_succ n id with hsame | ⟨hnone, -⟩ | ⟨phase, phase', hphase, -, hlt⟩
    · exact hsame.trans ih
    · cases hnone.symm.trans ih
    · cases hphase.symm.trans ih
      rcases Prod.Lex.lt_iff.1 hlt with hless | ⟨-, hless⟩
        <;> exact absurd hless (Nat.not_lt_zero _)

/-- The result of a resolution that has ended. -/
theorem result?_of_ended {result : Except Error Resolution} {r : Resolver}
    (hr : (x.state n).client.site.resolver = some r)
    (h : (x.state n).resolution? id = some (.ended result)) : r.result? id = some result := by
  rw [Deployment.resolution?, hr, Option.bind_some] at h
  rw [Resolver.result?, h]

/-- A resolution that finds the members has ended. -/
theorem resolution_of_result? {resolution : Resolution} {r : Resolver}
    (hr : (x.state n).client.site.resolver = some r)
    (h : r.result? id = some (.ok resolution)) :
    (x.state n).resolution? id = some (.ended (.ok resolution)) := by
  rw [Deployment.resolution?, hr, Option.bind_some]
  unfold Resolver.result? at h
  split at h
  · rename_i hphase
    cases h
    exact hphase
  · cases h
  · cases h

/-! ## How resolutions end over a member table -/

/-- **A resolution ends over a member table**, which is the answer of the node that it has asked. -/
def Settles (x : ClientRun) (n id : Nat) (t : Wire.MemberTable) (result : Except Error Resolution) :
    Prop :=
  ∃ attempt asked left failures now, x.Turns n id (.answer id (.success t.usable) now)
    (.asking attempt asked left failures) (.ended result)

/-- **What comes of a member table**: it is found, unless the resolution was cancelled, or the cache
was disposed of, or the channel factory refuses one of the members. -/
theorem Settles.cases {t : Wire.MemberTable} {result : Except Error Resolution}
    (h : x.Settles n id t result) :
    (∃ resolution, result = .ok resolution ∧ resolution.members = t.usable)
      ∨ result = .error .cancelled
        ∧ (∃ r, (x.state n).client.site.resolver = some r ∧ r.isCancelled id = true)
      ∨ result = .error Cache.disposedError ∧ (x.state n).client.site.cache.isDisposed = true
      ∨ ∃ error, result = .error error
        ∧ ∃ member ∈ t.usable, x.factory.Refuses member.endpoint error := by
  obtain ⟨attempt, asked, left, failures, now, -, -, -, -, r, hr, hturn⟩ := h
  generalize (x.state (n + 1)).client.site.cache = cache' at hturn
  cases hturn with
  | shutOut phase hd hphase => rcases hphase with h | ⟨-, _, _, h⟩ <;> cases h
  | heeds phase hc => exact .inr (.inl ⟨rfl, r, hr, hc⟩)
  | finds asked left failures resolution cache' hc hcause =>
    have hmembers := GossipOutcome.success.inj (TurnCause.answer.inj hcause)
    exact .inl ⟨resolution, rfl, hmembers.symm⟩
  | refusesMembers attempt asked left failures members error cache' hc hcause hcache =>
    cases hcause
    refine .inr (.inr ?_)
    rcases Cache.refuses_of_reconcileIn hcache with ⟨hd, rfl⟩ | ⟨node, hnode, hrefuses⟩
    · exact .inl ⟨rfl, hd⟩
    · obtain ⟨member, hmember, rfl⟩ := List.mem_map.1
        (EndPoint.mem_of_mem_distinct (EndPoint.mem_of_mem_distinct hnode))
      exact .inr ⟨error, rfl, member, hmember, x.factory_state n ▸ hrefuses⟩

end ClientRun

end ClusterLink
