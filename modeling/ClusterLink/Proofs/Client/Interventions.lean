import ClusterLink.Proofs.Client.Generations
import ClusterLink.Proofs.Client.Holders
import ClusterLink.Proofs.Provider.Stopping

/-!
# Interventions

A generation of a client lasts until somebody replaces the connection on purpose, disposes of a part
of the client or shuts it down (`ClientEvent.Intervenes`), or until a failed call on the connection
in use asks for another one. So nothing but an intervention ends a generation without a connection
(`ClientRun.IsUndisturbed.succ`).
-/

namespace ClusterLink

/-! ## The provider -/

theorem Client.lasts_settled (p : Provider) (run : Nat) (phase : ConnectPhase) (now : Instant)
    (draw : Float) : Provider.Lasts p (settled p run phase now draw) := by
  unfold settled
  split
  · exact Provider.lasts_finish p run _ now draw
  · exact Provider.lasts_breakDown p run
  · exact ⟨rfl, rfl⟩

/-! ## The cache -/

/-- A cache is disposed of on purpose only. -/
theorem Discovery.isDisposed_perform (d : Discovery) {event : DiscoveryEvent}
    (h : event ≠ .use .dispose) : (d.perform event).cache.isDisposed = d.cache.isDisposed := by
  cases event with
  | use u =>
    refine Cache.isDisposed_use u fun hu => h ?_
    rw [hu]
  | step id resumed arrange now draw =>
    rcases Resolver.cache_step d.cache d.resolver id resumed arrange now draw with hsame | hreseeds
    · exact congrArg Cache.isDisposed hsame
    · exact (congrArg Cache.isDisposed hreseeds).trans
        (Cache.isDisposed_use (.reconcile d.resolver.seeds) nofun)
  | answer id outcome now =>
    rcases Resolver.cache_takeIn d.cache d.resolver id outcome now with hsame
      | ⟨members, -, hfinds⟩
    · exact congrArg Cache.isDisposed hsame
    · exact (congrArg Cache.isDisposed hfinds).trans (Cache.isDisposed_use (.reconcile _) nofun)
  | come | breakDown | startRefresh | refreshStep | shutdown => rfl
  | cancel i =>
    show (d.cancelRequest i).cache.isDisposed = _
    unfold cancelRequest
    split <;> rfl
  | advance i =>
    show (d.stepRequest i).cache.isDisposed = _
    unfold stepRequest
    split
    · rfl
    · split <;> rfl
  | drop i =>
    show (d.dropRequest i).cache.isDisposed = _
    unfold dropRequest
    split <;> rfl

/-- No attempt to connect disposes of the cache. -/
theorem ConnectPhase.Moves.isDisposed_eq {settings : ConnectSettings} {trigger : Trigger}
    {isCancelled : Bool} {shuffle : List Member → List Member} {s s' : Site}
    {phase phase' : ConnectPhase}
    (h : Moves settings trigger isCancelled shuffle s phase phase' s') :
    s'.cache.isDisposed = s.cache.isDisposed := by
  have htakes : ∀ {node : EndPoint} {result : Except Error Handle} {cache : Cache},
      s.cache.getOrCreate node = (result, cache) → cache.isDisposed = s.cache.isDisposed := by
    intro node result cache hcache
    have hsame := Cache.isDisposed_use (c := s.cache) (.getOrCreate node) nofun
    rw [Cache.use, hcache] at hsame
    exact hsame
  cases h with
  | links node handle cache hcache => exact htakes hcache
  | prepares node handle cache timeout hcache => exact htakes hcache
  | refused node error cache hcache => exact htakes hcache
  | _ => rfl

/-! ## Interventions -/

/-- **Somebody intervenes**: the connection is replaced on purpose, a part of the client is disposed
of, or the client is shut down. -/
def ClientEvent.Intervenes (d : Deployment) : ClientEvent → Prop
  | .advance call .. => ∃ q trigger, d.calls[call]? = some q ∧ q.phase = .forcing trigger
  | .discover event _ => event = .use .dispose
  | .triggerReconnect .. | .reset .. | .disposeProvider | .shutdown | .beginShutdown => True
  | _ => False

namespace Deployment

variable {d : Deployment} {event : ClientEvent}

/-- **Without an intervention a generation lasts**, unless a signal is heeded. -/
theorem lasts_perform (h : ¬event.Intervenes d)
    (huse : ∀ use now inRuntime, event = .use use now inRuntime →
      (d.perform event).client.provider = d.client.provider) :
    Provider.Lasts d.client.provider (d.perform event).client.provider := by
  cases event with
  | connectionInfo | forceReconnect | demand | peek | cancel | giveUp => exact ⟨rfl, rfl⟩
  | advance call now draw =>
    show Provider.Lasts _ (d.stepCall call now draw).client.provider
    unfold stepCall
    split
    · exact ⟨rfl, rfl⟩
    · rename_i q hq
      split
      · exact ⟨rfl, rfl⟩
      · exact Provider.lasts_advanceCall _
          (fun trigger hphase => h ⟨q, trigger, hq, hphase⟩) now draw
  | use use now inRuntime =>
    rw [huse use now inRuntime rfl]
    exact ⟨rfl, rfl⟩
  | stepRun run shuffle now draw =>
    show Provider.Lasts _ (d.client.stepRun run shuffle now draw).2.provider
    cases hr : d.client.provider.runs[run]? with
    | none =>
      rw [Client.stepRun_of_none hr]
      exact ⟨rfl, rfl⟩
    | some r =>
      rw [Client.stepRun_eq hr]
      exact Client.lasts_settled _ run _ now draw
  | answerRun run answer now draw =>
    show Provider.Lasts _ (d.client.takeIn run answer now draw).provider
    rw [Client.takeIn_eq]
    exact Client.lasts_settled _ run _ now draw
  | discover event hdials =>
    show Provider.Lasts _ (d.performDiscovery event).client.provider
    unfold performDiscovery
    split <;> exact ⟨rfl, rfl⟩
  | triggerReconnect | reset | disposeProvider | shutdown | beginShutdown => exact (h trivial).elim

theorem isDisposed_cache_perform (h : ¬event.Intervenes d) :
    (d.perform event).client.site.cache.isDisposed = d.client.site.cache.isDisposed := by
  cases event with
  | connectionInfo | forceReconnect | demand | peek | cancel | giveUp | use => rfl
  | advance call now draw =>
    show (d.stepCall call now draw).client.site.cache.isDisposed = _
    unfold stepCall
    split
    · rfl
    · split <;> rfl
  | stepRun run shuffle now draw =>
    show (d.client.stepRun run shuffle now draw).2.site.cache.isDisposed = _
    cases hr : d.client.provider.runs[run]? with
    | none => rw [Client.stepRun_of_none hr]
    | some r =>
      rw [Client.stepRun_eq hr]
      exact (ConnectPhase.moves_step ..).isDisposed_eq
  | answerRun run answer now draw =>
    show (d.client.takeIn run answer now draw).site.cache.isDisposed = _
    rw [Client.takeIn_eq]
    rfl
  | discover event hdials =>
    show (d.performDiscovery event).client.site.cache.isDisposed = _
    unfold performDiscovery
    split
    · exact Discovery.isDisposed_perform _ h
    · rename_i u _
      exact Cache.isDisposed_use u fun hu => h (congrArg DiscoveryEvent.use hu)
    · rfl
  | triggerReconnect | reset | disposeProvider | shutdown | beginShutdown => exact (h trivial).elim

theorem isShutDown_perform_eq (h : ¬event.Intervenes d) :
    (d.perform event).client.isShutDown = d.client.isShutDown := by
  cases event with
  | connectionInfo | forceReconnect | demand | peek | cancel | giveUp | use => rfl
  | advance call now draw =>
    show (d.stepCall call now draw).client.isShutDown = _
    unfold stepCall
    split
    · rfl
    · split <;> rfl
  | stepRun run shuffle now draw =>
    show (d.client.stepRun run shuffle now draw).2.isShutDown = _
    cases hr : d.client.provider.runs[run]? with
    | none => rw [Client.stepRun_of_none hr]
    | some r =>
      rw [Client.stepRun_eq hr]
      rfl
  | answerRun run answer now draw =>
    show (d.client.takeIn run answer now draw).isShutDown = _
    rw [Client.takeIn_eq]
    rfl
  | discover event hdials =>
    show (d.performDiscovery event).client.isShutDown = _
    unfold performDiscovery
    split <;> rfl
  | triggerReconnect | reset | disposeProvider | shutdown | beginShutdown => exact (h trivial).elim

end Deployment

/-! ## Who replaces the connection -/

/-- A call that replaces the connection was made for that. -/
theorem Provider.advanceCall_ne_forcing (p : Provider) {phase : CallPhase} (now : Instant)
    (draw : Float) (h : ∀ trigger, phase ≠ .forcing trigger) (trigger : Trigger) :
    (p.advanceCall phase now draw).1 ≠ .forcing trigger := by
  cases phase with
  | forcing t => exact absurd rfl (h t)
  | asking =>
    rw [advanceCall]
    unfold Demand.phase
    split <;> simp
  | waiting run =>
    rw [advanceCall]
    unfold Finding.phase
    split <;> simp
  | done | brokenDown | gone => simp [advanceCall]

/-- Whether the event leaves the connection and the parts of the client to those who use them:
nobody asks for another connection, disposes of anything or shuts the client down. -/
def ClientEvent.isPeaceful : ClientEvent → Bool
  | .forceReconnect _ | .demand (some _) | .triggerReconnect .. | .reset .. | .disposeProvider
  | .shutdown | .beginShutdown | .discover (.use .dispose) _ => false
  | _ => true

namespace ClientRun

variable {x : ClientRun} {n : Nat}

/-- A call that replaces the connection was made by somebody who asked for another one. -/
theorem phase_ne_forcing (h : ∀ n, (x.events n).forces = false) {i : Nat} {q : ConnectionCall}
    (hq : (x.state n).calls[i]? = some q) (trigger : Trigger) : q.phase ≠ .forcing trigger := by
  induction n generalizing q trigger with
  | zero => cases hq
  | succ n ih =>
    cases Deployment.goes_of_perform hq with
    | begins q hnone hbegins =>
      cases hbegins with
      | forcing trigger' hforces => cases (h n).symm.trans hforces
      | _ => nofun
    | stays q hq₀ | cancel q hq₀ => exact ih hq₀ trigger
    | giveUp q hq₀ =>
      have hold := ih hq₀
      show q.phase.giveUp ≠ .forcing trigger
      cases hphase : q.phase with
      | forcing trigger' => exact absurd hphase (hold trigger')
      | _ => nofun
    | heeds => nofun
    | steps q now draw hq₀ => exact Provider.advanceCall_ne_forcing _ now draw (ih hq₀) trigger

/-- **Nobody intervenes in a run of peaceful events.** -/
theorem not_intervenes (h : ∀ n, (x.events n).isPeaceful = true) (n : Nat) :
    ¬(x.events n).Intervenes (x.state n) := by
  have hforces : ∀ n, (x.events n).forces = false := fun n => by
    have hn := h n
    generalize x.events n = event at hn ⊢
    cases event with
    | demand force =>
      cases force with
      | none => rfl
      | some trigger => cases hn
    | forceReconnect => cases hn
    | _ => rfl
  have hn := h n
  generalize x.events n = event at hn
  cases event with
  | advance call now draw =>
    rintro ⟨q, trigger, hq, hphase⟩
    exact phase_ne_forcing hforces hq trigger hphase
  | discover event hdials =>
    intro hdispose
    cases hdispose
    cases hn
  | triggerReconnect | reset | disposeProvider | shutdown | beginShutdown => cases hn
  | _ => exact not_false

/-- **Without an intervention a generation without a connection lasts.** -/
theorem IsUndisturbed.succ {generation : Nat}
    (h : x.IsUndisturbed generation n) (hnot : ¬(x.events n).Intervenes (x.state n))
    (hslot : ∀ c, (x.state n).client.provider.slot ≠ .ready c) :
    x.IsUndisturbed generation (n + 1) := by
  have hlasts : Provider.Lasts (x.state n).client.provider (x.state (n + 1)).client.provider :=
    Deployment.lasts_perform hnot fun _ _ _ hevent => provider_of_use hslot hevent
  exact
    { generation_eq := hlasts.1.trans h.generation_eq
      provider := hlasts.2.trans h.provider
      client := (Deployment.isShutDown_perform_eq hnot).trans h.client
      cache := (Deployment.isDisposed_cache_perform hnot).trans h.cache }

end ClientRun

end ClusterLink
