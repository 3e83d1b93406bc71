import ClusterLink.Client.Basic
import ClusterLink.Proofs.Connection.Holding
import ClusterLink.Proofs.Provider.Signals
import ClusterLink.Proofs.Resolver.Turns

/-!
# Histories of a client

A client is exposed to events, one after another (`ClientEvent`). Callers ask for the connection,
take their steps, are cancelled by their token and give up; calls are made on the connections that
were handed out; the connection is reset; runs take their steps and learn what their node can do;
the resolver, its resolutions and its callers do whatever they may do (`DiscoveryEvent`), and others
use the cache; parts of the client are disposed of, or all of it is shut down. Nothing is assumed
about the order of the events or about the times that they bring.

A `ClientRun` takes a client that was just made through a sequence of events, and `ClientRun.state`
is where it has come. What an event does to the provider is one of the changes of
`Provider.Change`, and what it does to the resolver and the cache is one of `Site.Change`.
-/

namespace ClusterLink

/-! ## Attempts to connect -/

namespace Client

@[simp] theorem attempt_setAttempt (c : Client) (run k : Nat) (phase : ConnectPhase) :
    (c.setAttempt run phase).attempt k = if run = k then phase else c.attempt k := by
  show (((c.attempts ++ List.replicate (run + 1 - c.attempts.length) ConnectPhase.waiting).set run
    phase)).getD k .waiting = if run = k then phase else c.attempts.getD k .waiting
  simp only [List.getD_eq_getElem?_getD, List.getElem?_set, List.length_append,
    List.length_replicate]
  by_cases hk : run = k
  · subst hk
    rw [if_pos rfl, if_pos (by omega), if_pos rfl]
    rfl
  · rw [if_neg hk, if_neg hk, List.getElem?_append]
    split
    · rfl
    · rename_i hlt
      rw [List.getElem?_eq_none (Nat.not_lt.1 hlt), List.getElem?_replicate]
      split <;> rfl

@[simp] theorem site_setAttempt (c : Client) (run : Nat) (phase : ConnectPhase) :
    (c.setAttempt run phase).site = c.site := rfl

@[simp] theorem provider_setAttempt (c : Client) (run : Nat) (phase : ConnectPhase) :
    (c.setAttempt run phase).provider = c.provider := rfl

@[simp] theorem settings_setAttempt (c : Client) (run : Nat) (phase : ConnectPhase) :
    (c.setAttempt run phase).settings = c.settings := rfl

@[simp] theorem isShutDown_setAttempt (c : Client) (run : Nat) (phase : ConnectPhase) :
    (c.setAttempt run phase).isShutDown = c.isShutDown := rfl

/-- The provider once a run has come so far in connecting. -/
def settled (p : Provider) (run : Nat) (phase : ConnectPhase) (now : Instant) (draw : Float) :
    Provider :=
  match phase with
  | .ended result => p.finish run result now draw
  | .brokenDown => p.breakDown run
  | _ => p

/-- Settling a run reaches the provider alone. -/
theorem settleRun_eq (c : Client) (run : Nat) (now : Instant) (draw : Float) :
    c.settleRun run now draw
      = { c with provider := settled c.provider run (c.attempt run) now draw } := by
  unfold settleRun settled
  cases c.attempt run <;> rfl

theorem change_settled {p : Provider} (ha : p.isAbandoned = false) (run : Nat)
    (phase : ConnectPhase) (now : Instant) (draw : Float) :
    Provider.Change p (settled p run phase now draw) := by
  unfold settled
  split
  · exact Provider.change_finish ha run _ now draw
  · exact Provider.change_breakDown p run
  · exact .stay

end Client

/-! ## What happens to a client -/

/-- Whether the event asks for a connection that no cache keeps. Nobody does that to the cache of a
client. -/
def DiscoveryEvent.dials : DiscoveryEvent → Bool
  | .use u => u.dials
  | _ => false

/-- **What may happen to a client.** -/
inductive ClientEvent where
  /-- A caller asks for the connection, and may bring a token that is cancelled already. -/
  | connectionInfo (isCancelled : Bool)
  /-- A caller asks for a new connection. -/
  | forceReconnect (leader : Option EndPoint)
  /-- A caller asks the provider itself, and may replace the connection before. -/
  | demand (force : Option Trigger)
  /-- Somebody takes the connection that is ready, without waiting for one. -/
  | peek
  /-- A call takes its next step. -/
  | advance (call : Nat) (now : Instant) (draw : Float)
  /-- The token of a call is cancelled. -/
  | cancel (call : Nat)
  /-- A call is given up. -/
  | giveUp (call : Nat)
  | triggerReconnect (leader : Option EndPoint) (now : Instant) (inRuntime : Bool)
  /-- The provider itself is reset. -/
  | reset (trigger : Trigger) (now : Instant) (inRuntime : Bool)
  /-- Something happens on a connection that was handed out. -/
  | use (event : CallEvent) (now : Instant) (inRuntime : Bool)
  /-- A run takes its next step. -/
  | stepRun (run : Nat) (shuffle : List Member → List Member) (now : Instant) (draw : Float)
  /-- A run learns what its node can do, or that the node does not tell in time. -/
  | answerRun (run : Nat) (answer : Option (Except Status MethodTable)) (now : Instant)
    (draw : Float)
  /-- Something happens to the resolver or to the cache. -/
  | discover (event : DiscoveryEvent) (h : event.dials = false)
  /-- The provider itself is disposed of. -/
  | disposeProvider
  | shutdown
  /-- Somebody else has begun to shut the client down, or has cancelled its token by hand. What that
  does to its parts follows, if anything does. -/
  | beginShutdown

/-- Whether the event is a caller who asks for another connection. -/
def ClientEvent.forces : ClientEvent → Bool
  | .forceReconnect _ | .demand (some _) => true
  | _ => false

/-- **A call for the connection** and its token. -/
structure ConnectionCall where
  phase : CallPhase
  /-- Whether the token of the call is cancelled. -/
  isCancelled : Bool := false

/-- **A client with its callers**: the calls for the connection and the calls for a refresh, in the
order in which they came, and the streams that are watched. -/
structure Deployment where
  client : Client
  calls : List ConnectionCall := []
  requests : List Request := []
  streams : List StreamWatch := []

namespace Deployment

/-- The connection that a caller holds. -/
def held (d : Deployment) (call : Nat) : Option Connection :=
  (d.calls[call]?).bind (·.phase.connection?)

/-- Changes the provider. -/
def mapProvider (d : Deployment) (f : Provider → Provider) : Deployment :=
  { d with client := { d.client with provider := f d.client.provider } }

/-- A call comes. -/
def come (d : Deployment) (call : ConnectionCall) : Deployment :=
  { d with calls := d.calls ++ [call] }

/-- A call takes its next step; one whose token is cancelled ends with that. -/
def stepCall (d : Deployment) (call : Nat) (now : Instant) (draw : Float) : Deployment :=
  match d.calls[call]? with
  | none => d
  | some q =>
    if q.isCancelled && q.phase.isLive then
      { d with calls := d.calls.set call { q with phase := .done (.error .cancelled) } }
    else
      let (phase, p) := d.client.provider.advanceCall q.phase now draw
      { d with
        client := { d.client with provider := p }
        calls := d.calls.set call { q with phase := phase } }

/-- What happens to the resolver and to the cache. A client of a single node has no resolver. -/
def performDiscovery (d : Deployment) (event : DiscoveryEvent) : Deployment :=
  match d.client.site.resolver, event with
  | some r, event =>
    let e := Discovery.perform ⟨r, d.client.site.cache, d.requests⟩ event
    { d with
      client := { d.client with site := ⟨e.cache, some e.resolver⟩ }
      requests := e.requests }
  | none, .use use =>
    { d with client := { d.client with site := ⟨d.client.site.cache.use use, none⟩ } }
  | none, _ => d

/-- **What an event does.** -/
def perform (d : Deployment) : ClientEvent → Deployment
  | .connectionInfo isCancelled => d.come ⟨d.client.connectionInfo isCancelled, isCancelled⟩
  | .forceReconnect leader => d.come ⟨d.client.forceReconnect leader, false⟩
  | .demand force => d.come ⟨force.elim .asking .forcing, false⟩
  | .peek => d.come ⟨.ofReady? d.client.provider.ready?, false⟩
  | .advance call now draw => d.stepCall call now draw
  | .cancel call =>
    { d with calls := d.calls.modify call fun q => { q with isCancelled := true } }
  | .giveUp call =>
    { d with calls := d.calls.modify call fun q =>
        { q with phase := q.phase.giveUp } }
  | .triggerReconnect leader now inRuntime =>
    { d with client := d.client.triggerReconnect leader now inRuntime }
  | .reset trigger now inRuntime => d.mapProvider (·.reset now inRuntime trigger)
  | .use event now inRuntime =>
    let (p, streams) := event.perform d.held d.streams d.client.provider now inRuntime
    { d with client := { d.client with provider := p }, streams := streams }
  | .stepRun run shuffle now draw =>
    { d with client := (d.client.stepRun run shuffle now draw).2 }
  | .answerRun run answer now draw => { d with client := d.client.takeIn run answer now draw }
  | .discover event _ => d.performDiscovery event
  | .disposeProvider => d.mapProvider Provider.dispose
  | .shutdown => { d with client := d.client.shutdown }
  | .beginShutdown => { d with client := { d.client with isShutDown := true } }

end Deployment

/-- **A run of a new client**: what it is made from, and what happens to it. -/
structure ClientRun where
  options : ClientOptions
  config : ClientConfig
  built : options.build = .ok config
  factory : ChannelFactory
  client : Client
  made : Client.new config factory = .ok client
  events : Nat → ClientEvent

/-- The state after the first `n` events. -/
def ClientRun.state (x : ClientRun) : Nat → Deployment
  | 0 => { client := x.client }
  | n + 1 => (x.state n).perform (x.events n)

/-! ## The steps of a run -/

namespace Client

/-- What a run does next in connecting. -/
def attemptStep (c : Client) (run : Nat) (r : Run) (shuffle : List Member → List Member) :
    ConnectNext × ConnectPhase × Site :=
  (c.attempt run).step c.settings r.trigger (c.provider.isRunCancelled run) shuffle c.site

/-- The client once a run has come so far in connecting. -/
def advanceRun (c : Client) (run : Nat) (phase : ConnectPhase) (site : Site) (now : Instant)
    (draw : Float) : Client :=
  { c.setAttempt run phase with
    site := site
    provider := settled c.provider run phase now draw }

theorem stepRun_eq {c : Client} {run : Nat} {r : Run} (hr : c.provider.runs[run]? = some r)
    (shuffle : List Member → List Member) (now : Instant) (draw : Float) :
    (c.stepRun run shuffle now draw).2
      = c.advanceRun run (c.attemptStep run r shuffle).2.1 (c.attemptStep run r shuffle).2.2 now
        draw := by
  rw [stepRun, hr]
  show (({ c with site := (c.attemptStep run r shuffle).2.2 }.setAttempt run
    (c.attemptStep run r shuffle).2.1).settleRun run now draw) = _
  rw [settleRun_eq, attempt_setAttempt, if_pos rfl]
  rfl

theorem stepRun_of_none {c : Client} {run : Nat} (hr : c.provider.runs[run]? = none)
    (shuffle : List Member → List Member) (now : Instant) (draw : Float) :
    (c.stepRun run shuffle now draw).2 = c := by
  rw [stepRun, hr]

theorem takeIn_eq (c : Client) (run : Nat) (answer : Option (Except Status MethodTable))
    (now : Instant) (draw : Float) :
    c.takeIn run answer now draw
      = c.advanceRun run ((c.attempt run).takeIn answer) c.site now draw := by
  rw [takeIn, settleRun_eq, attempt_setAttempt, if_pos rfl]
  rfl

@[simp] theorem attempt_advanceRun (c : Client) (run k : Nat) (phase : ConnectPhase) (site : Site)
    (now : Instant) (draw : Float) :
    (c.advanceRun run phase site now draw).attempt k
      = if run = k then phase else c.attempt k :=
  attempt_setAttempt c run k phase

end Client

/-! ## What an event does to the resolver and the cache -/

/-- What happens to the resolver or to the cache. -/
def ClientEvent.discovery? : ClientEvent → Option DiscoveryEvent
  | .discover event _ => some event
  | _ => none

/-- **How the resolver and the cache may change** by what happens to them, or by what the client
does with them. -/
inductive Site.Change (requests : List Request) (source : Option DiscoveryEvent) (s : Site) :
    Site → Prop where
  | stay : Change requests source s s
  /-- What may happen to a resolver happens. -/
  | discover (event : DiscoveryEvent) (h : event.dials = false) (hsource : source = some event)
      (r : Resolver) (hr : s.resolver = some r) :
      Change requests source s
        ⟨(Discovery.perform ⟨r, s.cache, requests⟩ event).cache,
          some (Discovery.perform ⟨r, s.cache, requests⟩ event).resolver⟩
  /-- The cache is used, by a run or by somebody else. -/
  | use (use : Cache.Use) (h : (DiscoveryEvent.use use).dials = false)
      (hsource : source = some (.use use) ∨ ∃ node, use = .getOrCreate node) :
      Change requests source s { s with cache := s.cache.use use }
  /-- A run that asks for the members takes a step with its call. -/
  | call (r r' : Resolver) (call call' : RefreshCall) (isCancelled : Bool)
      (hr : s.resolver = some r) (hcall : r.advanceCall call isCancelled = some (call', r')) :
      Change requests source s { s with resolver := some r' }
  | shutdown : Change requests source s s.shutdown

/-- **A step of an attempt to connect** asks for the members, uses the cache, or does neither. -/
theorem ConnectPhase.change_step (settings : ConnectSettings) (trigger : Trigger)
    (isCancelled : Bool) (shuffle : List Member → List Member) (phase : ConnectPhase) (s : Site)
    (requests : List Request) (source : Option DiscoveryEvent) :
    Site.Change requests source s (phase.step settings trigger isCancelled shuffle s).2.2 := by
  cases phase with
  | waiting | brokenDown | ended => exact .stay
  | resolving call =>
    unfold step
    dsimp only
    cases hr : s.resolver with
    | none => exact .stay
    | some r =>
      dsimp only
      cases hcall : r.advanceCall call isCancelled with
      | none => exact .stay
      | some next =>
        obtain ⟨call', r'⟩ := next
        cases call' <;> exact .call r r' call _ isCancelled hr hcall
  | chosen node =>
    have hlink : (link settings node s).2
        = { s with cache := s.cache.use (.getOrCreate node) } := by
      unfold link
      split <;> rename_i h <;> rw [Cache.use, h]
    show Site.Change requests source s (link settings node s).2
    rw [hlink]
    exact .use (.getOrCreate node) rfl (.inr ⟨node, rfl⟩)
  | linked handle timeout =>
    unfold step
    dsimp only
    split
    · exact .stay
    · split <;> exact .stay
  | negotiating handle =>
    unfold step
    dsimp only
    split <;> exact .stay

namespace Deployment

/-- **Every event changes the resolver and the cache** in one of these ways. -/
theorem change_site (d : Deployment) (event : ClientEvent) :
    Site.Change d.requests event.discovery? d.client.site (d.perform event).client.site := by
  cases event with
  | connectionInfo | forceReconnect | demand | peek | cancel | giveUp | reset | use
  | disposeProvider | beginShutdown => exact .stay
  | advance call now draw =>
    show Site.Change d.requests _ d.client.site (d.stepCall call now draw).client.site
    unfold stepCall
    split
    · exact .stay
    · split <;> exact .stay
  | triggerReconnect leader now inRuntime =>
    show Site.Change d.requests _ d.client.site
      (d.client.triggerReconnect leader now inRuntime).site
    unfold Client.triggerReconnect
    split <;> exact .stay
  | stepRun run shuffle now draw =>
    show Site.Change d.requests _ d.client.site (d.client.stepRun run shuffle now draw).2.site
    cases hr : d.client.provider.runs[run]? with
    | none =>
      rw [Client.stepRun_of_none hr]
      exact .stay
    | some r =>
      rw [Client.stepRun_eq hr]
      exact ConnectPhase.change_step ..
  | answerRun run answer now draw =>
    show Site.Change d.requests _ d.client.site (d.client.takeIn run answer now draw).site
    rw [Client.takeIn_eq]
    exact .stay
  | discover event h =>
    show Site.Change d.requests _ d.client.site (d.performDiscovery event).client.site
    unfold performDiscovery
    split
    · exact .discover _ h rfl _ ‹_›
    · rename_i use hr
      have hsite : (⟨d.client.site.cache.use use, none⟩ : Site)
          = { d.client.site with cache := d.client.site.cache.use use } := by rw [← hr]
      exact hsite ▸ .use use h (.inl rfl)
    · exact .stay
  | shutdown =>
    show Site.Change d.requests _ d.client.site d.client.shutdown.site
    unfold Client.shutdown
    split
    · exact .stay
    · exact .shutdown

/-! ## What an event does to the provider -/

/-- **Every event changes the provider** in one of the ways in which it may change. -/
theorem change_provider {d : Deployment} (ha : d.client.provider.isAbandoned = false)
    (event : ClientEvent) :
    Provider.Change d.client.provider (d.perform event).client.provider := by
  cases event with
  | connectionInfo | forceReconnect | demand | peek | cancel | giveUp | beginShutdown =>
    exact .stay
  | advance call now draw =>
    show Provider.Change _ (d.stepCall call now draw).client.provider
    unfold stepCall
    split
    · exact .stay
    · split
      · exact .stay
      · exact Provider.change_advanceCall ha _ now draw
  | triggerReconnect leader now inRuntime =>
    show Provider.Change _ (d.client.triggerReconnect leader now inRuntime).provider
    unfold Client.triggerReconnect
    split
    · exact .stay
    · exact Provider.change_reset _ now inRuntime _
  | reset trigger now inRuntime => exact Provider.change_reset _ now inRuntime trigger
  | use event now inRuntime =>
    show Provider.Change _ (event.perform d.held d.streams d.client.provider now inRuntime).1
    rw [CallEvent.provider_perform]
    cases event.signal? d.held d.streams with
    | none => exact .stay
    | some signal => exact Provider.change_observe _ signal.1 signal.2 now inRuntime
  | stepRun run shuffle now draw =>
    show Provider.Change _ (d.client.stepRun run shuffle now draw).2.provider
    cases hr : d.client.provider.runs[run]? with
    | none =>
      rw [Client.stepRun_of_none hr]
      exact .stay
    | some r =>
      rw [Client.stepRun_eq hr]
      exact Client.change_settled ha run _ now draw
  | answerRun run answer now draw =>
    show Provider.Change _ (d.client.takeIn run answer now draw).provider
    rw [Client.takeIn_eq]
    exact Client.change_settled ha run _ now draw
  | discover event h =>
    show Provider.Change _ (d.performDiscovery event).client.provider
    unfold performDiscovery
    split <;> exact .stay
  | disposeProvider => exact Provider.change_dispose _
  | shutdown =>
    show Provider.Change _ d.client.shutdown.provider
    unfold Client.shutdown
    split
    · exact .stay
    · exact Provider.change_dispose _

/-! ## What becomes of the calls -/

/-- **How a call for the connection begins.** -/
inductive Begins (c : Client) (event : ClientEvent) : ConnectionCall → Prop where
  | asking (isCancelled : Bool) : Begins c event ⟨.asking, isCancelled⟩
  | forcing (trigger : Trigger) (hevent : event.forces = true) :
      Begins c event ⟨.forcing trigger, false⟩
  | shutOut (isCancelled : Bool) (hs : c.isShutDown = true) :
      Begins c event ⟨.done (.error Client.disposedError), isCancelled⟩
  | cancelled : Begins c event ⟨.done (.error .cancelled), true⟩
  | ready (connection : Connection) (hs : c.provider.slot = .ready connection) :
      Begins c event ⟨.done (.ok connection), false⟩
  | gone : Begins c event ⟨.gone, false⟩

theorem begins_connectionInfo (c : Client) (isCancelled : Bool) :
    Begins c (.connectionInfo isCancelled) ⟨c.connectionInfo isCancelled, isCancelled⟩ := by
  unfold Client.connectionInfo
  split
  · exact .shutOut isCancelled ‹_›
  · split
    · rename_i hc
      rw [hc]
      exact .cancelled
    · exact .asking isCancelled

theorem begins_forceReconnect (c : Client) (leader : Option EndPoint) :
    Begins c (.forceReconnect leader) ⟨c.forceReconnect leader, false⟩ := by
  unfold Client.forceReconnect
  split
  · exact .shutOut false ‹_›
  · exact .forcing _ rfl

theorem begins_demand (c : Client) (force : Option Trigger) :
    Begins c (.demand force) ⟨force.elim .asking .forcing, false⟩ := by
  cases force with
  | none => exact .asking false
  | some trigger => exact .forcing trigger rfl

theorem begins_peek (c : Client) : Begins c .peek ⟨.ofReady? c.provider.ready?, false⟩ := by
  unfold Provider.ready?
  split
  · exact .ready _ ‹_›
  · exact .gone

/-- **What becomes of a call**: it comes, it stays as it is, its token is cancelled, it gives up, or
it takes a step. -/
inductive Goes (d : Deployment) (event : ClientEvent) (i : Nat) : ConnectionCall → Prop where
  | begins (q : ConnectionCall) (hnone : d.calls[i]? = none) (h : Begins d.client event q) :
      Goes d event i q
  | stays (q : ConnectionCall) (hq : d.calls[i]? = some q) : Goes d event i q
  | cancel (q : ConnectionCall) (hq : d.calls[i]? = some q) :
      Goes d event i { q with isCancelled := true }
  | giveUp (q : ConnectionCall) (hq : d.calls[i]? = some q) :
      Goes d event i { q with phase := q.phase.giveUp }
  | heeds (q : ConnectionCall) (hq : d.calls[i]? = some q) (hc : q.isCancelled = true)
      (hlive : q.phase.isLive = true) :
      Goes d event i { q with phase := .done (.error .cancelled) }
  | steps (q : ConnectionCall) (now : Instant) (draw : Float) (hq : d.calls[i]? = some q)
      (hevent : event = .advance i now draw) (hc : q.isCancelled = true → q.phase.isLive = false)
      (hp : (d.perform event).client.provider
        = (d.client.provider.advanceCall q.phase now draw).2) :
      Goes d event i { q with phase := (d.client.provider.advanceCall q.phase now draw).1 }

/-- A call that comes is the last one. -/
theorem goes_of_come {d : Deployment} {event : ClientEvent} {i : Nat} {q new : ConnectionCall}
    (h : (d.calls ++ [new])[i]? = some q) (hbegins : Begins d.client event new) :
    Goes d event i q := by
  rw [List.getElem?_append] at h
  split at h
  · exact .stays q h
  · rename_i hlt
    obtain rfl : q = new := List.mem_singleton.1 (List.mem_of_getElem? h)
    exact .begins q (List.getElem?_eq_none (Nat.not_lt.1 hlt)) hbegins

/-- **Where the calls after an event come from.** -/
theorem goes_of_perform {d : Deployment} {event : ClientEvent} {i : Nat} {q : ConnectionCall}
    (h : (d.perform event).calls[i]? = some q) : Goes d event i q := by
  cases event with
  | connectionInfo isCancelled => exact goes_of_come h (begins_connectionInfo _ _)
  | forceReconnect leader => exact goes_of_come h (begins_forceReconnect _ _)
  | demand force => exact goes_of_come h (begins_demand _ _)
  | peek => exact goes_of_come h (begins_peek _)
  | cancel call =>
    obtain ⟨q', hq, rfl⟩ := Option.map_eq_some_iff.1 ((List.getElem?_modify ..).symm.trans h)
    split
    · exact .cancel q' hq
    · exact .stays q' hq
  | giveUp call =>
    obtain ⟨q', hq, rfl⟩ := Option.map_eq_some_iff.1 ((List.getElem?_modify ..).symm.trans h)
    split
    · exact .giveUp q' hq
    · exact .stays q' hq
  | advance call now draw =>
    have hstep : d.perform (.advance call now draw) = d.stepCall call now draw := rfl
    rw [hstep, stepCall] at h
    cases hold : d.calls[call]? with
    | none =>
      rw [hold] at h
      exact .stays q h
    | some old =>
      rw [hold] at h
      dsimp only at h
      by_cases hi : call = i
      · subst hi
        have hlt : call < d.calls.length := (List.getElem?_eq_some_iff.1 hold).1
        split at h
        · rename_i hc
          rw [List.getElem?_set_self hlt] at h
          cases h
          rw [Bool.and_eq_true] at hc
          exact .heeds old hold hc.1 hc.2
        · rename_i hc
          rw [List.getElem?_set_self hlt] at h
          cases h
          refine .steps old now draw hold rfl (fun hcancelled => ?_) ?_
          · simpa [hcancelled] using hc
          · rw [hstep, stepCall, hold]
            dsimp only
            rw [if_neg hc]
      · split at h
        · rw [List.getElem?_set_ne hi] at h
          exact .stays q h
        · rw [List.getElem?_set_ne hi] at h
          exact .stays q h
  | discover event hdials =>
    have hcalls : (d.perform (.discover event hdials)).calls = d.calls := by
      show (d.performDiscovery event).calls = d.calls
      unfold performDiscovery
      split <;> rfl
    rw [hcalls] at h
    exact .stays q h
  | triggerReconnect | reset | use | stepRun | answerRun | disposeProvider | shutdown
  | beginShutdown => exact .stays q h

end Deployment

end ClusterLink
