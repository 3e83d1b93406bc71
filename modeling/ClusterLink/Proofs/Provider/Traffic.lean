import ClusterLink.Proofs.Provider.Signals

/-!
# Bursts of signals

Callers that were given connections make calls on them and read streams, while others reset the
connection, runs end, and the provider is disposed of (`TrafficEvent`). Connections of all
generations are in use at once, and any call may fail with any status at any time. A detector is
only had together with a connection, so no signal comes from a generation that nobody was given a
connection of (`Traffic.Sound`).

The result is `signals_reset_once`: whatever the order of events, a burst of failures on the
connections of one generation resets the connection once.
-/

namespace ClusterLink

/-- Whether the event is a signal. Those come from the calls of holders here. -/
def ProviderEvent.isSignal : ProviderEvent → Bool
  | .resetFrom .. | .observe .. => true
  | _ => false

/-- **What may happen to a provider whose connections are in use.** -/
inductive TrafficEvent where
  /-- Something happens to the provider and its callers that is no signal. -/
  | serve (event : ProviderEvent) (h : event.isSignal = false)
  /-- Somebody takes the connection that is ready, without waiting for one. -/
  | peek
  /-- Something happens on a connection that was handed out. -/
  | use (event : CallEvent) (now : Instant) (inRuntime : Bool)

/-- **A provider with its callers, and the streams that are watched.** A caller that was given a
connection holds it from then on. -/
structure Traffic where
  service : Service
  streams : List StreamWatch := []

namespace Traffic

/-- The connection that a caller holds. -/
def held (t : Traffic) (caller : Nat) : Option Connection :=
  (t.service.callers[caller]?).bind CallPhase.connection?

/-- **What an event does.** -/
def perform (t : Traffic) : TrafficEvent → Traffic
  | .serve event _ => { t with service := t.service.perform event }
  | .peek =>
    { t with service :=
        { t.service with
          callers := t.service.callers ++ [.ofReady? t.service.provider.ready?] } }
  | .use event now inRuntime =>
    let (p, streams) := event.perform t.held t.streams t.service.provider now inRuntime
    { service := { t.service with provider := p }, streams := streams }

/-- The signal of an event. -/
def signal? (t : Traffic) : TrafficEvent → Option (Nat × Status)
  | .use event _ _ => event.signal? t.held t.streams
  | _ => none

/-- The trigger of the reset that an event asks for by hand. -/
def manual? (t : Traffic) : TrafficEvent → Option Trigger
  | .serve (.reset _ _ trigger) _ => some trigger
  | .serve (.advance caller _ _) _ => (t.service.callers[caller]?).bind CallPhase.forced?
  | _ => none

/-- **The trigger of the reset that is accepted by an event.** A reset by hand is accepted unless
the provider is disposed of. -/
def accepts? (t : Traffic) (event : TrafficEvent) : Option Trigger :=
  match t.signal? event with
  | some (generation, status) => t.service.provider.accepts? generation status
  | none => t.service.provider.grants? (t.manual? event)

/-! ## One event -/

/-- A signal reaches the provider as a failed call does. -/
theorem provider_of_signal? {t : Traffic} {event : TrafficEvent} {generation : Nat}
    {status : Status} (ha : t.service.provider.isAbandoned = false)
    (h : t.signal? event = some (generation, status)) :
    ∃ now inRuntime, (t.perform event).service.provider
      = (t.accepts? event).elim t.service.provider (t.service.provider.advance now inRuntime) := by
  cases event with
  | serve | peek => cases h
  | use event now inRuntime =>
    refine ⟨now, inRuntime, ?_⟩
    have hsignal : event.signal? t.held t.streams = some (generation, status) := h
    rw [show t.accepts? (.use event now inRuntime)
      = t.service.provider.accepts? generation status by rw [accepts?, h]]
    show (event.perform t.held t.streams t.service.provider now inRuntime).1 = _
    rw [CallEvent.provider_perform, hsignal]
    exact Provider.observe_of_accepts? ha generation status now inRuntime

/-- **Every event is a change of the provider.** -/
theorem change_perform {t : Traffic} (ha : t.service.provider.isAbandoned = false)
    (event : TrafficEvent) :
    Provider.Change t.service.provider (t.perform event).service.provider := by
  cases event with
  | serve event h => exact Service.change_perform ha event
  | peek => exact .stay
  | use event now inRuntime =>
    show Provider.Change _ (event.perform t.held t.streams t.service.provider now inRuntime).1
    rw [CallEvent.provider_perform]
    cases event.signal? t.held t.streams with
    | none => exact .stay
    | some signal => exact Provider.change_observe _ signal.1 signal.2 now inRuntime

/-- What is no signal resets the connection by hand or not at all. -/
theorem tally_of_serve (t : Traffic) (event : ProviderEvent) (h : event.isSignal = false) :
    (t.service.perform event).provider.tally
      = t.service.provider.tallyAfter
        (t.service.provider.grants? (t.manual? (.serve event h))) := by
  have hnone : t.service.provider.tally
      = t.service.provider.tallyAfter (t.service.provider.grants? none) :=
    (Provider.tallyAfter_grants?_none _).symm
  cases event with
  | reset now inRuntime trigger => exact Provider.tally_reset _ now inRuntime trigger
  | resetFrom | observe => cases h
  | advance caller now draw =>
    show (t.service.stepCaller caller now draw).provider.tally
      = t.service.provider.tallyAfter
        (t.service.provider.grants? ((t.service.callers[caller]?).bind CallPhase.forced?))
    unfold Service.stepCaller
    cases t.service.callers[caller]? with
    | none => exact hnone
    | some call => exact Provider.tally_advanceCall _ call now draw
  | come | giveUp => exact hnone
  | dispose => exact (Provider.tally_dispose _).trans hnone
  | finish run result now draw => exact (Provider.tally_finish _ run result now draw).trans hnone
  | breakDown run => exact (Provider.tally_breakDown _ run).trans hnone

/-- **The generation and the reports of resets** grow by one if a reset is accepted, and stay as
they are otherwise. -/
theorem tally_perform {t : Traffic} (ha : t.service.provider.isAbandoned = false)
    (event : TrafficEvent) :
    (t.perform event).service.provider.tally
      = t.service.provider.tallyAfter (t.accepts? event) := by
  cases hsignal : t.signal? event with
  | some signal =>
    obtain ⟨now, inRuntime, hstep⟩ := provider_of_signal? ha hsignal
    rw [hstep]
    cases t.accepts? event with
    | none => rfl
    | some trigger => exact Provider.tally_advance _ now inRuntime trigger
  | none =>
    have hmanual : t.accepts? event = t.service.provider.grants? (t.manual? event) := by
      rw [accepts?, hsignal]
    rw [hmanual]
    cases event with
    | serve event h => exact t.tally_of_serve event h
    | peek => exact (Provider.tallyAfter_grants?_none _).symm
    | use event now inRuntime =>
      -- without a signal the provider is not reached at all
      have hkept : (t.perform (.use event now inRuntime)).service.provider
          = t.service.provider := by
        show (event.perform t.held t.streams t.service.provider now inRuntime).1 = _
        rw [CallEvent.provider_perform, show event.signal? t.held t.streams = none from hsignal]
        rfl
      rw [hkept]
      exact (Provider.tallyAfter_grants?_none _).symm

/-! ## Connections in use -/

/-- **Whatever is held is backed** by the provider: the outcomes of its runs, the connections of the
callers, and the generations of the watched streams. -/
structure Sound (t : Traffic) : Prop where
  isAbandoned_eq : t.service.provider.isAbandoned = false
  coherent : t.service.provider.Coherent
  runs : t.service.provider.BacksRuns
  held : ∀ caller c, t.held caller = some c → t.service.provider.Backs c.generation
  streams : ∀ watch ∈ t.streams, t.service.provider.Backs watch.generation

theorem held_eq_some {t : Traffic} {caller : Nat} {c : Connection} :
    t.held caller = some c ↔ t.service.callers[caller]? = some (.done (.ok c)) := by
  simp [held, Option.bind_eq_some_iff, CallPhase.connection?_eq_some]

namespace Sound

variable {t : Traffic}

/-- A signal is about a generation that is backed. -/
theorem backs_of_signal? (h : t.Sound) {event : TrafficEvent} {generation : Nat} {status : Status}
    (hsignal : t.signal? event = some (generation, status)) :
    t.service.provider.Backs generation := by
  cases event with
  | serve | peek => cases hsignal
  | use event now inRuntime =>
    rcases CallEvent.signal_cases hsignal with ⟨holder, c, hc, heq⟩ | ⟨watch, hw, heq⟩
    · exact heq ▸ h.held holder c hc
    · exact heq ▸ h.streams watch hw

/-- The callers of the provider are given what is backed. -/
theorem backs_of_perform (h : t.Sound) (event : ProviderEvent) {caller : Nat} {c : Connection}
    (hdone : (t.service.perform event).callers[caller]? = some (.done (.ok c))) :
    (t.service.perform event).provider.Backs c.generation := by
  have hchange := Service.change_perform h.isAbandoned_eq event
  have hold : ∀ caller : Nat, t.service.callers[caller]? = some (.done (.ok c)) →
      t.service.provider.Backs c.generation := fun caller hc =>
    h.held caller c (held_eq_some.2 hc)
  rcases Service.caller_cases hdone with ⟨force, hforce⟩ | ⟨old, hc, heq | heq⟩
    | ⟨old, now, draw, hc, -, hnext, hprovider⟩
  · cases force <;> cases hforce
  · exact (hold caller (hc.trans (congrArg some heq.symm))).change h.coherent hchange
  · refine (hold caller ?_).change h.coherent hchange
    rw [hc]
    cases old <;> cases heq
    rfl
  · rw [hprovider]
    exact h.runs.backs_advanceCall h.coherent h.isAbandoned_eq
      (fun heq => hold caller (hc.trans (congrArg some heq))) hnext.symm

/-- **Every event keeps a traffic sound.** -/
theorem perform (h : t.Sound) (event : TrafficEvent) : (t.perform event).Sound := by
  have hchange := change_perform h.isAbandoned_eq event
  have hkeeps : ∀ generation, t.service.provider.Backs generation →
      (t.perform event).service.provider.Backs generation :=
    fun _ hbacks => hbacks.change h.coherent hchange
  constructor
  case isAbandoned_eq => exact hchange.isAbandoned_eq.trans h.isAbandoned_eq
  case coherent => exact h.coherent.change hchange
  case runs => exact h.runs.change h.coherent hchange
  case held =>
    intro caller c hc
    rw [held_eq_some] at hc
    cases event with
    | serve event _ => exact h.backs_of_perform event hc
    | use event now inRuntime => exact hkeeps _ (h.held caller c (held_eq_some.2 hc))
    | peek =>
      rcases List.mem_append.1 (List.mem_of_getElem? hc) with hold | hnew
      · obtain ⟨k, hk⟩ := List.mem_iff_getElem?.1 hold
        exact hkeeps _ (h.held k c (held_eq_some.2 hk))
      · refine hkeeps _ (.of_ready ?_)
        have heq : CallPhase.done (.ok c) = .ofReady? t.service.provider.ready? :=
          List.mem_singleton.1 hnew
        unfold Provider.ready? at heq
        split at heq
        · rename_i c' hs
          cases heq
          exact hs
        · cases heq
  case streams =>
    intro watch hw
    cases event with
    | serve event _ => exact hkeeps _ (h.streams watch hw)
    | peek => exact hkeeps _ (h.streams watch hw)
    | use event now inRuntime =>
      rcases CallEvent.watch_cases event t.service.provider now inRuntime hw with
        ⟨old, hold, heq⟩ | ⟨holder, c, hc, heq⟩
      · exact heq ▸ hkeeps _ (h.streams old hold)
      · exact heq ▸ hkeeps _ (h.held holder c hc)

end Sound

end Traffic

/-! ## Whole histories -/

/-- **The history of a new provider whose connections are used**: its state after the first `n` of
the events. -/
def trafficHistory (config : BackoffConfig) (events : Nat → TrafficEvent) : Nat → Traffic
  | 0 => { service := { provider := .new config } }
  | n + 1 => (trafficHistory config events n).perform (events n)

section

variable (config : BackoffConfig) (events : Nat → TrafficEvent)

/-- The provider at an instant of the history. -/
abbrev trafficProviderAt (n : Nat) : Provider := (trafficHistory config events n).service.provider

/-- The signal that comes at an instant. -/
abbrev signalAt (n : Nat) : Option (Nat × Status) :=
  (trafficHistory config events n).signal? (events n)

/-- The trigger of the reset that is accepted at an instant. -/
abbrev acceptedAt (n : Nat) : Option Trigger :=
  (trafficHistory config events n).accepts? (events n)

theorem sound_trafficHistory (n : Nat) : (trafficHistory config events n).Sound := by
  induction n with
  | zero =>
    refine ⟨rfl, .new config, fun run r c hr => ?_, fun caller c hc => ?_, fun watch hw => ?_⟩
    · simp [trafficHistory, Provider.new] at hr
    · simp [trafficHistory, Traffic.held] at hc
    · cases hw
  | succ n ih => exact ih.perform (events n)

variable {config events}

theorem generation_trafficProviderAt_mono {m n : Nat} (h : m ≤ n) :
    (trafficProviderAt config events m).generation
      ≤ (trafficProviderAt config events n).generation := by
  induction n, h using Nat.le_induction with
  | base => exact Nat.le_refl _
  | succ n _ ih =>
    exact ih.trans (Traffic.change_perform
      (sound_trafficHistory config events n).isAbandoned_eq (events n)).generation_le

/-- What comes of a signal. -/
theorem provider_of_signalAt {n generation : Nat} {status : Status}
    (h : signalAt config events n = some (generation, status)) :
    acceptedAt config events n = (trafficProviderAt config events n).accepts? generation status
      ∧ ∃ now inRuntime, trafficProviderAt config events (n + 1)
        = (acceptedAt config events n).elim (trafficProviderAt config events n)
          ((trafficProviderAt config events n).advance now inRuntime) :=
  ⟨by rw [acceptedAt, Traffic.accepts?, show Traffic.signal? _ _ = _ from h],
    Traffic.provider_of_signal? (sound_trafficHistory config events n).isAbandoned_eq h⟩

/-- **An accepted signal replaces a connection** of the generation that it speaks of. -/
theorem accepted_signal {n generation : Nat} {status : Status} {trigger : Trigger}
    (h : signalAt config events n = some (generation, status))
    (haccepted : acceptedAt config events n = some trigger) :
    Provider.triggerOf status.classify = some trigger
      ∧ (∃ c, (trafficProviderAt config events n).slot = .ready c ∧ c.generation = generation)
      ∧ (trafficProviderAt config events n).generation = generation
      ∧ (trafficProviderAt config events (n + 1)).generation = generation + 1
      ∧ (trafficProviderAt config events (n + 1)).trigger = trigger
      ∧ ∀ c, (trafficProviderAt config events (n + 1)).slot ≠ .ready c := by
  obtain ⟨heq, now, inRuntime, hnext⟩ := provider_of_signalAt h
  have haccepts := heq.symm.trans haccepted
  obtain ⟨-, hg, htrigger⟩ := Provider.accepts?_eq_some.1 haccepts
  rw [haccepted, Option.elim_some] at hnext
  refine ⟨htrigger,
    ((sound_trafficHistory config events n).backs_of_signal? h).exists_ready haccepts, hg, ?_⟩
  rw [hnext, Provider.generation_advance, hg]
  exact ⟨rfl, Provider.trigger_advance ..,
    Provider.slot_advance_ne_ready _ now inRuntime trigger⟩

/-- **No generation accepts two signals.** -/
theorem eq_of_accepted_signals {m n generation : Nat} {status status' : Status}
    (h : signalAt config events m = some (generation, status))
    (h' : signalAt config events n = some (generation, status'))
    (ha : (acceptedAt config events m).isSome = true)
    (ha' : (acceptedAt config events n).isSome = true) : m = n := by
  -- the earlier one ends the generation
  have hlt : ∀ {m n : Nat} {status status' : Status},
      signalAt config events m = some (generation, status) →
      signalAt config events n = some (generation, status') →
      (acceptedAt config events m).isSome = true → (acceptedAt config events n).isSome = true →
      ¬m < n := by
    intro m n status status' h h' ha ha' hmn
    obtain ⟨trigger, ha⟩ := Option.isSome_iff_exists.1 ha
    obtain ⟨trigger', ha'⟩ := Option.isSome_iff_exists.1 ha'
    obtain ⟨-, -, -, hover, -⟩ := accepted_signal h ha
    obtain ⟨-, -, hpresent, -⟩ := accepted_signal h' ha'
    have hle : (trafficProviderAt config events (m + 1)).generation
      ≤ (trafficProviderAt config events n).generation := generation_trafficProviderAt_mono hmn
    rw [hover, hpresent] at hle
    exact absurd hle (Nat.not_succ_le_self _)
  exact Nat.le_antisymm (Nat.not_lt.1 (hlt h' h ha' ha)) (Nat.not_lt.1 (hlt h h' ha ha'))

variable (config events) in
/-- **The generation is the number of resets that were accepted**, and of those that were
reported. -/
theorem tally_trafficProviderAt (n : Nat) :
    (trafficProviderAt config events n).tally
      = (Nat.count (fun k => (acceptedAt config events k).isSome = true) n,
        Nat.count (fun k => (acceptedAt config events k).isSome = true) n) := by
  induction n with
  | zero => rfl
  | succ n ih =>
    have hstep : (trafficProviderAt config events (n + 1)).tally
        = (trafficProviderAt config events n).tallyAfter (acceptedAt config events n) :=
      Traffic.tally_perform (sound_trafficHistory config events n).isAbandoned_eq (events n)
    rw [hstep, Provider.tallyAfter, ih, Nat.count_succ]
    cases h : acceptedAt config events n <;> simp

end

/-! ## The result -/

/-- **A burst of failures resets the connection once.** In every history of a provider whose
connections are in use, a signal that comes from another generation than the present one, or after
disposal, or with a status that says nothing about the cluster, changes nothing in the provider. Any
other signal is accepted: the provider was ready with a connection of the generation of the signal,
and this is replaced; the generation grows by one, with the trigger that the status asks for. No
generation accepts two signals. The generation is the number of resets that were accepted so far, by
a signal or by hand, and as many reconnections were reported. -/
theorem signals_reset_once (config : BackoffConfig) (events : Nat → TrafficEvent) :
    (∀ n generation status, signalAt config events n = some (generation, status) →
      ((trafficProviderAt config events n).generation ≠ generation
          ∨ (trafficProviderAt config events n).isDisposed = true
          ∨ status.classify = .other →
        trafficProviderAt config events (n + 1) = trafficProviderAt config events n)
      ∧ ((trafficProviderAt config events n).generation = generation →
        (trafficProviderAt config events n).isDisposed = false →
        status.classify ≠ .other →
        ∃ trigger, Provider.triggerOf status.classify = some trigger
          ∧ acceptedAt config events n = some trigger
          ∧ (∃ c, (trafficProviderAt config events n).slot = .ready c
            ∧ c.generation = generation)
          ∧ (trafficProviderAt config events (n + 1)).generation = generation + 1
          ∧ (trafficProviderAt config events (n + 1)).trigger = trigger
          ∧ ∀ c, (trafficProviderAt config events (n + 1)).slot ≠ .ready c))
    ∧ (∀ m n generation status status', signalAt config events m = some (generation, status) →
        signalAt config events n = some (generation, status') →
        (acceptedAt config events m).isSome = true →
        (acceptedAt config events n).isSome = true → m = n)
    ∧ ∀ n, (trafficProviderAt config events n).generation
          = Nat.count (fun k => (acceptedAt config events k).isSome = true) n
        ∧ (trafficProviderAt config events n).log.countP Provider.isReconnect
          = (trafficProviderAt config events n).generation := by
  refine ⟨fun n generation status h => ⟨fun hnot => ?_, fun hg hd hother => ?_⟩,
    fun m n generation status status' => eq_of_accepted_signals, fun n => ?_⟩
  · obtain ⟨heq, now, inRuntime, hnext⟩ := provider_of_signalAt h
    rw [hnext, heq, Provider.accepts?_eq_none.2 (by tauto)]
    rfl
  · obtain ⟨trigger, htrigger⟩ : ∃ trigger,
        Provider.triggerOf status.classify = some trigger :=
      Option.ne_none_iff_exists'.1 fun hnone => hother (Provider.triggerOf_eq_none.1 hnone)
    have haccepted : acceptedAt config events n = some trigger :=
      (provider_of_signalAt h).1.trans (Provider.accepts?_eq_some.2 ⟨hd, hg, htrigger⟩)
    obtain ⟨-, hready, -, hnext⟩ := accepted_signal h haccepted
    exact ⟨trigger, htrigger, haccepted, hready, hnext⟩
  · have htally := tally_trafficProviderAt config events n
    have hgeneration := congrArg Prod.fst htally
    exact ⟨hgeneration, (congrArg Prod.snd htally).trans hgeneration.symm⟩

end ClusterLink
