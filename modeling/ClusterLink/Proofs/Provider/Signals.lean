import ClusterLink.Proofs.Provider.Sharing

/-!
# Signals

A caller that was given a connection makes calls on it, and the provider is shown the failures. A
failure that a detector shows to the provider is a *signal*, and it comes with the generation of the
connection (`CallEvent.signal?`). A watched stream signals its first failure only.

A signal is accepted (`Provider.accepts?`) if its generation is the present one, the provider is not
disposed of, and the status asks for a reconnection. Everything else leaves the provider as it is
(`observe_of_accepts?`).

Whoever holds a connection got it from a provider that was ready with it. As long as the generation
lasts, the provider stays ready with it (`Provider.Backs`): this is why an accepted signal always
replaces a connection, and never a run that is under way.
-/

namespace ClusterLink

/-! ## Calls and what they signal -/

/-- The connection that a caller was given. -/
def CallPhase.connection? : CallPhase → Option Connection
  | .done (.ok c) => some c
  | _ => none

theorem CallPhase.connection?_eq_some {phase : CallPhase} {c : Connection} :
    phase.connection? = some c ↔ phase = .done (.ok c) := by
  cases phase with
  | done result => cases result <;> simp [connection?]
  | _ => simp [connection?]

/-- Whether the call goes on. -/
def CallPhase.isLive : CallPhase → Bool
  | .done _ | .brokenDown | .gone => false
  | _ => true

/-- How a caller stands that takes the connection that is ready. -/
def CallPhase.ofReady? : Option Connection → CallPhase
  | some c => .done (.ok c)
  | none => .gone

/-- **What happens on a connection.** What a call that succeeds answers with is of no concern to the
provider. -/
inductive CallEvent where
  /-- A call of the holder with this number is answered. -/
  | call (holder : Nat) (answer : Except Status Unit)
  /-- A call that answers with a stream is answered. -/
  | openStream (holder : Nat) (answer : Except Status Unit)
  /-- A watched stream is asked, and its source gives this. -/
  | poll (stream : Nat) (polled : StreamPoll Unit)
  /-- The holder shows a status to the detector of its connection. -/
  | observe (holder : Nat) (status : Status)

namespace CallEvent

variable (held : Nat → Option Connection) (streams : List StreamWatch)

/-- **What an event does** to the provider and to the watched streams, given the connections that
are held. -/
def perform (event : CallEvent) (p : Provider) (now : Instant) (inRuntime : Bool) :
    Provider × List StreamWatch :=
  match event with
  | .call holder answer =>
    match held holder with
    | none => (p, streams)
    | some c => ((p.call c.generation answer now inRuntime).2, streams)
  | .openStream holder answer =>
    match held holder with
    | none => (p, streams)
    | some c =>
      match p.openStream c.generation answer now inRuntime with
      | (.ok (_, watch), p) => (p, streams ++ [watch])
      | (.error _, p) => (p, streams)
  | .poll stream polled =>
    match streams[stream]? with
    | none => (p, streams)
    | some watch =>
      let (_, watch, p) := watch.poll p polled now inRuntime
      (p, streams.set stream watch)
  | .observe holder status =>
    match held holder with
    | none => (p, streams)
    | some c => (p.observe c.generation status now inRuntime, streams)

/-- **The signal of an event**: the generation that it speaks of, and the status. -/
def signal? : CallEvent → Option (Nat × Status)
  | .call holder (.error status) | .openStream holder (.error status) | .observe holder status =>
    (held holder).map fun c => (c.generation, status)
  | .poll stream (.failure status) =>
    (streams[stream]?).bind fun watch =>
      if watch.hasSeenFailure then none else some (watch.generation, status)
  | _ => none

variable {held streams}

/-- **An event reaches the provider by its signal alone.** -/
theorem provider_perform (event : CallEvent) (p : Provider) (now : Instant) (inRuntime : Bool) :
    (event.perform held streams p now inRuntime).1
      = (event.signal? held streams).elim p fun s => p.observe s.1 s.2 now inRuntime := by
  cases event with
  | call holder answer =>
    cases hc : held holder <;> cases answer <;> simp [perform, signal?, hc, Provider.call]
  | openStream holder answer =>
    cases hc : held holder <;> cases answer <;>
      simp [perform, signal?, hc, Provider.openStream, Provider.call, Except.map]
  | poll stream polled =>
    cases hw : streams[stream]? with
    | none => cases polled <;> simp [perform, signal?, hw]
    | some watch =>
      cases polled with
      | failure status =>
        cases hs : watch.hasSeenFailure <;>
          simp [perform, signal?, hw, StreamWatch.poll, StreamWatch.see, hs]
      | _ => simp [perform, signal?, hw, StreamWatch.poll, StreamWatch.see]
  | observe holder status => cases hc : held holder <;> simp [perform, signal?, hc]

/-- A watch asks its stream without changing what it watches for. -/
theorem generation_poll {α : Type} (w : StreamWatch) (p : Provider) (polled : StreamPoll α)
    (now : Instant) (inRuntime : Bool) :
    (w.poll p polled now inRuntime).2.1.generation = w.generation := by
  show (w.see p polled now inRuntime).1.generation = w.generation
  unfold StreamWatch.see
  cases polled with
  | failure status =>
    dsimp only
    split <;> rfl
  | _ => rfl

/-- **Where a watch comes from**: it was there before, with the same generation, or it is one over
a stream of a connection that is held. -/
theorem watch_cases (event : CallEvent) (p : Provider) (now : Instant) (inRuntime : Bool)
    {watch : StreamWatch} (h : watch ∈ (event.perform held streams p now inRuntime).2) :
    (∃ old ∈ streams, old.generation = watch.generation)
      ∨ ∃ holder c, held holder = some c ∧ c.generation = watch.generation := by
  have hstays : watch ∈ streams → ∃ old ∈ streams, old.generation = watch.generation :=
    fun h => ⟨watch, h, rfl⟩
  cases event with
  | call holder answer =>
    refine .inl (hstays ?_)
    cases hc : held holder <;> simpa [perform, hc] using h
  | openStream holder answer =>
    cases hc : held holder with
    | none => exact .inl (hstays (by simpa [perform, hc] using h))
    | some c =>
      cases answer with
      | error status =>
        exact .inl (hstays (by
          simpa [perform, hc, Provider.openStream, Provider.call, Except.map] using h))
      | ok value =>
        have hmem : watch ∈ streams ++ [{ generation := c.generation }] := by
          simpa [perform, hc, Provider.openStream, Provider.call, Except.map] using h
        rcases List.mem_append.1 hmem with hold | hnew
        · exact .inl (hstays hold)
        · rw [List.mem_singleton.1 hnew]
          exact .inr ⟨holder, c, hc, rfl⟩
  | poll stream polled =>
    cases hw : streams[stream]? with
    | none => exact .inl (hstays (by simpa [perform, hw] using h))
    | some old =>
      have hmem : watch ∈ streams.set stream (old.poll p polled now inRuntime).2.1 := by
        simpa [perform, hw] using h
      rcases List.mem_or_eq_of_mem_set hmem with hold | rfl
      · exact .inl (hstays hold)
      · exact .inl ⟨old, List.mem_of_getElem? hw,
          (generation_poll old p polled now inRuntime).symm⟩
  | observe holder status =>
    refine .inl (hstays ?_)
    cases hc : held holder <;> simpa [perform, hc] using h

/-- **A signal speaks of a connection** that is held, or that a watched stream came from. -/
theorem signal_cases {event : CallEvent} {generation : Nat} {status : Status}
    (h : event.signal? held streams = some (generation, status)) :
    (∃ holder c, held holder = some c ∧ c.generation = generation)
      ∨ ∃ watch ∈ streams, watch.generation = generation := by
  cases event with
  | call holder answer | openStream holder answer =>
    cases answer with
    | ok value => cases h
    | error failure =>
      obtain ⟨c, hc, heq⟩ := Option.map_eq_some_iff.1 h
      cases heq
      exact .inl ⟨holder, c, hc, rfl⟩
  | observe holder failure =>
    obtain ⟨c, hc, heq⟩ := Option.map_eq_some_iff.1 h
    cases heq
    exact .inl ⟨holder, c, hc, rfl⟩
  | poll stream polled =>
    cases polled with
    | failure failure =>
      obtain ⟨watch, hw, hseen⟩ := Option.bind_eq_some_iff.1 h
      split at hseen
      · cases hseen
      · cases hseen
        exact .inr ⟨watch, List.mem_of_getElem? hw, rfl⟩
    | _ => cases h

end CallEvent

/-- The trigger of a caller that is about to replace the connection. -/
def CallPhase.forced? : CallPhase → Option Trigger
  | .forcing trigger => some trigger
  | _ => none

namespace Provider

/-! ## Which signals are accepted -/

/-- **The trigger of a signal that is accepted.** -/
def accepts? (p : Provider) (generation : Nat) (status : Status) : Option Trigger :=
  if p.isDisposed || p.generation != generation then none else triggerOf status.classify

theorem triggerOf_eq_none {failure : FailureClass} :
    triggerOf failure = none ↔ failure = .other := by
  cases failure <;> simp [triggerOf]

/-- What is asked of a signal that is accepted. -/
theorem accepts?_eq_some {p : Provider} {generation : Nat} {status : Status} {trigger : Trigger} :
    p.accepts? generation status = some trigger ↔ p.isDisposed = false
      ∧ p.generation = generation ∧ triggerOf status.classify = some trigger := by
  unfold accepts?
  cases p.isDisposed <;> simp

/-- **A signal that is not accepted** is of another generation, comes after disposal, or says
nothing about the cluster. -/
theorem accepts?_eq_none {p : Provider} {generation : Nat} {status : Status} :
    p.accepts? generation status = none ↔ p.isDisposed = true
      ∨ p.generation ≠ generation ∨ status.classify = .other := by
  rw [← triggerOf_eq_none]
  unfold accepts?
  cases p.isDisposed <;> simp
  exact Decidable.imp_iff_not_or

/-- **A signal resets the connection if it is accepted**, and changes nothing otherwise. -/
theorem observe_of_accepts? {p : Provider} (ha : p.isAbandoned = false) (generation : Nat)
    (status : Status) (now : Instant) (inRuntime : Bool) :
    p.observe generation status now inRuntime
      = (p.accepts? generation status).elim p (p.advance now inRuntime) := by
  unfold observe accepts? resetFrom
  cases triggerOf status.classify with
  | none => simp
  | some trigger =>
    simp only [ha, Bool.false_eq_true, if_false]
    split <;> rfl

/-- After a new generation has begun, no connection is ready. -/
theorem slot_advance_ne_ready (p : Provider) (now : Instant) (inRuntime : Bool) (trigger : Trigger)
    (c : Connection) : (p.advance now inRuntime trigger).slot ≠ .ready c := by
  rw [advance_eq]
  split <;> exact Slot.noConfusion

/-! ## Connections that are held -/

/-- **The generation is over, or the connection of it is the one that is ready**, unless the
provider is disposed of. -/
def Backs (p : Provider) (generation : Nat) : Prop :=
  generation < p.generation ∨ p.isDisposed = true
    ∨ ∃ c, p.slot = .ready c ∧ c.generation = generation

theorem Backs.of_ready {p : Provider} {c : Connection} (h : p.slot = .ready c) :
    p.Backs c.generation := .inr (.inr ⟨c, h, rfl⟩)

theorem Backs.change {p q : Provider} {generation : Nat} (h : p.Backs generation)
    (hp : p.Coherent) (hq : Change p q) : q.Backs generation := by
  rcases h with h | h | ⟨c, hs, rfl⟩
  · exact .inl (Nat.lt_of_lt_of_le h hq.generation_le)
  · exact .inr (.inl (hq.isDisposed_of_isDisposed h))
  · rcases hq.generation_eq with hg | ⟨hg, -⟩
    · rcases hq.ready hp hs hg with hs | hd
      · exact .of_ready hs
      · exact .inr (.inl hd)
    · refine .inl ?_
      rw [(hp.ready c hs).1, hg]
      exact Nat.lt_succ_self _

/-- Every run that has connected left a connection that is backed. -/
def BacksRuns (p : Provider) : Prop :=
  ∀ (run : Nat) (r : Run) (c : Connection), p.runs[run]? = some r →
    r.phase = .ended (some (.ok c)) → p.Backs c.generation

theorem BacksRuns.change {p q : Provider} (h : p.BacksRuns) (hp : p.Coherent) (hq : Change p q) :
    q.BacksRuns := by
  intro run s c hs hphase
  rcases hq.run_cases hs with ⟨r, hr, -, hproceeds⟩ | hstarts
  · cases hproceeds with
    | stays hsame => exact (h run r c hr (hsame.symm.trans hphase)).change hp hq
    | breaks hw hw' =>
      rw [hphase] at hw'
      cases hw'
    | ends outcome hw hended hends =>
      cases hended.symm.trans hphase
      cases hends with
      | applied _ hd hg hshows hdq hgq => exact .of_ready hshows
  · cases hstarts.phase_eq.symm.trans hphase

/-- **Whoever is given a connection in a step is given one that is backed.** -/
theorem BacksRuns.backs_advanceCall {p : Provider} (h : p.BacksRuns) (hp : p.Coherent)
    (ha : p.isAbandoned = false) {call : CallPhase} {now : Instant} {draw : Float} {c : Connection}
    (hcall : call = .done (.ok c) → p.Backs c.generation)
    (hdone : (p.advanceCall call now draw).1 = .done (.ok c)) :
    (p.advanceCall call now draw).2.Backs c.generation := by
  have hchange := change_advanceCall ha call now draw
  cases call with
  | forcing trigger => cases hdone
  | asking =>
    have hanswer : (p.current now).1 = .answer (.ok c) := by
      cases hcur : (p.current now).1 with
      | wait run => simp [advanceCall, hcur, Demand.phase] at hdone
      | answer result =>
        simp only [advanceCall, hcur, Demand.phase, CallPhase.done.injEq] at hdone
        rw [hdone]
    rcases answers_of_current hanswer with hs | ⟨-, herror⟩
    · exact (Backs.of_ready hs).change hp hchange
    · cases herror
  | waiting run =>
    have houtcome : (p.poll run now draw).1 = .outcome (.ok c) := by
      cases hpoll : (p.poll run now draw).1 with
      | outcome result =>
        simp only [advanceCall, hpoll, Finding.phase, CallPhase.done.injEq] at hdone
        rw [hdone]
      | _ => simp [advanceCall, hpoll, Finding.phase] at hdone
    obtain ⟨r, hr, hphase⟩ := phase_of_poll houtcome
    exact h.change hp hchange run r c hr hphase
  | done result =>
    cases hdone
    exact hcall rfl
  | brokenDown | gone => cases hdone

/-- **An accepted signal of a generation that is backed replaces a connection.** -/
theorem Backs.exists_ready {p : Provider} {generation : Nat} {status : Status} {trigger : Trigger}
    (h : p.Backs generation) (haccepts : p.accepts? generation status = some trigger) :
    ∃ c, p.slot = .ready c ∧ c.generation = generation := by
  obtain ⟨hd, rfl, -⟩ := accepts?_eq_some.1 haccepts
  rcases h with h | h | h
  · exact absurd h (Nat.lt_irrefl _)
  · cases h.symm.trans hd
  · exact h

/-! ## Reports of reconnections -/

/-- Whether the report is that of a reset. -/
def isReconnect : Metric → Bool
  | .reconnect _ => true
  | _ => false

/-- **The generation and the number of resets that were reported.** -/
def tally (p : Provider) : Nat × Nat := (p.generation, p.log.countP isReconnect)

@[simp] theorem tally_callOff (p : Provider) : p.callOff.tally = p.tally := by
  unfold callOff
  split <;> rfl

@[simp] theorem tally_setPhase (p : Provider) (run : Nat) (phase : RunPhase) :
    (p.setPhase run phase).tally = p.tally := rfl

/-- A reset is counted and reported. -/
theorem tally_advance (p : Provider) (now : Instant) (inRuntime : Bool) (trigger : Trigger) :
    (p.advance now inRuntime trigger).tally = (p.tally.1 + 1, p.tally.2 + 1) := by
  have hrenew : (p.renew trigger).tally = (p.tally.1 + 1, p.tally.2 + 1) := by
    refine Prod.ext rfl ?_
    show (p.log ++ [Metric.reconnect trigger.label]).countP isReconnect = _
    rw [List.countP_append]
    rfl
  rw [advance_eq]
  split <;> exact hrenew

@[simp] theorem tally_dispose (p : Provider) : p.dispose.tally = p.tally := by
  unfold dispose
  split
  · rfl
  · exact tally_callOff p

@[simp] theorem tally_current (p : Provider) (now : Instant) :
    (p.current now).2.tally = p.tally := by
  unfold current
  split
  · rfl
  · split
    · rfl
    · rfl
    · split <;> rfl
    · rfl

@[simp] theorem tally_complete (p : Provider) (run : Run) (result : Except Error Link)
    (now : Instant) (draw : Float) : (p.complete run result now draw).2.tally = p.tally := by
  unfold complete
  split
  · rfl
  · split
    · rfl
    · split <;> rfl

@[simp] theorem tally_breakDown (p : Provider) (run : Nat) :
    (p.breakDown run).tally = p.tally := by
  unfold breakDown
  split <;> rfl

@[simp] theorem tally_settle (p : Provider) (run : Nat) (r : Run) (result : Except Error Link)
    (now : Instant) (draw : Float) : (p.settle run r result now draw).tally = p.tally :=
  tally_complete p r result now draw

@[simp] theorem tally_finish (p : Provider) (run : Nat) (result : Except Error Link)
    (now : Instant) (draw : Float) : (p.finish run result now draw).tally = p.tally := by
  have hreport : ∀ r : Run, ({ p with log := p.log ++ [endReport r result now] } : Provider).tally
      = p.tally := by
    intro r
    refine Prod.ext rfl ?_
    show (p.log ++ [endReport r result now]).countP isReconnect = _
    rw [List.countP_append]
    rfl
  unfold finish
  split
  · rfl
  · split
    · split
      · rfl
      · dsimp only
        split
        · rw [tally_breakDown]
          exact hreport _
        · rw [tally_settle]
          exact hreport _
    · rfl

@[simp] theorem tally_poll (p : Provider) (run : Nat) (now : Instant) (draw : Float) :
    (p.poll run now draw).2.tally = p.tally := by
  unfold poll
  split
  · rfl
  · split
    · rfl
    · rfl
    · rfl
    · split
      · rfl
      · split
        · rfl
        · exact tally_settle ..

@[simp] theorem generation_current (p : Provider) (now : Instant) :
    (p.current now).2.generation = p.generation := congrArg Prod.fst (tally_current p now)

@[simp] theorem generation_poll (p : Provider) (run : Nat) (now : Instant) (draw : Float) :
    (p.poll run now draw).2.generation = p.generation :=
  congrArg Prod.fst (tally_poll p run now draw)

/-- The tally once a reset is accepted, if there is one. -/
def tallyAfter (p : Provider) (accepted : Option Trigger) : Nat × Nat :=
  accepted.elim p.tally fun _ => (p.tally.1 + 1, p.tally.2 + 1)

/-- The trigger of a reset that is asked for by hand, unless the provider is disposed of. -/
def grants? (p : Provider) (trigger : Option Trigger) : Option Trigger :=
  if p.isDisposed then none else trigger

theorem tallyAfter_grants?_none (p : Provider) : p.tallyAfter (p.grants? none) = p.tally := by
  unfold grants?
  split <;> rfl

theorem tally_reset (p : Provider) (now : Instant) (inRuntime : Bool) (trigger : Trigger) :
    (p.reset now inRuntime trigger).tally = p.tallyAfter (p.grants? (some trigger)) := by
  unfold reset grants?
  split
  · rfl
  · exact tally_advance p now inRuntime trigger

/-- A caller resets the connection only if it was about to. -/
theorem tally_advanceCall (p : Provider) (call : CallPhase) (now : Instant) (draw : Float) :
    (p.advanceCall call now draw).2.tally = p.tallyAfter (p.grants? call.forced?) := by
  cases call with
  | forcing trigger => exact tally_reset p now true trigger
  | asking => exact (tally_current p now).trans (tallyAfter_grants?_none p).symm
  | waiting run => exact (tally_poll p run now draw).trans (tallyAfter_grants?_none p).symm
  | done | brokenDown | gone => exact (tallyAfter_grants?_none p).symm

end Provider

end ClusterLink
