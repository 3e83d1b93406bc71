import ClusterLink.Proofs.Client.Parts
import ClusterLink.Proofs.Provider.Stopping

/-!
# How the runs of a client end

A run that works ends by its own attempt to connect and by nothing else
(`Deployment.settled_of_stops`), and so does the provider of a client become ready
(`Deployment.ready_cases`).
-/

namespace ClusterLink

namespace Provider

/-! ## Runs that go on -/

/-- **The runs that work go on working.** -/
def KeepsWorking (p q : Provider) : Prop :=
  ∀ (run : Nat) (r s : Run), p.runs[run]? = some r → r.phase = .working →
    q.runs[run]? = some s → s.phase = .working

theorem keepsWorking_of_runs_eq {p q : Provider} (h : q.runs = p.runs) : KeepsWorking p q := by
  intro run r s hr hw hs
  rw [h] at hs
  cases hr.symm.trans hs
  exact hw

theorem KeepsWorking.trans {p q o : Provider} (h : KeepsWorking p q) (h' : KeepsWorking q o)
    (hlen : p.runs.length ≤ q.runs.length) : KeepsWorking p o := by
  intro run r s hr hw hs
  have hlt : run < q.runs.length := Nat.lt_of_lt_of_le (List.getElem?_eq_some_iff.1 hr).1 hlen
  exact h' run _ s (List.getElem?_eq_getElem hlt)
    (h run r _ hr hw (List.getElem?_eq_getElem hlt)) hs

theorem keepsWorking_callOff (p : Provider) : KeepsWorking p p.callOff := by
  intro run r s hr hw hs
  rw [getElem?_runs_callOff, hr] at hs
  cases hs
  exact hw

theorem keepsWorking_start (p : Provider) (now : Instant) : KeepsWorking p (p.start now) := by
  intro run r s hr hw hs
  rw [getElem?_runs_start, if_neg (Nat.ne_of_lt (List.getElem?_eq_some_iff.1 hr).1)] at hs
  cases hr.symm.trans hs
  exact hw

/-- The phase of one run says nothing about the others. -/
theorem keepsWorking_setPhase {p : Provider} {run : Nat} (phase : RunPhase)
    (h : p.phase? run ≠ some .working) : KeepsWorking p (p.setPhase run phase) := by
  intro k r s hr hw hs
  rw [getElem?_runs_setPhase, hr, Option.map_some] at hs
  cases hs
  by_cases hk : run = k
  · subst hk
    exact absurd (by rw [phase?, hr, Option.map_some, hw]) h
  · rw [if_neg hk]
    exact hw

theorem keepsWorking_advance (p : Provider) (now : Instant) (inRuntime : Bool) (trigger : Trigger) :
    KeepsWorking p (p.advance now inRuntime trigger) := by
  have hrenew : KeepsWorking p (p.renew trigger) := keepsWorking_callOff p
  rw [advance_eq]
  split
  · exact hrenew.trans (keepsWorking_start _ now) (Nat.le_of_eq (length_runs_callOff p).symm)
  · exact hrenew

theorem keepsWorking_reset (p : Provider) (now : Instant) (inRuntime : Bool) (trigger : Trigger) :
    KeepsWorking p (p.reset now inRuntime trigger) := by
  unfold reset
  split
  · exact keepsWorking_of_runs_eq rfl
  · exact keepsWorking_advance p now inRuntime trigger

theorem keepsWorking_observe {p : Provider} (ha : p.isAbandoned = false) (generation : Nat)
    (status : Status) (now : Instant) (inRuntime : Bool) :
    KeepsWorking p (p.observe generation status now inRuntime) := by
  rw [observe_of_accepts? ha]
  cases p.accepts? generation status with
  | none => exact keepsWorking_of_runs_eq rfl
  | some trigger => exact keepsWorking_advance p now inRuntime trigger

theorem keepsWorking_dispose (p : Provider) : KeepsWorking p p.dispose := by
  unfold dispose
  split
  · exact keepsWorking_of_runs_eq rfl
  · exact keepsWorking_callOff p

theorem keepsWorking_current (p : Provider) (now : Instant) : KeepsWorking p (p.current now).2 := by
  have hsame : KeepsWorking p p := keepsWorking_of_runs_eq rfl
  unfold current
  split
  · exact hsame
  · split
    · exact hsame
    · exact hsame
    · split
      · exact hsame
      · exact keepsWorking_start p now
    · exact keepsWorking_start p now

theorem keepsWorking_poll (p : Provider) (run : Nat) (now : Instant) (draw : Float) :
    KeepsWorking p (p.poll run now draw).2 := by
  have hset : ∀ {q : Provider} {r : Run} (phase : RunPhase), p.runs[run]? = some r →
      r.phase = .brokenDown → q.runs = p.runs → KeepsWorking p (q.setPhase run phase) := by
    intro q r phase hr hbroken hq k r' s hr' hw hs
    refine keepsWorking_setPhase (p := q) phase ?_ k r' s (by rw [hq, hr']) hw hs
    rw [phase?, hq, hr, Option.map_some, hbroken]
    simp
  unfold poll
  cases hr : p.runs[run]? with
  | none => exact keepsWorking_of_runs_eq rfl
  | some r =>
    dsimp only
    cases hphase : r.phase with
    | working | poisoned | ended => exact keepsWorking_of_runs_eq rfl
    | brokenDown =>
      dsimp only
      split
      · exact hset _ hr hphase rfl
      · split
        · exact hset _ hr hphase rfl
        · exact hset _ hr hphase (runs_complete ..)

/-- **No caller ends a run that works.** -/
theorem keepsWorking_advanceCall (p : Provider) (call : CallPhase) (now : Instant) (draw : Float) :
    KeepsWorking p (p.advanceCall call now draw).2 := by
  cases call with
  | forcing trigger => exact keepsWorking_reset p now true trigger
  | asking => exact keepsWorking_current p now
  | waiting run => exact keepsWorking_poll p run now draw
  | done | brokenDown | gone => exact keepsWorking_of_runs_eq rfl

/-! ## Providers that become ready -/

theorem ready_of_reset {p : Provider} {now : Instant} {inRuntime : Bool} {trigger : Trigger}
    {c : Connection} (h : (p.reset now inRuntime trigger).slot = .ready c) : p.slot = .ready c := by
  unfold reset at h
  split at h
  · exact h
  · exact absurd h (slot_advance_ne_ready p now inRuntime trigger c)

theorem ready_of_observe {p : Provider} (ha : p.isAbandoned = false) {generation : Nat}
    {status : Status} {now : Instant} {inRuntime : Bool} {c : Connection}
    (h : (p.observe generation status now inRuntime).slot = .ready c) : p.slot = .ready c := by
  rw [observe_of_accepts? ha] at h
  cases haccepts : p.accepts? generation status with
  | none =>
    rw [haccepts] at h
    exact h
  | some trigger =>
    rw [haccepts] at h
    exact absurd h (slot_advance_ne_ready p now inRuntime trigger c)

theorem ready_of_dispose {p : Provider} {c : Connection} (h : p.dispose.slot = .ready c) :
    p.slot = .ready c := by
  unfold dispose at h
  split at h
  · exact h
  · cases h

/-- **No caller makes the provider ready.** -/
theorem ready_of_advanceCall {p : Provider} {call : CallPhase} {now : Instant} {draw : Float}
    {c : Connection} (h : (p.advanceCall call now draw).2.slot = .ready c) : p.slot = .ready c := by
  cases call with
  | forcing trigger => exact ready_of_reset h
  | asking =>
    change (p.current now).2.slot = .ready c at h
    unfold current at h
    split at h
    · exact h
    · split at h
      · exact h
      · exact h
      · split at h
        · exact h
        · cases h
      · cases h
  | waiting run =>
    change (p.poll run now draw).2.slot = .ready c at h
    unfold poll at h
    split at h
    · exact h
    · rename_i r _
      split at h
      · exact h
      · exact h
      · exact h
      · split at h
        · exact h
        · split at h
          · exact h
          · change (p.complete r (.error breakdownError) now draw).2.slot = .ready c at h
            unfold complete at h
            split at h
            · exact h
            · split at h
              · exact h
              · cases h
  | done | brokenDown | gone => exact h

/-- **A run that ends makes the provider ready with its own link.** -/
theorem ready_of_finish {p : Provider} {run : Nat} {result : Except Error Link} {now : Instant}
    {draw : Float} {c : Connection} (h : (p.finish run result now draw).slot = .ready c) :
    p.slot = .ready c ∨ ∃ r link, p.runs[run]? = some r ∧ result = .ok link
      ∧ r.generation = p.generation ∧ c = ⟨link, r.trigger, r.generation⟩ := by
  unfold finish at h
  split at h
  · exact .inl h
  · rename_i r hr
    split at h
    · split at h
      · exact .inl h
      · dsimp only at h
        split at h
        · refine .inl ?_
          unfold breakDown at h
          split at h <;> exact h
        · change (complete _ r result now draw).2.slot = .ready c at h
          unfold complete at h
          split at h
          · exact .inl h
          · split at h
            · exact .inl h
            · rename_i hg
              split at h
              · cases h
                exact .inr ⟨r, _, hr, rfl, (not_not.1 hg).symm, rfl⟩
              · cases h
    · exact .inl h

end Provider

namespace Deployment

variable {d : Deployment} {event : ClientEvent}

/-! ## The event by which a run ends -/

/-- The provider of a client changes by the attempt of a run, or leaves the runs that work alone and
does not become ready. -/
theorem provider_cases (ha : d.client.provider.isAbandoned = false) (event : ClientEvent) :
    (∃ run now draw, (d.perform event).client.provider
      = Client.settled d.client.provider run ((d.perform event).client.attempt run) now draw)
    ∨ Provider.KeepsWorking d.client.provider (d.perform event).client.provider
      ∧ ∀ c, (d.perform event).client.provider.slot = .ready c →
        d.client.provider.slot = .ready c := by
  have hsame : (d.perform event).client.provider = d.client.provider →
      Provider.KeepsWorking d.client.provider (d.perform event).client.provider
        ∧ ∀ c, (d.perform event).client.provider.slot = .ready c →
          d.client.provider.slot = .ready c :=
    fun h => ⟨Provider.keepsWorking_of_runs_eq (by rw [h]), fun c hc => h ▸ hc⟩
  cases event with
  | connectionInfo | forceReconnect | demand | peek | cancel | giveUp | beginShutdown =>
    exact .inr (hsame rfl)
  | advance call now draw =>
    refine .inr ?_
    show Provider.KeepsWorking d.client.provider (d.stepCall call now draw).client.provider
      ∧ ∀ c, (d.stepCall call now draw).client.provider.slot = .ready c → _
    unfold stepCall
    split
    · exact ⟨Provider.keepsWorking_of_runs_eq rfl, fun _ h => h⟩
    · split
      · exact ⟨Provider.keepsWorking_of_runs_eq rfl, fun _ h => h⟩
      · exact ⟨Provider.keepsWorking_advanceCall _ _ now draw,
          fun c => Provider.ready_of_advanceCall⟩
  | triggerReconnect leader now inRuntime =>
    refine .inr ?_
    show Provider.KeepsWorking _ (d.client.triggerReconnect leader now inRuntime).provider
      ∧ ∀ c, (d.client.triggerReconnect leader now inRuntime).provider.slot = .ready c → _
    unfold Client.triggerReconnect
    split
    · exact ⟨Provider.keepsWorking_of_runs_eq rfl, fun _ h => h⟩
    · refine ⟨Provider.keepsWorking_reset _ now inRuntime _, fun c hc => ?_⟩
      exact Provider.ready_of_reset hc
  | reset trigger now inRuntime =>
    exact .inr ⟨Provider.keepsWorking_reset _ now inRuntime trigger,
      fun c => Provider.ready_of_reset⟩
  | use event now inRuntime =>
    refine .inr ?_
    have hprovider : (d.perform (.use event now inRuntime)).client.provider
        = (event.signal? d.held d.streams).elim d.client.provider
          fun s => d.client.provider.observe s.1 s.2 now inRuntime :=
      CallEvent.provider_perform event d.client.provider now inRuntime
    rw [hprovider]
    cases event.signal? d.held d.streams with
    | none => exact ⟨Provider.keepsWorking_of_runs_eq rfl, fun _ h => h⟩
    | some signal =>
      exact ⟨Provider.keepsWorking_observe ha signal.1 signal.2 now inRuntime,
        fun c => Provider.ready_of_observe ha⟩
  | stepRun run shuffle now draw =>
    have hclient : (d.perform (.stepRun run shuffle now draw)).client
        = (d.client.stepRun run shuffle now draw).2 := rfl
    rw [hclient]
    cases hr : d.client.provider.runs[run]? with
    | none =>
      rw [Client.stepRun_of_none hr]
      exact .inr ⟨Provider.keepsWorking_of_runs_eq rfl, fun _ h => h⟩
    | some r =>
      refine .inl ⟨run, now, draw, ?_⟩
      rw [Client.stepRun_eq hr, Client.attempt_advanceRun, if_pos rfl]
      rfl
  | answerRun run answer now draw =>
    have hclient : (d.perform (.answerRun run answer now draw)).client
        = d.client.takeIn run answer now draw := rfl
    refine .inl ⟨run, now, draw, ?_⟩
    rw [hclient, Client.takeIn_eq, Client.attempt_advanceRun, if_pos rfl]
    rfl
  | discover event h =>
    refine .inr (hsame ?_)
    show (d.performDiscovery event).client.provider = d.client.provider
    unfold performDiscovery
    split <;> rfl
  | disposeProvider =>
    exact .inr ⟨Provider.keepsWorking_dispose _, fun c => Provider.ready_of_dispose⟩
  | shutdown =>
    refine .inr ?_
    show Provider.KeepsWorking _ d.client.shutdown.provider
      ∧ ∀ c, d.client.shutdown.provider.slot = .ready c → _
    unfold Client.shutdown
    split
    · exact ⟨Provider.keepsWorking_of_runs_eq rfl, fun _ h => h⟩
    · exact ⟨Provider.keepsWorking_dispose _, fun c => Provider.ready_of_dispose⟩

/-- **A run that works is ended by its own attempt alone.** -/
theorem settled_of_stops (ha : d.client.provider.isAbandoned = false) {run : Nat} {r s : Run}
    (hr : d.client.provider.runs[run]? = some r) (hw : r.phase = .working)
    (hs : (d.perform event).client.provider.runs[run]? = some s) (hstops : s.phase ≠ .working) :
    ∃ now draw, (d.perform event).client.provider
      = Client.settled d.client.provider run ((d.perform event).client.attempt run) now draw := by
  rcases provider_cases ha event with ⟨k, now, draw, hprovider⟩ | ⟨hkeeps, -⟩
  · by_cases hk : k = run
    · exact ⟨now, draw, hk ▸ hprovider⟩
    · -- what another run does leaves this one as it is
      refine absurd ?_ hstops
      have hsame : (Client.settled d.client.provider k ((d.perform event).client.attempt k) now
          draw).runs[run]? = d.client.provider.runs[run]? := by
        unfold Client.settled
        split
        · exact Provider.getElem?_runs_finish_ne hk _ now draw
        · exact Provider.getElem?_runs_breakDown_ne hk
        · rfl
      rw [hprovider, hsame] at hs
      cases hr.symm.trans hs
      exact hw
  · exact absurd (hkeeps run r s hr hw hs) hstops

/-- **The provider of a client becomes ready by an attempt that has connected.** -/
theorem ready_cases (ha : d.client.provider.isAbandoned = false) {c : Connection}
    (hs : (d.perform event).client.provider.slot = .ready c) :
    d.client.provider.slot = .ready c ∨ ∃ run r, d.client.provider.runs[run]? = some r
      ∧ (d.perform event).client.attempt run = .ended (.ok c.toLink)
      ∧ r.generation = d.client.provider.generation := by
  rcases provider_cases ha event with ⟨run, now, draw, hprovider⟩ | ⟨-, hready⟩
  · rw [hprovider] at hs
    cases hattempt : (d.perform event).client.attempt run with
    | ended result =>
      rw [hattempt] at hs
      rcases Provider.ready_of_finish hs with h | ⟨r, link, hr, rfl, hg, rfl⟩
      · exact .inl h
      · exact .inr ⟨run, r, hr, hattempt, hg⟩
    | brokenDown =>
      rw [hattempt] at hs
      exact .inl ((Provider.slot_breakDown _ run).symm.trans hs)
    | _ =>
      rw [hattempt] at hs
      exact .inl hs
  · exact .inl (hready c hs)

end Deployment

end ClusterLink
