import ClusterLink.Proofs.Client.Deployment
import Mathlib.Data.Nat.Count

/-!
# How runs connect

The run of a provider connects in phases. What one step makes of the phase, and of the resolver and
the cache, is told by `ConnectPhase.Moves`; which step or answer an attempt to connect goes back to
is told by `Deployment.Attempted`. A run whose attempt is over is over itself, as its result is
handed to the provider at once (`Deployment.RunsFit`).
-/

namespace ClusterLink

namespace ConnectPhase

/-- Whether the attempt to connect is over. -/
def isOver : ConnectPhase → Bool
  | .brokenDown | .ended _ => true
  | _ => false

/-- The attempt waits for the members by a call that goes on. -/
def IsProper : ConnectPhase → Prop
  | .resolving (.done _) | .resolving .gone => False
  | _ => True

section

variable (settings : ConnectSettings) (trigger : Trigger) (isCancelled : Bool)
  (shuffle : List Member → List Member) (s : Site)

/-- **What a step makes of an attempt to connect**, and of the resolver and the cache. -/
inductive Moves : ConnectPhase → ConnectPhase → Site → Prop where
  | stays (phase : ConnectPhase)
      (h : phase.isOver = true
        ∨ (∃ call r, phase = .resolving call ∧ s.resolver = some r
          ∧ r.advanceCall call isCancelled = none)
        ∨ isCancelled = false ∧ ∃ handle, phase = .negotiating handle) : Moves phase phase s
  | follows (leader : EndPoint) (ht : trigger = .newLeader leader) :
      Moves .waiting (.chosen leader) s
  | visits (node : EndPoint) (ht : trigger = .rediscover) (hm : settings.mode = .single node) :
      Moves .waiting (.chosen node) s
  | resolves (ht : trigger = .rediscover) (hm : settings.mode = .gossip) :
      Moves .waiting (.resolving .fresh) s
  | calls (call call' : RefreshCall) (r r' : Resolver) (hr : s.resolver = some r)
      (hcall : r.advanceCall call isCancelled = some (call', r'))
      (hproper : (ConnectPhase.resolving call').IsProper) :
      Moves (.resolving call) (.resolving call') { s with resolver := some r' }
  | hears (call : RefreshCall) (result : Except Error Resolution) (r r' : Resolver)
      (hr : s.resolver = some r)
      (hcall : r.advanceCall call isCancelled = some (.done result, r')) :
      Moves (.resolving call) (ofResolution settings.selector shuffle result)
        { s with resolver := some r' }
  | lost (call : RefreshCall) (hr : s.resolver = none) :
      Moves (.resolving call) (.ended (.error Resolver.disposedError)) s
  | links (node : EndPoint) (handle : Handle) (cache : Cache)
      (hcache : s.cache.getOrCreate node = (.ok handle, cache))
      (ht : settings.negotiationTimeout = none) :
      Moves (.chosen node) (.ended (.ok ⟨handle, {}⟩)) { s with cache := cache }
  | prepares (node : EndPoint) (handle : Handle) (cache : Cache) (timeout : Duration)
      (hcache : s.cache.getOrCreate node = (.ok handle, cache))
      (ht : settings.negotiationTimeout = some timeout) :
      Moves (.chosen node) (.linked handle timeout) { s with cache := cache }
  | refused (node : EndPoint) (error : Error) (cache : Cache)
      (hcache : s.cache.getOrCreate node = (.error error, cache)) :
      Moves (.chosen node) (.ended (.error error)) { s with cache := cache }
  | breaks (handle : Handle) (timeout : Duration) (hd : Wire.carriedDeadline? timeout = none) :
      Moves (.linked handle timeout) .brokenDown s
  | queries (handle : Handle) (timeout deadline : Duration)
      (hd : Wire.carriedDeadline? timeout = some deadline) (hc : isCancelled = false) :
      Moves (.linked handle timeout) (.negotiating handle) s
  | heeds (phase : ConnectPhase) (hc : isCancelled = true)
      (h : (∃ handle timeout, phase = .linked handle timeout)
        ∨ ∃ handle, phase = .negotiating handle) :
      Moves phase (.ended (.error .cancelled)) s

/-- **Every step of an attempt makes one of these moves.** -/
theorem moves_step (phase : ConnectPhase) :
    Moves settings trigger isCancelled shuffle s phase
      (phase.step settings trigger isCancelled shuffle s).2.1
      (phase.step settings trigger isCancelled shuffle s).2.2 := by
  cases phase with
  | waiting =>
    show Moves settings trigger isCancelled shuffle s .waiting (start settings trigger) s
    cases ht : trigger with
    | newLeader leader => exact .follows leader rfl
    | rediscover =>
      unfold start
      dsimp only
      split
      · exact .visits _ rfl ‹_›
      · exact .resolves rfl ‹_›
  | resolving call =>
    unfold step
    dsimp only
    cases hr : s.resolver with
    | none => exact .lost call hr
    | some r =>
      dsimp only
      cases hcall : r.advanceCall call isCancelled with
      | none => exact .stays _ (.inr (.inl ⟨call, r, rfl, hr, hcall⟩))
      | some next =>
        obtain ⟨call', r'⟩ := next
        cases call' with
        | done result => exact .hears call result r r' hr hcall
        | gone => cases Resolver.callStep_of_advanceCall hcall
        | _ => exact .calls call _ r r' hr hcall trivial
  | chosen node =>
    show Moves settings trigger isCancelled shuffle s (.chosen node) (link settings node s).1
      (link settings node s).2
    unfold link
    split
    · exact .refused node _ _ ‹_›
    · dsimp only
      split
      · exact .links node _ _ ‹_› ‹_›
      · exact .prepares node _ _ _ ‹_› ‹_›
  | linked handle timeout =>
    unfold step
    dsimp only
    split
    · exact .breaks handle timeout ‹_›
    · split
      · exact .heeds _ ‹_› (.inl ⟨handle, timeout, rfl⟩)
      · exact .queries handle timeout _ ‹_› (Bool.eq_false_iff.2 ‹_›)
  | negotiating handle =>
    unfold step
    dsimp only
    split
    · exact .heeds _ ‹_› (.inr ⟨handle, rfl⟩)
    · exact .stays _ (.inr (.inr ⟨Bool.eq_false_iff.2 ‹_›, handle, rfl⟩))
  | brokenDown => exact .stays _ (.inl rfl)
  | ended result => exact .stays _ (.inl rfl)

end

variable {settings : ConnectSettings} {trigger : Trigger} {isCancelled : Bool}
  {shuffle : List Member → List Member} {s s' : Site} {phase phase' : ConnectPhase}

/-- What comes of a resolution is a node, or the end of the attempt. -/
theorem ofResolution_cases (selector : NodeSelector) (shuffle : List Member → List Member)
    (result : Except Error Resolution) :
    (∃ error, ofResolution selector shuffle result = .ended (.error error))
      ∨ ∃ node, ofResolution selector shuffle result = .chosen node := by
  unfold ofResolution
  split
  · exact .inl ⟨_, rfl⟩
  · split
    · exact .inl ⟨_, rfl⟩
    · exact .inr ⟨_, rfl⟩

theorem Moves.isProper (h : Moves settings trigger isCancelled shuffle s phase phase' s')
    (hproper : phase.IsProper) : phase'.IsProper := by
  cases h with
  | stays => exact hproper
  | calls call call' r r' hr hcall h => exact h
  | hears call result =>
    rcases ofResolution_cases settings.selector shuffle result with ⟨error, h⟩ | ⟨node, h⟩
    · rw [h]
      trivial
    · rw [h]
      trivial
  | _ => trivial

theorem isProper_takeIn (hproper : phase.IsProper)
    (answer : Option (Except Status MethodTable)) : (phase.takeIn answer).IsProper := by
  unfold takeIn
  split
  · trivial
  · exact hproper

end ConnectPhase

/-! ## Runs that work -/

namespace Provider

/-- **What a change makes of the phase of a run**: nothing, or the run breaks down, ends, or
jams. -/
theorem Change.phase_cases {p q : Provider} (h : Change p q) {k : Nat} {r s : Run}
    (hr : p.runs[k]? = some r) (hs : q.runs[k]? = some s) :
    s.phase = r.phase ∨ s.phase = .brokenDown ∨ s.phase.isEnded = true
      ∨ s.phase.isStuck = true ∧ Jams p.backoff.advance := by
  have hset : ∀ {o : Provider} {run : Nat} {phase : RunPhase},
      (o.setPhase run phase).runs[k]? = some s → o.runs = p.runs →
      s.phase = r.phase ∨ s.phase = phase := by
    intro o run phase hs ho
    rw [getElem?_runs_setPhase, ho, hr, Option.map_some] at hs
    cases hs
    split
    · exact .inr rfl
    · exact .inl rfl
  have hoff : p.callOff.runs[k]? = some s → s.phase = r.phase := by
    intro hs
    obtain ⟨r', hr', -, hphase⟩ := exists_run_of_callOff hs
    cases hr.symm.trans hr'
    exact hphase
  have hlt : k < p.runs.length := (List.getElem?_eq_some_iff.1 hr).1
  cases h with
  | stay =>
    cases hr.symm.trans hs
    exact .inl rfl
  | start now hd hpend hready =>
    rw [getElem?_runs_start, if_neg (Nat.ne_of_lt hlt), hr] at hs
    cases hs
    exact .inl rfl
  | advance now inRuntime trigger hd =>
    rw [advance_eq] at hs
    split at hs
    · have hne : k ≠ (p.renew trigger).runs.length :=
        Nat.ne_of_lt (Nat.lt_of_lt_of_eq hlt (length_runs_callOff p).symm)
      rw [getElem?_runs_start, if_neg hne] at hs
      exact .inl (hoff hs)
    · exact .inl (hoff hs)
  | dispose hd =>
    rw [dispose_eq hd] at hs
    exact .inl (hoff hs)
  | breakDown => exact (hset hs rfl).imp_right .inl
  | lapse | connect | fail =>
    rcases hset hs rfl with hsame | hended
    · exact .inl hsame
    · rw [hended]
      exact .inr (.inr (.inl rfl))
  | jam run r' phase log hr' hw' hd hg hj hstuck =>
    rcases hset hs rfl with hsame | hjammed
    · exact .inl hsame
    · rw [hjammed]
      exact .inr (.inr (.inr ⟨hstuck, hj⟩))

/-- **Where the runs come from that work after a change**: each did before, or it starts. -/
theorem Change.working_cases {p q : Provider} (h : Change p q) {k : Nat} {s : Run}
    (hs : q.runs[k]? = some s) (hw : s.phase = .working) :
    (∃ r, p.runs[k]? = some r ∧ r.phase = .working) ∨ Starts p q k s := by
  rcases h.run_cases hs with ⟨r, hr, -⟩ | hstarts
  · refine .inl ⟨r, hr, ?_⟩
    rcases h.phase_cases hr hs with hphase | hphase | hphase | ⟨hphase, -⟩
    · exact hphase.symm.trans hw
    · cases hw.symm.trans hphase
    · rw [hw] at hphase
      cases hphase
    · rw [hw] at hphase
      cases hphase
  · exact .inr hstarts

/-- A run that is over is not opened again by its attempt. -/
theorem finish_ne_working {p : Provider} {run : Nat} {result : Except Error Link} {now : Instant}
    {draw : Float} {s : Run} (hs : (p.finish run result now draw).runs[run]? = some s) :
    s.phase ≠ .working := by
  have hset : ∀ {o : Provider} {phase : RunPhase}, (o.setPhase run phase).runs[run]? = some s →
      phase ≠ .working → s.phase ≠ .working := by
    intro o phase hs hne
    rw [getElem?_runs_setPhase] at hs
    obtain ⟨r, -, rfl⟩ := Option.map_eq_some_iff.1 hs
    rwa [if_pos rfl]
  unfold finish at hs
  cases hr : p.runs[run]? with
  | none =>
    rw [hr] at hs
    cases hr.symm.trans hs
  | some r =>
    rw [hr] at hs
    dsimp only at hs
    cases hphase : r.phase with
    | working =>
      rw [hphase] at hs
      dsimp only at hs
      split at hs
      · exact hset hs (by simp)
      · split at hs
        · unfold breakDown at hs
          split at hs
          · exact hset hs (by simp)
          · rename_i hnot
            intro hw
            refine hnot ?_
            rw [phase?, hs, Option.map_some, hw]
        · exact hset hs (by simp)
    | _ =>
      rw [hphase] at hs
      cases hr.symm.trans hs
      rw [hphase]
      simp

theorem breakDown_ne_working {p : Provider} {run : Nat} {s : Run}
    (hs : (p.breakDown run).runs[run]? = some s) : s.phase ≠ .working := by
  intro hw
  unfold breakDown at hs
  split at hs
  · rw [getElem?_runs_setPhase] at hs
    obtain ⟨r, -, rfl⟩ := Option.map_eq_some_iff.1 hs
    rw [if_pos rfl] at hw
    cases hw
  · rename_i hnot
    refine hnot ?_
    rw [phase?, hs, Option.map_some, hw]

end Provider

/-- **A run whose attempt is over does not work.** -/
theorem Client.settled_ne_working {p : Provider} {run : Nat} {phase : ConnectPhase} {now : Instant}
    {draw : Float} (hover : phase.isOver = true) {s : Run}
    (hs : (Client.settled p run phase now draw).runs[run]? = some s) : s.phase ≠ .working := by
  cases phase with
  | ended result => exact Provider.finish_ne_working hs
  | brokenDown => exact Provider.breakDown_ne_working hs
  | _ => cases hover

/-! ## What an event does to an attempt -/

namespace Deployment

/-- **What becomes of an attempt to connect**: nothing, or its run takes a step, or is answered. -/
inductive Attempted (d : Deployment) (event : ClientEvent) (run : Nat) : ConnectPhase → Prop where
  | stays (h : ∀ k shuffle now draw, event = .stepRun k shuffle now draw →
        d.client.provider.runs[k]? ≠ none → k ≠ run)
      (hanswer : ∀ k answer now draw, event = .answerRun k answer now draw → k ≠ run) :
      Attempted d event run (d.client.attempt run)
  | steps (r : Run) (shuffle : List Member → List Member) (now : Instant) (draw : Float)
      (phase : ConnectPhase) (hevent : event = .stepRun run shuffle now draw)
      (hr : d.client.provider.runs[run]? = some r)
      (hmoves : ConnectPhase.Moves d.client.settings r.trigger
        (d.client.provider.isRunCancelled run) shuffle d.client.site (d.client.attempt run) phase
        (d.perform event).client.site)
      (hp : (d.perform event).client.provider
        = Client.settled d.client.provider run phase now draw) :
      Attempted d event run phase
  | answers (answer : Option (Except Status MethodTable)) (now : Instant) (draw : Float)
      (hevent : event = .answerRun run answer now draw)
      (hsite : (d.perform event).client.site = d.client.site)
      (hp : (d.perform event).client.provider
        = Client.settled d.client.provider run ((d.client.attempt run).takeIn answer) now draw) :
      Attempted d event run ((d.client.attempt run).takeIn answer)

theorem attempted_of_eq {d : Deployment} {event : ClientEvent} {run : Nat}
    (h : (d.perform event).client.attempts = d.client.attempts)
    (hevent : ∀ k shuffle now draw, event ≠ .stepRun k shuffle now draw)
    (hanswer : ∀ k answer now draw, event ≠ .answerRun k answer now draw) :
    d.Attempted event run ((d.perform event).client.attempt run) := by
  have hsame : (d.perform event).client.attempt run = d.client.attempt run := by
    rw [Client.attempt, h]
    rfl
  rw [hsame]
  exact .stays (fun k shuffle now draw heq => absurd heq (hevent k shuffle now draw))
    fun k answer now draw heq => absurd heq (hanswer k answer now draw)

/-- **Where the attempts after an event come from.** -/
theorem attempted_perform (d : Deployment) (event : ClientEvent) (run : Nat) :
    d.Attempted event run ((d.perform event).client.attempt run) := by
  cases event with
  | stepRun k shuffle now draw =>
    have hperform : (d.perform (.stepRun k shuffle now draw)).client
        = (d.client.stepRun k shuffle now draw).2 := rfl
    cases hr : d.client.provider.runs[k]? with
    | none =>
      rw [hperform, Client.stepRun_of_none hr]
      refine .stays (fun k' shuffle' now' draw' heq hne => ?_) nofun
      cases heq
      exact absurd hr hne
    | some r =>
      rw [hperform, Client.stepRun_eq hr, Client.attempt_advanceRun]
      by_cases hk : k = run
      · subst hk
        rw [if_pos rfl]
        refine .steps r shuffle now draw _ rfl hr ?_ ?_
        · rw [hperform, Client.stepRun_eq hr]
          exact ConnectPhase.moves_step ..
        · rw [hperform, Client.stepRun_eq hr]
          rfl
      · rw [if_neg hk]
        refine .stays (fun k' shuffle' now' draw' heq _ => ?_) nofun
        cases heq
        exact hk
  | answerRun k answer now draw =>
    have hperform : (d.perform (.answerRun k answer now draw)).client
        = d.client.takeIn k answer now draw := rfl
    rw [hperform, Client.takeIn_eq, Client.attempt_advanceRun]
    by_cases hk : k = run
    · subst hk
      rw [if_pos rfl]
      refine .answers answer now draw rfl ?_ ?_
      · rw [hperform, Client.takeIn_eq]
        rfl
      · rw [hperform, Client.takeIn_eq]
        rfl
    · rw [if_neg hk]
      refine .stays nofun fun k' answer' now' draw' heq => ?_
      cases heq
      exact hk
  | advance call now draw =>
    refine attempted_of_eq ?_ nofun nofun
    show (d.stepCall call now draw).client.attempts = d.client.attempts
    unfold stepCall
    split
    · rfl
    · split <;> rfl
  | triggerReconnect leader now inRuntime =>
    refine attempted_of_eq ?_ nofun nofun
    show (d.client.triggerReconnect leader now inRuntime).attempts = d.client.attempts
    unfold Client.triggerReconnect
    split <;> rfl
  | discover event h =>
    refine attempted_of_eq ?_ nofun nofun
    show (d.performDiscovery event).client.attempts = d.client.attempts
    unfold performDiscovery
    split <;> rfl
  | shutdown =>
    refine attempted_of_eq ?_ nofun nofun
    show d.client.shutdown.attempts = d.client.attempts
    unfold Client.shutdown
    split <;> rfl
  | connectionInfo | forceReconnect | demand | peek | cancel | giveUp | reset | use
  | disposeProvider | beginShutdown => exact attempted_of_eq rfl nofun nofun

/-- **Runs and their attempts fit together**: a run that works has an attempt that is not over, a
run that has not started has none, and a call for the members that goes on is one that can. -/
structure RunsFit (d : Deployment) : Prop where
  working : ∀ (run : Nat) (r : Run), d.client.provider.runs[run]? = some r →
    r.phase = .working → (d.client.attempt run).isOver = false
  fresh : ∀ run, d.client.provider.runs.length ≤ run → d.client.attempt run = .waiting
  proper : ∀ run, (d.client.attempt run).IsProper

/-- **Every event keeps runs and attempts fitting.** -/
theorem RunsFit.perform {d : Deployment} (h : d.RunsFit)
    (ha : d.client.provider.isAbandoned = false) (event : ClientEvent) :
    (d.perform event).RunsFit := by
  have hchange := change_provider ha event
  constructor
  case working =>
    intro run s hs hw
    have hattempted := d.attempted_perform event run
    have hsettled : ∀ {phase : ConnectPhase} {now : Instant} {draw : Float},
        (d.perform event).client.provider
          = Client.settled d.client.provider run phase now draw → phase.isOver = false :=
      fun {phase now draw} hp => Bool.eq_false_iff.2 fun hover =>
        Client.settled_ne_working hover (hp ▸ hs) hw
    generalize hphase : (d.perform event).client.attempt run = phase at hattempted
    cases hattempted with
    | stays =>
      rcases hchange.working_cases hs hw with ⟨r, hr, hwr⟩ | hstarts
      · exact h.working run r hr hwr
      · rw [h.fresh run (Nat.le_of_eq hstarts.run_eq.symm)]
        rfl
    | steps r shuffle now draw phase hevent hr hmoves hp => exact hsettled hp
    | answers answer now draw hevent hsite hp => exact hsettled hp
  case fresh =>
    intro run hle
    have hold : d.client.provider.runs.length ≤ run := hchange.length_runs_le.trans hle
    have hattempted := d.attempted_perform event run
    generalize (d.perform event).client.attempt run = phase at hattempted
    cases hattempted with
    | stays => exact h.fresh run hold
    | steps r shuffle now draw phase hevent hr =>
      rw [List.getElem?_eq_none hold] at hr
      cases hr
    | answers answer =>
      rw [h.fresh run hold]
      rfl
  case proper =>
    intro run
    have hattempted := d.attempted_perform event run
    generalize (d.perform event).client.attempt run = phase at hattempted
    cases hattempted with
    | stays => exact h.proper run
    | steps r shuffle now draw phase hevent hr hmoves => exact hmoves.isProper (h.proper run)
    | answers answer => exact ConnectPhase.isProper_takeIn (h.proper run) answer

end Deployment

/-! ## Whole runs -/

namespace ClientRun

variable (x : ClientRun)

/-- A client that was just made has done nothing yet. -/
theorem client_eq : ∃ site, x.client
    = { settings := Client.settingsOf x.config, site := site
        provider := .new x.config.reconnectBackoff } := by
  have hmade := x.made
  unfold Client.new at hmade
  dsimp only at hmade
  split at hmade
  · exact ⟨_, (Except.ok.inj hmade).symm⟩
  · split at hmade
    · cases hmade
    · exact ⟨_, (Except.ok.inj hmade).symm⟩

theorem provider_zero : (x.state 0).client.provider = .new x.config.reconnectBackoff := by
  obtain ⟨site, hclient⟩ := x.client_eq
  show x.client.provider = _
  rw [hclient]

/-- A client starts without runs. -/
theorem getElem?_runs_zero (run : Nat) : (x.state 0).client.provider.runs[run]? = none := by
  rw [x.provider_zero]
  rfl

theorem isAbandoned_state (n : Nat) : (x.state n).client.provider.isAbandoned = false := by
  induction n with
  | zero =>
    rw [x.provider_zero]
    rfl
  | succ n ih => exact (Deployment.change_provider ih (x.events n)).isAbandoned_eq.trans ih

theorem change_provider (n : Nat) :
    Provider.Change (x.state n).client.provider (x.state (n + 1)).client.provider :=
  Deployment.change_provider (x.isAbandoned_state n) (x.events n)

theorem change_site (n : Nat) :
    Site.Change (x.state n).requests (x.events n).discovery? (x.state n).client.site
      (x.state (n + 1)).client.site :=
  Deployment.change_site (x.state n) (x.events n)

/-- What becomes of the attempt of a run from one instant to the next. -/
theorem attempted (n run : Nat) :
    (x.state n).Attempted (x.events n) run ((x.state (n + 1)).client.attempt run) :=
  (x.state n).attempted_perform (x.events n) run

/-- **The provider of a client is coherent** at every instant. -/
theorem coherent_state (n : Nat) : (x.state n).client.provider.Coherent := by
  induction n with
  | zero => exact x.provider_zero ▸ .new _
  | succ n ih => exact ih.change (x.change_provider n)

theorem runsFit_state (n : Nat) : (x.state n).RunsFit := by
  induction n with
  | zero =>
    obtain ⟨site, hclient⟩ := x.client_eq
    have hattempt : ∀ run, (x.state 0).client.attempt run = .waiting := by
      intro run
      show x.client.attempt run = .waiting
      rw [hclient]
      rfl
    refine ⟨fun run r hr _ => ?_, fun run _ => hattempt run, fun run => ?_⟩
    · cases x.getElem?_runs_zero run ▸ hr
    · rw [hattempt]
      trivial
  | succ n ih => exact ih.perform (x.isAbandoned_state n) (x.events n)

variable {x}

theorem length_runs_mono {m n : Nat} (h : m ≤ n) : (x.state m).client.provider.runs.length
    ≤ (x.state n).client.provider.runs.length := by
  induction n, h using Nat.le_induction with
  | base => exact Nat.le_refl _
  | succ n _ ih => exact ih.trans (x.change_provider n).length_runs_le

/-- A run stays of its generation. -/
theorem exists_run_of_le {m n run : Nat} (hmn : m ≤ n) {r : Run}
    (hr : (x.state m).client.provider.runs[run]? = some r) :
    ∃ s, (x.state n).client.provider.runs[run]? = some s ∧ s.generation = r.generation := by
  induction n, hmn using Nat.le_induction with
  | base => exact ⟨r, hr, rfl⟩
  | succ n hmn ih =>
    obtain ⟨s, hs, hsame⟩ := ih
    obtain ⟨s', hs', hsame', -⟩ := (x.change_provider n).run_persists hs
    exact ⟨s', hs', hsame'.trans hsame⟩

/-- A run that works has worked ever since it was there. -/
theorem working_of_le {m n run : Nat} (hmn : m ≤ n)
    (hrun : run < (x.state m).client.provider.runs.length)
    (hw : (x.state n).client.provider.phase? run = some .working) :
    (x.state m).client.provider.phase? run = some .working := by
  induction n, hmn using Nat.le_induction with
  | base => exact hw
  | succ n hmn ih =>
    obtain ⟨s, hs, hsw⟩ := Option.map_eq_some_iff.1 hw
    rcases (x.change_provider n).working_cases hs hsw with ⟨r, hr, hrw⟩ | hstarts
    · exact ih (by rw [Provider.phase?, hr, Option.map_some, hrw])
    · -- it was there before, so it is none that starts
      have hlen := Nat.lt_of_lt_of_le hrun (length_runs_mono hmn)
      exact absurd hlen (Nat.not_lt.2 (Nat.le_of_eq hstarts.run_eq.symm))

/-- **A run stops** once all the work that is left to its attempt has been taken from it by counted
events. -/
theorem stops_of_count {m n run : Nat} (left : ConnectPhase → Nat) {P : Nat → Prop}
    [DecidablePred P] (hrun : run < (x.state m).client.provider.runs.length)
    (hstep : ∀ k < n, ∀ r, (x.state (m + k)).client.provider.runs[run]? = some r →
      r.phase = .working →
      left ((x.state (m + k + 1)).client.attempt run)
        ≤ left ((x.state (m + k)).client.attempt run)
        ∧ (P k → left ((x.state (m + k + 1)).client.attempt run)
          < left ((x.state (m + k)).client.attempt run)))
    (hcount : left ((x.state m).client.attempt run) ≤ Nat.count P n)
    (hover : left ((x.state (m + n)).client.attempt run) = 0 →
      ((x.state (m + n)).client.attempt run).isOver = true) :
    (x.state (m + n)).client.provider.phase? run ≠ some .working := by
  intro hw
  have hleft : ∀ k, k ≤ n → left ((x.state (m + k)).client.attempt run)
      ≤ left ((x.state m).client.attempt run) - Nat.count P k := by
    intro k hkn
    induction k with
    | zero => exact Nat.le_refl _
    | succ k ih =>
      have hlen := Nat.lt_of_lt_of_le hrun (length_runs_mono (Nat.le_add_right m k))
      obtain ⟨r, hr, hrw⟩ := Option.map_eq_some_iff.1
        (working_of_le (Nat.add_le_add_left (Nat.le_of_succ_le hkn) m) hlen hw)
      obtain ⟨hle, hlt⟩ := hstep k hkn r hr hrw
      have hbefore := ih (Nat.le_of_succ_le hkn)
      rw [Nat.count_succ, show m + (k + 1) = m + k + 1 from rfl]
      split
      · have hless := hlt ‹_›
        omega
      · omega
  obtain ⟨r, hr, hrw⟩ := Option.map_eq_some_iff.1 hw
  have hzero := hleft n (Nat.le_refl n)
  cases (hover (by omega)).symm.trans ((x.runsFit_state (m + n)).working run r hr hrw)

end ClientRun

end ClusterLink
