import ClusterLink.Proofs.Provider.Signals
import ClusterLink.Proofs.Provider.Stopping
import ClusterLink.Proofs.Provider.Superseded

/-!
# What becomes of a run

A run works for the provider and not for those who wait for it. Callers come, wait and give up, by
themselves or because their token is cancelled, and the run goes on: it is told to stop only by a
reset, by the disposal, or when the last owner of the provider goes. When it ends in a result, the
provider holds that result from then on, whether or not anybody waits.

One ending is left to the waiters. A run whose task breaks down has failed, but it is the first
caller who comes back to it that applies the failure (`Life.Returns`). Until then the provider goes
on waiting for a run that is over, and the pause after the failure begins as late as that caller
comes (`runs_do_not_need_waiters`). The same happens to a failure that breaks down itself, since the
delay after it cannot be drawn.
-/

namespace ClusterLink

/-- **What may happen to a provider** whose callers may bring a token, and whose owners may go. -/
inductive LifeEvent where
  | happen (event : ProviderEvent)
  /-- The token of a caller is cancelled. -/
  | cancel (caller : Nat)
  /-- The last owner goes. -/
  | abandon

/-- **A provider with its callers and their tokens.** -/
structure Life where
  service : Service
  /-- The callers whose token is cancelled. -/
  cancelled : List Nat := []

namespace Life

def provider (s : Life) : Provider := s.service.provider

/-- A caller takes its next step; one whose token is cancelled ends with that. -/
def stepCaller (s : Life) (caller : Nat) (now : Instant) (draw : Float) : Life :=
  match s.service.callers[caller]? with
  | none => s
  | some call =>
    if s.cancelled.contains caller && call.isLive then
      { s with service := { s.service with
          callers := s.service.callers.set caller (.done (.error .cancelled)) } }
    else { s with service := s.service.stepCaller caller now draw }

/-- **What an event does.** -/
def perform (s : Life) : LifeEvent → Life
  | .happen (.advance caller now draw) => s.stepCaller caller now draw
  | .happen event => { s with service := s.service.perform event }
  | .cancel caller => { s with cancelled := caller :: s.cancelled }
  | .abandon => { s with service := { s.service with provider := s.provider.abandon } }

/-! ## Kinds of events -/

/-- The event is a caller who comes, gives up, finds its token cancelled, or waits for a run that
has not broken down. -/
def Waits (s : Life) : LifeEvent → Prop
  | .cancel _ | .happen (.come _) | .happen (.giveUp _) => True
  | .happen (.advance caller _ _) => caller ∈ s.cancelled
      ∨ ∃ run, s.service.callers[caller]? = some (.waiting run)
        ∧ s.provider.phase? run ≠ some .brokenDown
  | _ => False

/-- The event is a caller who comes back to the run. -/
def Returns (s : Life) (run : Nat) (event : LifeEvent) : Prop :=
  ∃ caller now draw, event = .happen (.advance caller now draw)
    ∧ s.service.callers[caller]? = some (.waiting run) ∧ caller ∉ s.cancelled

/-- The event asks for another connection. -/
def Resets (s : Life) : LifeEvent → Prop
  | .happen (.reset ..) | .happen (.resetFrom ..) | .happen (.observe ..) => True
  | .happen (.advance caller _ _) =>
    ∃ trigger, s.service.callers[caller]? = some (.forcing trigger)
  | _ => False

end Life

/-- **The life of a new provider**: its state after the first `n` of the events. -/
def lifeAt (config : BackoffConfig) (events : Nat → LifeEvent) : Nat → Life
  | 0 => { service := { provider := .new config } }
  | n + 1 => (lifeAt config events n).perform (events n)

namespace Life

variable {s : Life}

/-! ## One event -/

/-- A step of a caller leaves the provider alone, or it is one of a caller whose token is not
cancelled. -/
theorem stepCaller_cases (s : Life) (caller : Nat) (now : Instant) (draw : Float) :
    (s.stepCaller caller now draw).provider = s.provider
      ∨ ∃ call, s.service.callers[caller]? = some call ∧ caller ∉ s.cancelled
        ∧ (s.stepCaller caller now draw).provider = (s.provider.advanceCall call now draw).2 := by
  unfold stepCaller
  cases hcall : s.service.callers[caller]? with
  | none => exact .inl rfl
  | some call =>
    dsimp only
    split
    · exact .inl rfl
    · rename_i hgoes
      have hstep : (s.service.stepCaller caller now draw).provider
          = (s.provider.advanceCall call now draw).2 := by
        rw [Service.stepCaller, hcall]
        rfl
      by_cases hcancelled : caller ∈ s.cancelled
      · -- a caller whose token is cancelled has been answered, or it gave up
        have hover : call.isLive = false := by simpa [hcancelled] using hgoes
        refine .inl (hstep.trans ?_)
        cases call <;> first | rfl | cases hover
      · exact .inr ⟨call, rfl, hcancelled, hstep⟩

theorem change_perform (ha : s.provider.isAbandoned = false) {event : LifeEvent}
    (hne : event ≠ .abandon) : Provider.Change s.provider (s.perform event).provider := by
  cases event with
  | abandon => exact absurd rfl hne
  | cancel => exact .stay
  | happen event =>
    cases event with
    | advance caller now draw =>
      rcases s.stepCaller_cases caller now draw with hsame | ⟨call, -, -, hstep⟩
      · show Provider.Change s.provider (s.stepCaller caller now draw).provider
        rw [hsame]
        exact .stay
      · show Provider.Change s.provider (s.stepCaller caller now draw).provider
        rw [hstep]
        exact Provider.change_advanceCall ha call now draw
    | _ => exact Service.change_perform ha _

/-- **Callers that wait or give up leave the provider as it is.** -/
theorem provider_perform_of_waits {event : LifeEvent} (h : s.Waits event) :
    (s.perform event).provider = s.provider := by
  cases event with
  | cancel => rfl
  | abandon => exact h.elim
  | happen event =>
    cases event with
    | come | giveUp => rfl
    | advance caller now draw =>
      rcases s.stepCaller_cases caller now draw with hsame | ⟨call, hcall, hnot, hstep⟩
      · exact hsame
      · rcases h with hcancelled | ⟨run, hwaiting, hphase⟩
        · exact absurd hcancelled hnot
        · cases hcall.symm.trans hwaiting
          exact hstep.trans (Provider.poll_of_phase?_ne hphase now draw)
    | _ => exact h.elim

/-- **A run that broke down stays so** until a caller comes back to it. -/
theorem phase?_perform {event : LifeEvent} {run : Nat}
    (h : s.provider.phase? run = some .brokenDown) (hnot : ¬s.Returns run event) :
    (s.perform event).provider.phase? run = some .brokenDown := by
  obtain ⟨r, hr, hphase⟩ := Provider.phase?_eq_some.1 h
  have hne : r.phase ≠ .working := by rw [hphase]; exact nofun
  have hother : ∀ {q : Provider}, q.runs[run]? = s.provider.runs[run]? →
      q.phase? run = some .brokenDown := fun hq => by
    rw [Provider.phase?, hq, ← Provider.phase?, h]
  have hadvance : ∀ (now : Instant) (inRuntime : Bool) (trigger : Trigger) {q : Provider},
      q = s.provider ∨ q = s.provider.advance now inRuntime trigger →
        q.phase? run = some .brokenDown := by
    rintro now inRuntime trigger q (rfl | rfl)
    · exact h
    · exact Provider.phase?_advance h now inRuntime trigger
  cases event with
  | cancel | abandon => exact h
  | happen event =>
    cases event with
    | come | giveUp => exact h
    | reset now inRuntime trigger =>
      exact hadvance now inRuntime trigger (Provider.reset_cases ..)
    | resetFrom generation now inRuntime trigger =>
      exact hadvance now inRuntime trigger (Provider.resetFrom_cases ..)
    | observe generation status now inRuntime =>
      rcases s.provider.observe_cases generation status now inRuntime with hsame
        | ⟨trigger, hreset⟩
      · exact hadvance now inRuntime .rediscover (.inl hsame)
      · exact hadvance now inRuntime trigger (.inr hreset)
    | dispose => exact Provider.phase?_dispose h
    | finish k result now draw =>
      show (s.provider.finish k result now draw).phase? run = _
      by_cases hk : k = run
      · subst hk
        rwa [Provider.finish_of_phase_ne hr hne]
      · exact hother (Provider.getElem?_runs_finish_ne hk result now draw)
    | breakDown k =>
      show (s.provider.breakDown k).phase? run = _
      by_cases hk : k = run
      · subst hk
        rwa [Provider.breakDown_of_phase_ne hr hne]
      · exact hother (Provider.getElem?_runs_breakDown_ne hk)
    | advance caller now draw =>
      show (s.stepCaller caller now draw).provider.phase? run = _
      rcases s.stepCaller_cases caller now draw with hsame | ⟨call, hcall, hlive, hstep⟩
      · rwa [hsame]
      · rw [hstep]
        cases call with
        | forcing trigger => exact hadvance now true trigger (Provider.reset_cases ..)
        | asking => exact Provider.phase?_current h now
        | waiting k =>
          have hk : k ≠ run := by
            rintro rfl
            exact hnot ⟨caller, now, draw, rfl, hcall, hlive⟩
          exact hother (Provider.getElem?_runs_poll_ne hk now draw)
        | done | brokenDown | gone => exact h

/-- **A generation ends** when somebody asks for another connection or the provider is disposed
of. -/
theorem lasts_perform {event : LifeEvent} (hreset : ¬s.Resets event)
    (hdispose : event ≠ .happen .dispose) :
    Provider.Lasts s.provider (s.perform event).provider := by
  cases event with
  | cancel | abandon => exact ⟨rfl, rfl⟩
  | happen event =>
    cases event with
    | come | giveUp => exact ⟨rfl, rfl⟩
    | reset | resetFrom | observe => exact absurd trivial hreset
    | dispose => exact absurd rfl hdispose
    | finish run result now draw => exact Provider.lasts_finish ..
    | breakDown run => exact Provider.lasts_breakDown ..
    | advance caller now draw =>
      show Provider.Lasts s.provider (s.stepCaller caller now draw).provider
      rcases s.stepCaller_cases caller now draw with hsame | ⟨call, hcall, -, hstep⟩
      · rw [hsame]
        exact ⟨rfl, rfl⟩
      · rw [hstep]
        refine Provider.lasts_advanceCall s.provider (fun trigger hforcing => hreset ?_) now draw
        exact ⟨trigger, hforcing ▸ hcall⟩

/-- Owners that have gone do not come back. -/
theorem isAbandoned_perform (h : s.provider.isAbandoned = true) (event : LifeEvent) :
    (s.perform event).provider.isAbandoned = true := by
  cases event with
  | cancel => exact h
  | abandon => rfl
  | happen event =>
    cases event with
    | come | giveUp => exact h
    | reset => exact (Provider.change_reset ..).isAbandoned_eq.trans h
    | resetFrom => exact (Provider.change_resetFrom ..).isAbandoned_eq.trans h
    | observe => exact (Provider.change_observe ..).isAbandoned_eq.trans h
    | dispose => exact (Provider.change_dispose _).isAbandoned_eq.trans h
    | finish => exact (Provider.isAbandoned_finish ..).trans h
    | breakDown => exact (Provider.change_breakDown ..).isAbandoned_eq.trans h
    | advance caller now draw =>
      show (s.stepCaller caller now draw).provider.isAbandoned = true
      rcases s.stepCaller_cases caller now draw with hsame | ⟨call, -, -, hstep⟩
      · rwa [hsame]
      · rw [hstep]
        exact (Provider.isAbandoned_advanceCall ..).trans h

end Life

/-! ## One run -/

namespace Provider

/-- **A run is under way**: it works, for the present generation of a provider that is neither
disposed of nor forgotten. -/
structure Works (p : Provider) (run : Nat) (r : Run) : Prop where
  run_eq : p.runs[run]? = some r
  phase_eq : r.phase = .working
  isDisposed_eq : p.isDisposed = false
  isAbandoned_eq : p.isAbandoned = false
  generation_eq : p.generation = r.generation

variable {p : Provider} {run : Nat} {r : Run}

theorem Works.isOpen (h : p.Works run r) : p.IsOpen run :=
  ⟨r, h.run_eq, h.generation_eq.symm, by rw [h.phase_eq]; rfl⟩

/-- A run that connects makes the provider ready. -/
theorem Works.finish_ok (h : p.Works run r) (link : Link) (now : Instant) (draw : Float) :
    p.finish run (.ok link) now draw
      = (p.holding (.ready ⟨link, r.trigger, r.generation⟩) p.backoff.reset
          (p.log ++ [endReport r (.ok link) now])).setPhase run
        (.ended (some (.ok ⟨link, r.trigger, r.generation⟩))) := by
  rw [finish_of_working h.run_eq h.phase_eq h.isAbandoned_eq]
  show ({ p with log := p.log ++ [endReport r (.ok link) now] } : Provider).settle run r (.ok link)
    now draw = _
  rw [settle, complete_ok (by exact h.isDisposed_eq) (by exact h.generation_eq)]
  rfl

/-- A run that fails leaves its error, if the delay after it can be drawn. -/
theorem Works.finish_error (h : p.Works run r) (hj : ¬Jams p.backoff.advance) (error : Error)
    (now : Instant) (draw : Float) :
    p.finish run (.error error) now draw
      = (p.holding (.failed error (retryTime now (p.backoff.next draw).1)) p.backoff.advance
          (p.log ++ [endReport r (.error error) now])).setPhase run
            (.ended (some (.error error))) :=
  finish_eq_of_not_jams h.run_eq h.phase_eq h.isDisposed_eq h.isAbandoned_eq h.generation_eq
    (fun hnone => hj ⟨draw, hnone⟩) error now

/-- A failure whose delay cannot be drawn is not applied. -/
theorem Works.finish_jams (h : p.Works run r) (hj : Jams p.backoff.advance) (error : Error)
    (now : Instant) (draw : Float) :
    (p.finish run (.error error) now draw).slot = p.slot
      ∧ (p.finish run (.error error) now draw).phase? run = some .brokenDown := by
  have hdraw : spread? p.backoff.advance.current p.backoff.config.jitter draw = none :=
    (spread?_eq_none_iff ..).2 (jams_iff.1 hj)
  rw [finish_eq_of_jams h.run_eq h.phase_eq h.isDisposed_eq h.isAbandoned_eq h.generation_eq hdraw]
  refine ⟨rfl, phase?_eq_some.2 ⟨{ r with phase := .brokenDown }, ?_, rfl⟩⟩
  simp [halfFail, h.run_eq]

theorem Works.breakDown (h : p.Works run r) :
    (p.breakDown run).slot = p.slot ∧ (p.breakDown run).phase? run = some .brokenDown := by
  have hphase : p.phase? run = some .working := phase?_eq_some.2 ⟨r, h.run_eq, h.phase_eq⟩
  rw [Provider.breakDown, hphase]
  refine ⟨rfl, phase?_eq_some.2 ⟨{ r with phase := .brokenDown }, ?_, rfl⟩⟩
  simp [h.run_eq]

/-- **The first caller who comes back to a run that broke down** applies that as a failure. -/
theorem slot_poll_of_brokenDown (hr : p.runs[run]? = some r) (hphase : r.phase = .brokenDown)
    (hd : p.isDisposed = false) (ha : p.isAbandoned = false) (hg : p.generation = r.generation)
    (hj : ¬Jams p.backoff.advance) (now : Instant) (draw : Float) :
    (p.poll run now draw).2.slot
      = .failed breakdownError (retryTime now (p.backoff.next draw).1) := by
  have hcan : p.cannotFail r draw = false :=
    Bool.eq_false_iff.2 fun hcannot => hj (of_cannotFail hcannot).2.2
  rw [poll, hr]
  dsimp only
  rw [hphase]
  dsimp only
  rw [if_neg (by simp [ha]), if_neg (by simp [hcan]), settle, complete_error hd hg]
  rfl

/-- A run under way that ends in a result is applied. -/
theorem Works.applies (h : p.Works run r) (result : Except Error Connection) {o : Provider}
    (ho : o.runs = p.runs) : Applies p (o.setPhase run (.ended (some result))) run result :=
  applies_setPhase h.run_eq (by rw [h.phase_eq]; rfl) h.isDisposed_eq h.generation_eq ho

theorem Works.applies_finish_ok (h : p.Works run r) (link : Link) (now : Instant) (draw : Float) :
    Applies p (p.finish run (.ok link) now draw) run (.ok ⟨link, r.trigger, r.generation⟩) := by
  rw [h.finish_ok]
  exact h.applies _ rfl

theorem Works.applies_finish_error (h : p.Works run r) (hj : ¬Jams p.backoff.advance)
    (error : Error) (now : Instant) (draw : Float) :
    Applies p (p.finish run (.error error) now draw) run (.error error) := by
  rw [h.finish_error hj]
  exact h.applies _ rfl

/-- A run that broke down has not been applied. -/
theorem not_applies_of_brokenDown {q : Provider} (h : q.phase? run = some .brokenDown)
    (result : Except Error Connection) : ¬Applies p q run result := by
  rintro ⟨-, -, s, hs, hended⟩
  obtain ⟨s', hs', hbroken⟩ := phase?_eq_some.1 h
  cases hs.symm.trans hs'
  cases hended.symm.trans hbroken

end Provider

/-! ## Whole lives -/

section

variable {config : BackoffConfig} {events : Nat → LifeEvent}

/-- What a provider is after an event that is no step of a caller. -/
theorem provider_lifeAt_succ {n : Nat} {event : ProviderEvent} (hevent : events n = .happen event)
    (hcaller : ∀ caller now draw, event ≠ .advance caller now draw) :
    (lifeAt config events (n + 1)).provider
      = ((lifeAt config events n).service.perform event).provider := by
  rw [lifeAt, hevent]
  cases event with
  | advance caller now draw => exact absurd rfl (hcaller caller now draw)
  | _ => rfl

theorem isAbandoned_lifeAt_of_succ {n : Nat}
    (h : (lifeAt config events (n + 1)).provider.isAbandoned = false) :
    (lifeAt config events n).provider.isAbandoned = false ∧ events n ≠ .abandon := by
  constructor
  · refine Bool.eq_false_iff.2 fun hgone => ?_
    cases h.symm.trans (Life.isAbandoned_perform hgone (events n))
  · intro hevent
    rw [lifeAt, hevent] at h
    cases h

theorem change_lifeAt {n : Nat} (h : (lifeAt config events (n + 1)).provider.isAbandoned = false) :
    Provider.Change (lifeAt config events n).provider (lifeAt config events (n + 1)).provider :=
  Life.change_perform (isAbandoned_lifeAt_of_succ h).1 (isAbandoned_lifeAt_of_succ h).2

/-- As long as the provider has an owner, its fields fit together. -/
theorem coherent_lifeAt {n : Nat} (h : (lifeAt config events n).provider.isAbandoned = false) :
    (lifeAt config events n).provider.Coherent := by
  induction n with
  | zero => exact .new config
  | succ n ih => exact (ih (isAbandoned_lifeAt_of_succ h).1).change (change_lifeAt h)

/-- As long as the provider has an owner, runs are called off for good reasons only, and for all of
them. -/
theorem callsOff_lifeAt {n : Nat} (h : (lifeAt config events n).provider.isAbandoned = false) :
    (lifeAt config events n).provider.CallsOffOld
      ∧ (lifeAt config events n).provider.CallsOffAllOld := by
  induction n with
  | zero => exact ⟨fun _ _ hr => (by cases hr), fun _ _ hr => (by cases hr)⟩
  | succ n ih =>
    have hbefore := (isAbandoned_lifeAt_of_succ h).1
    obtain ⟨hold, hall⟩ := ih hbefore
    exact ⟨hold.change (coherent_lifeAt hbefore) (change_lifeAt h),
      hall.change (coherent_lifeAt hbefore) (change_lifeAt h)⟩

/-- **When a run that works is told to stop.** -/
theorem isRunCancelled_iff {n run : Nat} {r : Run}
    (hr : (lifeAt config events n).provider.runs[run]? = some r) (hw : r.phase = .working) :
    (lifeAt config events n).provider.isRunCancelled run = true
      ↔ r.generation < (lifeAt config events n).provider.generation
        ∨ (lifeAt config events n).provider.isDisposed = true
        ∨ (lifeAt config events n).provider.isAbandoned = true := by
  have hcancelled : (lifeAt config events n).provider.isRunCancelled run = true
      ↔ (lifeAt config events n).provider.isDisposed = true
        ∨ (lifeAt config events n).provider.isAbandoned = true ∨ r.isCalledOff = true := by
    simp [Provider.isRunCancelled, hr, or_assoc]
  rw [hcancelled]
  cases ha : (lifeAt config events n).provider.isAbandoned with
  | true => simp
  | false =>
    obtain ⟨hold, hall⟩ := callsOff_lifeAt ha
    constructor
    · rintro (hd | hgone | hoff)
      · exact .inr (.inl hd)
      · cases hgone
      · exact (hold run r hr hoff).imp_right .inl
    · rintro (hlt | hd | hgone)
      · exact .inr (.inr (hall run r hr hw (.inl hlt)))
      · exact .inl hd
      · cases hgone

/-- **A run is told to stop** by a reset, by the disposal, or when the last owner goes. -/
theorem stops_of_isRunCancelled {n run : Nat}
    (h : (lifeAt config events n).provider.isRunCancelled run = false)
    (h' : (lifeAt config events (n + 1)).provider.isRunCancelled run = true) :
    (lifeAt config events n).Resets (events n) ∨ events n = .happen .dispose
      ∨ events n = .abandon := by
  by_contra hnone
  obtain ⟨hreset, hnone⟩ := not_or.1 hnone
  obtain ⟨hdispose, howner⟩ := not_or.1 hnone
  simp only [Provider.isRunCancelled, Bool.or_eq_false_iff] at h
  obtain ⟨⟨hd, ha⟩, hoff⟩ := h
  have hchange : Provider.Change (lifeAt config events n).provider
      (lifeAt config events (n + 1)).provider := Life.change_perform ha howner
  obtain ⟨hg', hd'⟩ := Life.lasts_perform hreset hdispose
  change (lifeAt config events (n + 1)).provider.generation = _ at hg'
  change (lifeAt config events (n + 1)).provider.isDisposed = _ at hd'
  simp only [Provider.isRunCancelled, hd', hd, hchange.isAbandoned_eq, ha, Bool.false_or] at h'
  obtain ⟨s, hs, hoff'⟩ : ∃ s, (lifeAt config events (n + 1)).provider.runs[run]? = some s
      ∧ s.isCalledOff = true := by simpa [Option.any_eq_true] using h'
  rcases hchange.calledOff_cases hs hoff' with ⟨r, hr, hoff''⟩ | hg | ⟨-, hdisposed⟩
  · simp [hr, hoff''] at hoff
  · omega
  · cases hdisposed.symm.trans (hd'.trans hd)

theorem generation_lifeAt_mono {m n : Nat} (h : m ≤ n)
    (ha : (lifeAt config events n).provider.isAbandoned = false) :
    (lifeAt config events m).provider.generation
      ≤ (lifeAt config events n).provider.generation := by
  induction n, h using Nat.le_induction with
  | base => exact Nat.le_refl _
  | succ n _ ih =>
    exact (ih (isAbandoned_lifeAt_of_succ ha).1).trans (change_lifeAt ha).generation_le

/-- **The provider waits for a run that broke down**, as long as its generation lasts and nobody
comes back to the run. -/
theorem pending_of_brokenDown {m n run : Nat} (h : m ≤ n)
    (hs : (lifeAt config events m).provider.slot = .pending run)
    (hphase : (lifeAt config events m).provider.phase? run = some .brokenDown)
    (hg : (lifeAt config events n).provider.generation
      = (lifeAt config events m).provider.generation)
    (hd : (lifeAt config events n).provider.isDisposed = false)
    (ha : (lifeAt config events n).provider.isAbandoned = false)
    (hnobody : ∀ k, m ≤ k → k < n → ¬(lifeAt config events k).Returns run (events k)) :
    (lifeAt config events n).provider.slot = .pending run
      ∧ (lifeAt config events n).provider.phase? run = some .brokenDown := by
  induction n, h using Nat.le_induction with
  | base => exact ⟨hs, hphase⟩
  | succ n hmn ih =>
    have hchange := change_lifeAt ha
    have hbefore := (isAbandoned_lifeAt_of_succ ha).1
    have hle := generation_lifeAt_mono hmn hbefore
    have hle' := hchange.generation_le
    have hd' : (lifeAt config events n).provider.isDisposed = false := by
      refine Bool.eq_false_iff.2 fun hdisposed => ?_
      cases hd.symm.trans (hchange.isDisposed_of_isDisposed hdisposed)
    obtain ⟨hs, hphase⟩ := ih (by omega) hd' hbefore fun k hmk hkn => hnobody k hmk (by omega)
    have hphase' := Life.phase?_perform hphase (hnobody n hmn (Nat.lt_succ_self n))
    refine ⟨?_, hphase'⟩
    -- the run is still the one of the present generation that has not been applied
    obtain ⟨r, hr, hrg, -⟩ := (coherent_lifeAt hbefore).isOpen_of_pending run hs
    obtain ⟨s, hr', hsg, -⟩ := hchange.run_persists hr
    obtain ⟨s', hs', hbroken⟩ := Provider.phase?_eq_some.1 hphase'
    cases hr'.symm.trans hs'
    refine (coherent_lifeAt ha).pending_of_isOpen hd run ⟨s, hr', by omega, ?_⟩
    rw [hbroken]
    rfl

end

/-! ## The result -/

section

variable (config : BackoffConfig) (events : Nat → LifeEvent)

/-- **What becomes of the runs** in a life of a provider. -/
structure RunFates : Prop where
  /-- Callers that come, wait, give up or find their token cancelled leave the provider as it is. -/
  waits : ∀ n, (lifeAt config events n).Waits (events n) →
    (lifeAt config events (n + 1)).provider = (lifeAt config events n).provider
  /-- A run that works is told to stop once its generation is over, the provider is disposed of, or
  the last owner has gone, and not before. -/
  cancelled_iff : ∀ (n run : Nat) (r : Run),
    (lifeAt config events n).provider.runs[run]? = some r → r.phase = .working →
      ((lifeAt config events n).provider.isRunCancelled run = true
        ↔ r.generation < (lifeAt config events n).provider.generation
          ∨ (lifeAt config events n).provider.isDisposed = true
          ∨ (lifeAt config events n).provider.isAbandoned = true)
  /-- It is a reset, the disposal or the last owner that tells a run to stop. -/
  stops : ∀ n run, (lifeAt config events n).provider.isRunCancelled run = false →
    (lifeAt config events (n + 1)).provider.isRunCancelled run = true →
      (lifeAt config events n).Resets (events n) ∨ events n = .happen .dispose
        ∨ events n = .abandon
  /-- A run that connects makes the provider ready at once. -/
  connects : ∀ n run r link now draw, (lifeAt config events n).provider.Works run r →
    events n = .happen (.finish run (.ok link) now draw) →
      (lifeAt config events (n + 1)).provider.slot = .ready ⟨link, r.trigger, r.generation⟩
  /-- A run that returns an error leaves it at once, with a pause that begins then, if the delay can
  be drawn. -/
  fails : ∀ n run r error now draw, (lifeAt config events n).provider.Works run r →
    ¬Provider.Jams (lifeAt config events n).provider.backoff.advance →
      events n = .happen (.finish run (.error error) now draw) →
        (lifeAt config events (n + 1)).provider.slot
          = .failed error
            (Provider.retryTime now ((lifeAt config events n).provider.backoff.next draw).1)
  /-- A run that ends is applied at once exactly if it ends in a link, or in an error after which
  the delay can be drawn. One that breaks down is not. -/
  applied_iff : ∀ n run r event, (lifeAt config events n).provider.Works run r →
    events n = .happen event → (∃ result now draw, event = .finish run result now draw)
      ∨ event = .breakDown run →
        ((∃ result, Provider.Applies (lifeAt config events n).provider
          (lifeAt config events (n + 1)).provider run result)
        ↔ ∃ result now draw, event = .finish run result now draw
          ∧ (result.isOk = true
            ∨ ¬Provider.Jams (lifeAt config events n).provider.backoff.advance))
  /-- The provider waits for a run that broke down, as long as its generation lasts and nobody comes
  back to the run. -/
  lingers : ∀ m n run r, (lifeAt config events m).provider.Works run r →
    events m = .happen (.breakDown run) → m < n →
    (lifeAt config events n).provider.generation = r.generation →
    (lifeAt config events n).provider.isDisposed = false →
    (lifeAt config events n).provider.isAbandoned = false →
    (∀ k, m < k → k < n → ¬(lifeAt config events k).Returns run (events k)) →
      (lifeAt config events n).provider.slot = .pending run
        ∧ (lifeAt config events n).provider.phase? run = some .brokenDown
  /-- The first caller who comes back applies the failure, and the pause begins then. -/
  fails_late : ∀ n run caller now draw,
    (lifeAt config events n).provider.slot = .pending run →
    (lifeAt config events n).provider.phase? run = some .brokenDown →
    (lifeAt config events n).provider.isDisposed = false →
    (lifeAt config events n).provider.isAbandoned = false →
    ¬Provider.Jams (lifeAt config events n).provider.backoff.advance →
    events n = .happen (.advance caller now draw) →
    (lifeAt config events n).service.callers[caller]? = some (.waiting run) →
    caller ∉ (lifeAt config events n).cancelled →
      (lifeAt config events (n + 1)).provider.slot = .failed Provider.breakdownError
        (Provider.retryTime now ((lifeAt config events n).provider.backoff.next draw).1)

end

/-- **A run works for the provider, not for its waiters**: they cannot stop it, and what it returns
is applied at once. But whether a breakdown is applied, and when, is left to them. -/
theorem runs_do_not_need_waiters (config : BackoffConfig) (events : Nat → LifeEvent) :
    RunFates config events where
  waits := fun n h => Life.provider_perform_of_waits h
  cancelled_iff := fun n run r hr hw => isRunCancelled_iff hr hw
  stops := fun n run h h' => stops_of_isRunCancelled h h'
  connects := fun n run r link now draw hworks hevent => by
    rw [provider_lifeAt_succ hevent nofun]
    exact congrArg Provider.slot (hworks.finish_ok link now draw)
  fails := fun n run r error now draw hworks hj hevent => by
    rw [provider_lifeAt_succ hevent nofun]
    exact congrArg Provider.slot (hworks.finish_error hj error now draw)
  applied_iff := fun n run r event hworks hevent hends => by
    rcases hends with ⟨result, now, draw, rfl⟩ | rfl <;> rw [provider_lifeAt_succ hevent nofun]
    · cases result with
      | ok link =>
        exact iff_of_true ⟨_, hworks.applies_finish_ok link now draw⟩
          ⟨.ok link, now, draw, rfl, .inl rfl⟩
      | error error =>
        by_cases hj : Provider.Jams (lifeAt config events n).provider.backoff.advance
        · refine iff_of_false ?_ ?_
          · rintro ⟨result, happlies⟩
            exact Provider.not_applies_of_brokenDown
              (hworks.finish_jams hj error now draw).2 _ happlies
          · rintro ⟨result, now', draw', heq, hok | hnot⟩
            · cases heq
              cases hok
            · exact hnot hj
        · exact iff_of_true ⟨_, hworks.applies_finish_error hj error now draw⟩
            ⟨.error error, now, draw, rfl, .inr hj⟩
    · refine iff_of_false ?_ ?_
      · rintro ⟨result, happlies⟩
        exact Provider.not_applies_of_brokenDown hworks.breakDown.2 _ happlies
      · rintro ⟨result, now, draw, heq, -⟩
        cases heq
  lingers := fun m n run r hworks hevent hmn hg hd ha hnobody => by
    have hafter : (lifeAt config events (m + 1)).provider
        = (lifeAt config events m).provider.breakDown run := provider_lifeAt_succ hevent nofun
    have hpending :=
      (coherent_lifeAt hworks.isAbandoned_eq).pending_of_isOpen hworks.isDisposed_eq run
        hworks.isOpen
    refine pending_of_brokenDown (Nat.succ_le_of_lt hmn) ?_ ?_ ?_ hd ha
      fun k hmk hkn => hnobody k (Nat.lt_of_succ_le hmk) hkn
    · rw [hafter, hworks.breakDown.1, hpending]
    · rw [hafter, hworks.breakDown.2]
    · rw [hg, hafter, ← hworks.generation_eq]
      exact (Provider.lasts_breakDown _ run).1.symm
  fails_late := fun n run caller now draw hs hphase hd ha hj hevent hcall hlive => by
    obtain ⟨r, hr, hbroken⟩ := Provider.phase?_eq_some.1 hphase
    obtain ⟨r', hr', hg, -⟩ := (coherent_lifeAt ha).isOpen_of_pending run hs
    cases hr.symm.trans hr'
    have hstep : (lifeAt config events (n + 1)).provider
        = ((lifeAt config events n).provider.poll run now draw).2 := by
      rw [lifeAt, hevent]
      show ((lifeAt config events n).stepCaller caller now draw).provider = _
      rw [Life.stepCaller, hcall]
      simp [hlive, Life.provider, Service.stepCaller, hcall, Provider.advanceCall]
    rw [hstep]
    exact Provider.slot_poll_of_brokenDown hr hbroken hd ha hg.symm hj now draw

/-- A run breaks down while nobody waits, and the first caller comes an hour later. -/
def lateCaller : Nat → LifeEvent
  | 0 => .happen (.reset 0 true .rediscover)
  | 1 => .happen (.breakDown 0)
  | 2 => .happen (.come none)
  | _ => .happen (.advance 0 3600000000000 0.5)

/-- The failure is not applied for an hour, and the pause after it begins then. -/
theorem failure_waits_for_caller :
    let life := lifeAt { jitter := 0.0 } lateCaller
    (life 2).provider.phase? 0 = some .brokenDown ∧ (life 2).provider.slot = .pending 0
      ∧ (life 4).provider.slot = .pending 0
      ∧ (life 5).provider.slot = .failed Provider.breakdownError
        (Provider.retryTime 3600000000000 ((life 4).provider.backoff.next 0.5).1) := by
  have hj : ¬Provider.Jams
      (lifeAt { jitter := 0.0 } lateCaller 4).provider.backoff.advance := fun hj => by
    cases (Provider.jams_iff.1 hj).1
  exact ⟨rfl, rfl, rfl,
    Provider.slot_poll_of_brokenDown rfl rfl rfl rfl rfl hj 3600000000000 0.5⟩

end ClusterLink
