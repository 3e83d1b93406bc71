import ClusterLink.Provider.Caller
import ClusterLink.Provider.Watch

/-!
# The changes of a provider

Whatever happens to a provider, it changes in one of nine ways (`Provider.Change`): a run starts, a
new generation begins, the provider is disposed of, or a run breaks down, lapses, connects, fails or
jams – or nothing changes at all. Each step of the provider is shown here to be one of these, so
that what holds of every change holds of everything that may happen.

A run *lapses* if it ends when its generation is over or the provider is disposed of: its waiters
are told, and the provider stays as it is. A run *jams* if it fails and the delay until the next run
cannot be drawn: the provider goes on waiting for it, though it is no longer one to call off.
-/

namespace ClusterLink

/-- Whether the run is over and its outcome settled. -/
def RunPhase.isEnded : RunPhase → Bool
  | .ended _ => true
  | _ => false

/-- Whether the task of the run broke down and that could not be settled yet. -/
def RunPhase.isStuck : RunPhase → Bool
  | .brokenDown | .poisoned => true
  | _ => false

namespace Provider

/-! ## Runs -/

@[simp] theorem getElem?_runs_setPhase (p : Provider) (run k : Nat) (phase : RunPhase) :
    (p.setPhase run phase).runs[k]?
      = (p.runs[k]?).map fun r => if run = k then { r with phase := phase } else r := by
  simp [setPhase, List.getElem?_modify]

/-- A run that is called off stays as it is otherwise. -/
theorem getElem?_runs_callOff (p : Provider) (k : Nat) :
    p.callOff.runs[k]?
      = (p.runs[k]?).map fun r =>
        { r with isCalledOff := r.isCalledOff || p.activeRun == some k } := by
  unfold callOff
  cases p.activeRun with
  | none => simp
  | some run =>
    simp only [List.getElem?_modify, Option.some_beq_some]
    cases p.runs[k]? with
    | none => rfl
    | some r =>
      by_cases h : run = k
      · simp [h]
      · have hb : (run == k) = false := beq_eq_false_iff_ne.2 h
        simp [h, hb]

theorem getElem?_runs_start (p : Provider) (now : Instant) (k : Nat) :
    (p.start now).runs[k]? = if k = p.runs.length
      then some { generation := p.generation, trigger := p.trigger, started := now }
      else p.runs[k]? := by
  show (p.runs ++ [_])[k]? = _
  rw [List.getElem?_append]
  split
  · rw [if_neg (by omega)]
  · by_cases hk : k = p.runs.length
    · simp [hk]
    · rw [if_neg hk, List.getElem?_eq_none (by simp; omega), List.getElem?_eq_none (by omega)]

/-- The provider that a new generation begins with, before a run of it starts. -/
def renew (p : Provider) (trigger : Trigger) : Provider :=
  { p.callOff with
    generation := p.generation + 1
    trigger := trigger
    slot := .empty
    log := p.log ++ [Metric.reconnect trigger.label] }

theorem advance_eq (p : Provider) (now : Instant) (inRuntime : Bool) (trigger : Trigger) :
    p.advance now inRuntime trigger
      = if inRuntime then (p.renew trigger).start now else p.renew trigger := rfl

theorem dispose_eq {p : Provider} (hd : p.isDisposed = false) :
    p.dispose = { p.callOff with isDisposed := true, slot := .empty } := by
  simp [dispose, hd]

@[simp] theorem trigger_callOff (p : Provider) : p.callOff.trigger = p.trigger := by
  unfold callOff
  split <;> rfl

@[simp] theorem isAbandoned_callOff (p : Provider) : p.callOff.isAbandoned = p.isAbandoned := by
  unfold callOff
  split <;> rfl

@[simp] theorem backoff_callOff (p : Provider) : p.callOff.backoff = p.backoff := by
  unfold callOff
  split <;> rfl

@[simp] theorem slot_breakDown (p : Provider) (run : Nat) : (p.breakDown run).slot = p.slot := by
  unfold breakDown
  split <;> rfl

/-! ## The changes -/

/-- The delay that comes next leaves nothing to draw from. -/
def Jams (b : Backoff) : Prop :=
  ∃ draw, spread? b.current b.config.jitter draw = none

/-- The provider once no run is to be called off any more, with what it holds then. -/
def holding (p : Provider) (slot : Slot) (backoff : Backoff) (log : List Metric) : Provider :=
  { p with activeRun := none, slot := slot, backoff := backoff, log := log }

@[simp] theorem runs_holding (p : Provider) (slot : Slot) (backoff : Backoff) (log : List Metric) :
    (p.holding slot backoff log).runs = p.runs := rfl

/-- **How a provider may change.** A provider that reports keeps everything else, so the changes of
a run that ends allow for any log. -/
inductive Change (p : Provider) : Provider → Prop where
  | stay : Change p p
  | start (now : Instant) (hd : p.isDisposed = false) (hp : ∀ run, p.slot ≠ .pending run)
      (hr : ∀ c, p.slot ≠ .ready c) : Change p (p.start now)
  | advance (now : Instant) (inRuntime : Bool) (trigger : Trigger) (hd : p.isDisposed = false) :
      Change p (p.advance now inRuntime trigger)
  | dispose (hd : p.isDisposed = false) : Change p p.dispose
  | breakDown (run : Nat) (r : Run) (hr : p.runs[run]? = some r) (hw : r.phase.isEnded = false) :
      Change p (p.setPhase run .brokenDown)
  | lapse (run : Nat) (r : Run) (outcome : Option (Except Error Connection)) (log : List Metric)
      (hr : p.runs[run]? = some r) (hw : r.phase.isEnded = false)
      (ho : p.isDisposed = true ∧ outcome = some (.error disposedError)
        ∨ p.isDisposed = false ∧ p.generation ≠ r.generation ∧ outcome = none) :
      Change p ({ p with log := log }.setPhase run (.ended outcome))
  | connect (run : Nat) (r : Run) (link : Link) (log : List Metric)
      (hr : p.runs[run]? = some r) (hw : r.phase.isEnded = false) (hd : p.isDisposed = false)
      (hg : p.generation = r.generation) :
      Change p
        ((p.holding (.ready ⟨link, r.trigger, r.generation⟩) p.backoff.reset log).setPhase run
          (.ended (some (.ok ⟨link, r.trigger, r.generation⟩))))
  | fail (run : Nat) (r : Run) (error : Error) (retryAt : Instant) (log : List Metric)
      (hr : p.runs[run]? = some r) (hw : r.phase.isEnded = false) (hd : p.isDisposed = false)
      (hg : p.generation = r.generation) :
      Change p ((p.holding (.failed error retryAt) p.backoff.advance log).setPhase run
        (.ended (some (.error error))))
  | jam (run : Nat) (r : Run) (phase : RunPhase) (log : List Metric)
      (hr : p.runs[run]? = some r) (hw : r.phase.isEnded = false) (hd : p.isDisposed = false)
      (hg : p.generation = r.generation) (hj : Jams p.backoff.advance)
      (hs : phase.isStuck = true) :
      Change p ((p.holding p.slot p.backoff.advance log).setPhase run phase)

/-! ## What all changes have in common -/

namespace Change

variable {p q : Provider}

theorem isAbandoned_eq (h : Change p q) : q.isAbandoned = p.isAbandoned := by
  cases h with
  | advance now inRuntime trigger hd =>
    unfold Provider.advance
    split
    · exact isAbandoned_callOff p
    · exact isAbandoned_callOff p
  | dispose hd =>
    unfold Provider.dispose
    split
    · rfl
    · exact isAbandoned_callOff p
  | _ => rfl

/-- Disposal is for good. -/
theorem isDisposed_of_isDisposed (h : Change p q) (hp : p.isDisposed = true) :
    q.isDisposed = true := by
  cases h with
  | start now hd _ _ => exact absurd (hp.symm.trans hd) (by decide)
  | advance now inRuntime trigger hd => exact absurd (hp.symm.trans hd) (by decide)
  | dispose hd => exact isDisposed_dispose p
  | _ => exact hp

/-- The generation grows by one or stays. -/
theorem generation_eq (h : Change p q) :
    q.generation = p.generation ∨ q.generation = p.generation + 1 ∧ q.isDisposed = false := by
  cases h with
  | advance now inRuntime trigger hd =>
    refine .inr ⟨generation_advance p now inRuntime trigger, ?_⟩
    unfold Provider.advance
    split <;> exact (isDisposed_callOff p).trans hd
  | dispose hd =>
    refine .inl ?_
    unfold Provider.dispose
    split
    · rfl
    · exact generation_callOff p
  | _ => exact .inl rfl

theorem generation_le (h : Change p q) : p.generation ≤ q.generation := by
  rcases h.generation_eq with h | ⟨h, -⟩ <;> omega

/-- The trigger changes with the generation only. -/
theorem trigger_eq (h : Change p q) (hg : q.generation = p.generation) : q.trigger = p.trigger := by
  cases h with
  | advance now inRuntime trigger hd =>
    rw [generation_advance] at hg
    omega
  | dispose hd =>
    unfold Provider.dispose
    split
    · rfl
    · exact trigger_callOff p
  | _ => rfl

/-- The sequence of delays stays as it is, goes on by one delay, or starts again. -/
theorem backoff_cases (h : Change p q) :
    q.backoff = p.backoff ∨ q.backoff = p.backoff.advance ∨ q.backoff = p.backoff.reset := by
  cases h with
  | advance now inRuntime trigger hd =>
    refine .inl ?_
    unfold Provider.advance
    split <;> exact backoff_callOff p
  | dispose hd =>
    refine .inl ?_
    rw [dispose_eq hd]
    exact backoff_callOff p
  | connect => exact .inr (.inr rfl)
  | fail | jam => exact .inr (.inl rfl)
  | stay | start | breakDown | lapse => exact .inl rfl

end Change

/-! ## What becomes of the runs -/

/-- **What callers are shown**: the connection that is ready, or the error of the last run. -/
def Shows (p : Provider) : Except Error Connection → Prop
  | .ok c => p.slot = .ready c
  | .error e => ∃ retryAt, p.slot = .failed e retryAt

/-- A run starts, as the last one: not while a run of its generation is under way or has
connected. -/
structure Starts (p q : Provider) (run : Nat) (r : Run) : Prop where
  isDisposed_eq : p.isDisposed = false
  run_eq : run = p.runs.length
  generation_eq : r.generation = q.generation
  phase_eq : r.phase = .working
  slot_eq : q.slot = .pending run
  slot_ne : q.generation = p.generation →
    (∀ run, p.slot ≠ .pending run) ∧ ∀ c, p.slot ≠ .ready c

/-- A run ends. Its outcome is shown to callers if the run is of the present generation and the
provider is not disposed of; otherwise nothing else changes. -/
inductive Ends (p q : Provider) (r : Run) : Option (Except Error Connection) → Prop where
  | disposed (hd : p.isDisposed = true) : Ends p q r (some (.error disposedError))
  | stale (hd : p.isDisposed = false) (hg : p.generation ≠ r.generation) : Ends p q r none
  | applied (result : Except Error Connection) (hd : p.isDisposed = false)
      (hg : p.generation = r.generation) (hs : q.Shows result) (hq : q.isDisposed = false)
      (hgq : q.generation = p.generation) : Ends p q r (some result)

/-- **What may become of a run**: it stays as far as it was, breaks down, or ends. -/
inductive Proceeds (p q : Provider) (r r' : Run) : Prop where
  | stays (hphase : r'.phase = r.phase)
  | breaks (hw : r.phase.isEnded = false) (hw' : r'.phase.isEnded = false)
  | ends (outcome : Option (Except Error Connection)) (hw : r.phase.isEnded = false)
      (hphase : r'.phase = .ended outcome) (h : Ends p q r outcome)

namespace Change

variable {p q : Provider}

/-- A run whose phase alone is set proceeds as that phase says. -/
theorem proceeds_of_setPhase {o : Provider} {run k : Nat} {r s : Run} {phase : RunPhase}
    (hs : (o.setPhase run phase).runs[k]? = some s) (ho : o.runs = p.runs)
    (hr : p.runs[run]? = some r)
    (h : Proceeds p (o.setPhase run phase) r { r with phase := phase }) :
    ∃ s', p.runs[k]? = some s' ∧ s'.generation = s.generation
      ∧ Proceeds p (o.setPhase run phase) s' s := by
  rw [getElem?_runs_setPhase, ho] at hs
  obtain ⟨s', hs', rfl⟩ := Option.map_eq_some_iff.1 hs
  refine ⟨s', hs', ?_⟩
  by_cases hk : run = k
  · subst hk
    rw [hr] at hs'
    cases hs'
    simpa using h
  · simpa [hk] using Proceeds.stays rfl

/-- A run that is called off stays of its generation and in its phase. -/
theorem exists_run_of_callOff {k : Nat} {s : Run} (hs : p.callOff.runs[k]? = some s) :
    ∃ r, p.runs[k]? = some r ∧ r.generation = s.generation ∧ s.phase = r.phase := by
  obtain ⟨r, hr, rfl⟩ := Option.map_eq_some_iff.1 ((getElem?_runs_callOff p k).symm.trans hs)
  exact ⟨r, hr, rfl, rfl⟩

/-- **Where the runs after a change come from**: each was there before and proceeds, or starts. -/
theorem run_cases (h : Change p q) {k : Nat} {s : Run} (hs : q.runs[k]? = some s) :
    (∃ r, p.runs[k]? = some r ∧ r.generation = s.generation ∧ Proceeds p q r s)
      ∨ Starts p q k s := by
  cases h with
  | stay => exact .inl ⟨s, hs, rfl, .stays rfl⟩
  | start now hd hp hr =>
    rw [getElem?_runs_start] at hs
    split at hs
    · rename_i hk
      cases hs
      exact .inr ⟨hd, hk, rfl, rfl, congrArg Slot.pending hk.symm, fun _ => ⟨hp, hr⟩⟩
    · exact .inl ⟨s, hs, rfl, .stays rfl⟩
  | advance now inRuntime trigger hd =>
    rw [advance_eq] at hs ⊢
    split at hs
    · rename_i hin
      rw [getElem?_runs_start] at hs
      split at hs
      · rename_i hk
        cases hs
        rw [if_pos hin]
        refine .inr ⟨hd, hk.trans (length_runs_callOff p), rfl, rfl,
          congrArg Slot.pending hk.symm, fun hg => ?_⟩
        -- the run that starts is the first of a new generation
        exact absurd (show p.generation + 1 = p.generation from hg) (Nat.succ_ne_self _)
      · obtain ⟨r, hr, hg, hphase⟩ := exists_run_of_callOff hs
        exact .inl ⟨r, hr, hg, .stays hphase⟩
    · obtain ⟨r, hr, hg, hphase⟩ := exists_run_of_callOff hs
      exact .inl ⟨r, hr, hg, .stays hphase⟩
  | dispose hd =>
    rw [dispose_eq hd] at hs
    obtain ⟨r, hr, hg, hphase⟩ := exists_run_of_callOff hs
    exact .inl ⟨r, hr, hg, .stays hphase⟩
  | breakDown run r hr hw => exact .inl (proceeds_of_setPhase hs rfl hr (.breaks hw rfl))
  | lapse run r outcome log hr hw ho =>
    refine .inl (proceeds_of_setPhase hs rfl hr (.ends outcome hw rfl ?_))
    rcases ho with ⟨hd, rfl⟩ | ⟨hd, hg, rfl⟩
    · exact .disposed hd
    · exact .stale hd hg
  | connect run r link log hr hw hd hg =>
    exact .inl (proceeds_of_setPhase hs rfl hr (.ends _ hw rfl (.applied _ hd hg rfl hd rfl)))
  | fail run r error retryAt log hr hw hd hg =>
    exact .inl (proceeds_of_setPhase hs rfl hr
      (.ends _ hw rfl (.applied _ hd hg ⟨retryAt, rfl⟩ hd rfl)))
  | jam run r phase log hr hw hd hg hj hstuck =>
    -- a run that jams has not ended
    refine .inl (proceeds_of_setPhase hs rfl hr (.breaks hw ?_))
    cases phase <;> first | rfl | cases hstuck

theorem length_runs_le (h : Change p q) : p.runs.length ≤ q.runs.length := by
  cases h with
  | start now hd hp hr =>
    rw [length_runs_start]
    omega
  | advance now inRuntime trigger hd =>
    have hlen : (p.renew trigger).runs.length = p.runs.length := length_runs_callOff p
    rw [advance_eq]
    split
    · rw [length_runs_start, hlen]
      omega
    · exact Nat.le_of_eq hlen.symm
  | dispose hd =>
    rw [dispose_eq hd]
    exact Nat.le_of_eq (length_runs_callOff p).symm
  | stay => exact Nat.le_refl _
  | breakDown | lapse | connect | fail | jam => simp [setPhase]

/-- A run that is there stays there, and once it has ended it stays as it is. -/
theorem run_persists (h : Change p q) {k : Nat} {r : Run} (hr : p.runs[k]? = some r) :
    ∃ s, q.runs[k]? = some s ∧ s.generation = r.generation ∧ Proceeds p q r s := by
  have hlt : k < p.runs.length := (List.getElem?_eq_some_iff.1 hr).1
  have hlt' : k < q.runs.length := Nat.lt_of_lt_of_le hlt h.length_runs_le
  refine ⟨q.runs[k], List.getElem?_eq_getElem hlt', ?_⟩
  rcases h.run_cases (List.getElem?_eq_getElem hlt') with ⟨r', hr', hg, hp⟩ | hstarts
  · rw [hr] at hr'
    cases hr'
    exact ⟨hg.symm, hp⟩
  · exact absurd hstarts.run_eq (by omega)

/-- A run that has ended stays as it is. -/
theorem ended_persists (h : Change p q) {k : Nat} {outcome : Option (Except Error Connection)}
    (hp : ∃ r, p.runs[k]? = some r ∧ r.phase = .ended outcome) :
    ∃ s, q.runs[k]? = some s ∧ s.phase = .ended outcome := by
  obtain ⟨r, hr, hphase⟩ := hp
  obtain ⟨s, hs, -, hproceeds⟩ := h.run_persists hr
  refine ⟨s, hs, ?_⟩
  cases hproceeds with
  | stays h => exact h.trans hphase
  | breaks hw | ends outcome' hw =>
    rw [hphase] at hw
    cases hw

end Change

/-! ## Every step is a change -/

/-- Settling a run is a lapse, or it connects or fails. -/
theorem change_settle {p : Provider} {run : Nat} {r : Run} (hr : p.runs[run]? = some r)
    (hw : r.phase.isEnded = false) (result : Except Error Link) (now : Instant) (draw : Float)
    (log : List Metric) :
    Change p ({ p with log := log }.settle run r result now draw) := by
  unfold settle
  by_cases hd : p.isDisposed = true
  · rw [complete_of_isDisposed (by exact hd)]
    exact .lapse run r _ log hr hw (.inl ⟨hd, rfl⟩)
  · rw [Bool.not_eq_true] at hd
    by_cases hg : p.generation = r.generation
    · cases result with
      | ok link =>
        rw [complete_ok (by exact hd) (by exact hg)]
        exact .connect run r link log hr hw hd hg
      | error error =>
        rw [complete_error (by exact hd) (by exact hg)]
        exact .fail run r error _ log hr hw hd hg
    · rw [complete_of_generation_ne (by exact hd) (by exact hg)]
      exact .lapse run r none log hr hw (.inr ⟨hd, hg, rfl⟩)

/-- A failure that cannot be applied is one of the current generation. -/
theorem of_cannotFail {p : Provider} {r : Run} {draw : Float} (h : p.cannotFail r draw = true) :
    p.isDisposed = false ∧ p.generation = r.generation ∧ Jams p.backoff.advance := by
  simp only [cannotFail, Bool.and_eq_true, Bool.not_eq_true', beq_iff_eq,
    Option.isNone_iff_eq_none] at h
  exact ⟨h.1.1, h.1.2, draw, h.2⟩

theorem change_finish {p : Provider} (ha : p.isAbandoned = false) (run : Nat)
    (result : Except Error Link) (now : Instant) (draw : Float) :
    Change p (p.finish run result now draw) := by
  unfold finish
  cases hr : p.runs[run]? with
  | none => exact .stay
  | some r =>
    dsimp only
    cases hw : r.phase with
    | brokenDown | poisoned | ended => exact .stay
    | working =>
      have hw' : r.phase.isEnded = false := by rw [hw]; rfl
      dsimp only
      rw [if_neg (by simp [ha])]
      split
      · rename_i h
        obtain ⟨hd, hg, hj⟩ := of_cannotFail (Bool.and_eq_true_iff.1 h).2
        -- half of the failure is kept, and the run is still under way when its task breaks down
        have hphase : ({ p with log := p.log ++ [endReport r result now] }.halfFail).phase? run
            = some .working := by
          simp [phase?, halfFail, hr, hw]
        rw [breakDown, hphase]
        exact .jam run r .brokenDown _ hr hw' hd hg hj rfl
      · exact change_settle hr hw' result now draw _

theorem change_breakDown (p : Provider) (run : Nat) : Change p (p.breakDown run) := by
  unfold breakDown phase?
  cases hr : p.runs[run]? with
  | none => exact .stay
  | some r =>
    dsimp only [Option.map_some]
    cases hw : r.phase with
    | brokenDown | poisoned | ended => exact .stay
    | working => exact .breakDown run r hr (by rw [hw]; rfl)

theorem change_poll {p : Provider} (ha : p.isAbandoned = false) (run : Nat) (now : Instant)
    (draw : Float) : Change p (p.poll run now draw).2 := by
  unfold poll
  cases hr : p.runs[run]? with
  | none => exact .stay
  | some r =>
    dsimp only
    cases hw : r.phase with
    | working | poisoned | ended => exact .stay
    | brokenDown =>
      have hw' : r.phase.isEnded = false := by rw [hw]; rfl
      dsimp only
      rw [if_neg (by simp [ha])]
      split
      · rename_i h
        obtain ⟨hd, hg, hj⟩ := of_cannotFail h
        exact .jam run r .poisoned p.log hr hw' hd hg hj rfl
      · exact change_settle hr hw' _ now draw p.log

theorem change_current (p : Provider) (now : Instant) : Change p (p.current now).2 := by
  unfold current
  cases hd : p.isDisposed with
  | true => exact .stay
  | false =>
    simp only [Bool.false_eq_true, if_false]
    cases hs : p.slot with
    | ready c => exact .stay
    | pending run => exact .stay
    | failed error retryAt =>
      dsimp only
      split
      · exact .stay
      · exact .start now hd (by simp [hs]) (by simp [hs])
    | empty => exact .start now hd (by simp [hs]) (by simp [hs])

theorem change_reset (p : Provider) (now : Instant) (inRuntime : Bool) (trigger : Trigger) :
    Change p (p.reset now inRuntime trigger) := by
  unfold reset
  cases hd : p.isDisposed with
  | true => exact .stay
  | false => exact .advance now inRuntime trigger hd

theorem change_resetFrom (p : Provider) (generation : Nat) (now : Instant) (inRuntime : Bool)
    (trigger : Trigger) : Change p (p.resetFrom generation now inRuntime trigger) := by
  unfold resetFrom
  split
  · exact .stay
  · rename_i h
    exact .advance now inRuntime trigger (by simp_all)

theorem change_observe (p : Provider) (generation : Nat) (status : Status) (now : Instant)
    (inRuntime : Bool) : Change p (p.observe generation status now inRuntime) := by
  unfold observe
  cases triggerOf status.classify with
  | none => exact .stay
  | some trigger =>
    dsimp only
    split
    · exact .stay
    · exact change_resetFrom p generation now inRuntime trigger

theorem change_dispose (p : Provider) : Change p p.dispose := by
  cases hd : p.isDisposed with
  | true =>
    have h : p.dispose = p := by simp [dispose, hd]
    rw [h]
    exact .stay
  | false => exact .dispose hd

theorem change_advanceCall {p : Provider} (ha : p.isAbandoned = false) (call : CallPhase)
    (now : Instant) (draw : Float) : Change p (p.advanceCall call now draw).2 := by
  cases call with
  | forcing trigger => exact change_reset p now true trigger
  | asking => exact change_current p now
  | waiting run => exact change_poll ha run now draw
  | done | brokenDown | gone => exact .stay

end Provider

end ClusterLink
