import ClusterLink.Proofs.Client.Endings
import ClusterLink.Proofs.Provider.Outcomes
import ClusterLink.Proofs.Provider.Superseded

/-!
# The generations of a client

As long as nobody interferes with a generation (`ClientRun.IsUndisturbed`), what its callers are
given comes from the attempts of its own runs. If these come to results of some kind only
(`Deployment.ComesTo`), then nobody is given anything else (`ClientRun.YieldsFrom.awaits`), and a
call is over when it has taken a step, the run under way has stopped, and the call takes another
step (`ClientRun.YieldsFrom.isLive_of_stopped`).
-/

namespace ClusterLink

/-- What the waiters of a run get if its attempt ends in such a result while the generation
lasts. -/
def Run.outcome (r : Run) (result : Except Error Link) : Except Error Connection :=
  result.map fun link => ⟨link, r.trigger, r.generation⟩

/-- The attempt is not over, or over with such a result. -/
def ConnectPhase.ComesTo (Q : Except Error Link → Prop) : ConnectPhase → Prop
  | .ended result => Q result
  | .brokenDown => False
  | _ => True

namespace Deployment

/-- **The attempts of the present generation come to such results only.** -/
def ComesTo (d : Deployment) (P : Except Error Connection → Prop) : Prop :=
  ∀ (run : Nat) (r : Run), d.client.provider.runs[run]? = some r →
    r.generation = d.client.provider.generation →
    (d.client.attempt run).ComesTo fun result => P (r.outcome result)

/-- **What a call for the connection comes to**: it is given such a result, or heeds its own
token. -/
def Awaits (d : Deployment) (P : Except Error Connection → Prop) (first : Nat)
    (q : ConnectionCall) : Prop :=
  d.client.provider.Awaits P first q.phase
    ∨ q.isCancelled = true ∧ q.phase = .done (.error .cancelled)

end Deployment

namespace ClientRun

variable {x : ClientRun} {P : Except Error Connection → Prop} {first generation m n : Nat}

/-! ## Nobody interferes -/

/-- **Nobody interferes**: the generation lasts, and nothing is shut down or disposed of. -/
structure IsUndisturbed (x : ClientRun) (generation n : Nat) : Prop where
  generation_eq : (x.state n).client.provider.generation = generation
  provider : (x.state n).client.provider.isDisposed = false
  client : (x.state n).client.isShutDown = false
  cache : (x.state n).client.site.cache.isDisposed = false

/-- Who is undisturbed now was so before, since the generation began. -/
theorem IsUndisturbed.of_succ (h : x.IsUndisturbed generation (n + 1))
    (hg : generation ≤ (x.state n).client.provider.generation) :
    x.IsUndisturbed generation n where
  generation_eq := Nat.le_antisymm (h.generation_eq ▸ (x.change_provider n).generation_le) hg
  provider := Bool.eq_false_iff.2 fun hd => by
    cases h.provider.symm.trans ((x.change_provider n).isDisposed_of_isDisposed hd)
  client := Bool.eq_false_iff.2 fun hs => by
    cases h.client.symm.trans (Deployment.isShutDown_perform hs (x.events n))
  cache := Bool.eq_false_iff.2 fun hd => by
    rcases (x.change_site n).cache_cases with hsame | ⟨u, -, huse⟩
    · rw [← hsame, h.cache] at hd
      cases hd
    · cases h.cache.symm.trans (huse ▸ Cache.isDisposed_of_use hd u)

theorem IsUndisturbed.of_le (h : x.IsUndisturbed generation n) (hmn : m ≤ n)
    (hg : generation ≤ (x.state m).client.provider.generation) :
    x.IsUndisturbed generation m := by
  induction n, hmn using Nat.le_induction with
  | base => exact h
  | succ n hmn ih => exact ih (h.of_succ (hg.trans (x.generation_mono hmn)))

theorem callsOffOld_state (x : ClientRun) (n : Nat) :
    (x.state n).client.provider.CallsOffOld := by
  induction n with
  | zero => exact fun run r hr => by cases x.getElem?_runs_zero run ▸ hr
  | succ n ih => exact ih.change (x.coherent_state n) (x.change_provider n)

/-- A run of the present generation is not told to stop. -/
theorem isRunCancelled_eq_false (h : x.IsUndisturbed generation n) {run : Nat} {r : Run}
    (hr : (x.state n).client.provider.runs[run]? = some r) (hg : r.generation = generation) :
    (x.state n).client.provider.isRunCancelled run = false := by
  have hoff : r.isCalledOff = false := Bool.eq_false_iff.2 fun hoff => by
    rcases x.callsOffOld_state n run r hr hoff with hlt | hd
    · rw [hg, h.generation_eq] at hlt
      exact absurd hlt (Nat.lt_irrefl _)
    · cases h.provider.symm.trans hd
  rw [Provider.isRunCancelled, h.provider, x.isAbandoned_state n, hr]
  exact hoff

/-! ## The runs of a generation -/

/-- A run that starts has not done anything yet. -/
theorem attempt_of_starts {run : Nat} (hle : (x.state n).client.provider.runs.length ≤ run) :
    (x.state (n + 1)).client.attempt run = .waiting := by
  have hfresh := (x.runsFit_state n).fresh run hle
  have hattempted := x.attempted n run
  generalize (x.state (n + 1)).client.attempt run = phase at hattempted ⊢
  cases hattempted with
  | stays => exact hfresh
  | steps r shuffle now draw phase hevent hr =>
    rw [List.getElem?_eq_none hle] at hr
    cases hr
  | answers answer =>
    rw [hfresh]
    rfl

/-- **A run ends as its attempt does.** -/
theorem outcome_of_stops (hquiet : x.IsUndisturbed generation n) {run : Nat} {r s : Run}
    (hr : (x.state n).client.provider.runs[run]? = some r) (hg : r.generation = generation)
    (hw : r.phase = .working) (hs : (x.state (n + 1)).client.provider.runs[run]? = some s)
    (hstops : s.phase ≠ .working) :
    (x.state (n + 1)).client.attempt run = .brokenDown
      ∨ ∃ result, (x.state (n + 1)).client.attempt run = .ended result
        ∧ s.phase = .ended (some (r.outcome result)) := by
  obtain ⟨now, draw, hprovider⟩ :=
    Deployment.settled_of_stops (x.isAbandoned_state n) hr hw hs hstops
  rw [show (x.state n).perform (x.events n) = x.state (n + 1) from rfl] at hprovider
  cases hphase : (x.state (n + 1)).client.attempt run with
  | brokenDown => exact .inl rfl
  | ended result =>
    refine .inr ⟨result, rfl, ?_⟩
    rw [hphase, Client.settled, Provider.finish_of_working hr hw (x.isAbandoned_state n)]
      at hprovider
    dsimp only at hprovider
    have hfails : ∀ log,
        ({ (x.state n).client.provider with log := log } : Provider).cannotFail r draw = false :=
      fun log => Bool.eq_false_iff.2 fun h => x.not_jams n (Provider.of_cannotFail h).2.2
    rw [hfails, Bool.and_false, if_neg Bool.false_ne_true] at hprovider
    rw [hprovider, Provider.settle, Provider.getElem?_runs_setPhase, Provider.runs_complete, hr,
      Option.map_some, if_pos rfl] at hs
    cases hs
    show RunPhase.ended (Provider.complete _ r result now draw).1 = _
    have hgen : (x.state n).client.provider.generation = r.generation :=
      hquiet.generation_eq.trans hg.symm
    cases result with
    | ok link => rw [Provider.complete_ok (by exact hquiet.provider) (by exact hgen)]; rfl
    | error error => rw [Provider.complete_error (by exact hquiet.provider) (by exact hgen)]; rfl
  | _ =>
    rw [hphase, Client.settled] at hprovider
    · rw [hprovider] at hs
      cases hr.symm.trans hs
      exact absurd hw hstops
    all_goals simp

/-- What a generation yields over one event. -/
theorem yields_succ (h : (x.state n).client.provider.Yields P first)
    (hquiet : x.IsUndisturbed generation n) (hquiet' : x.IsUndisturbed generation (n + 1))
    (hcomes : (x.state (n + 1)).ComesTo P) : (x.state (n + 1)).client.provider.Yields P first := by
  refine h.change (x.change_provider n) (hquiet'.generation_eq.trans hquiet.generation_eq.symm)
    hquiet'.provider (x.not_jams n) fun run r s hr hg hw hs => ?_
  by_cases hstops : s.phase = .working
  · exact .inl hstops
  refine .inr ?_
  obtain ⟨s', hs', hsg, -⟩ := (x.change_provider n).run_persists hr
  cases hs.symm.trans hs'
  have hgen := hg.trans hquiet.generation_eq
  have hphase := hcomes run s hs (hsg.trans (hgen.trans hquiet'.generation_eq.symm))
  have htrigger : s.trigger = r.trigger := by
    rw [(x.coherent_state (n + 1)).trigger_eq run s hs
        (hsg.trans (hgen.trans hquiet'.generation_eq.symm)),
      (x.coherent_state n).trigger_eq run r hr hg]
    exact (x.change_provider n).trigger_eq (hquiet'.generation_eq.trans hquiet.generation_eq.symm)
  rcases outcome_of_stops hquiet hr hgen hw hs hstops with hbroken | ⟨result, hended, houtcome⟩
  · rw [hbroken] at hphase
    exact hphase.elim
  · rw [hended] at hphase
    have hsame : s.outcome result = r.outcome result := by rw [Run.outcome, htrigger, hsg]; rfl
    exact ⟨_, houtcome, hsame ▸ hphase⟩

/-- **A generation yields what its attempts come to.** -/
theorem yields_of_comesTo (hquiet : x.IsUndisturbed generation n)
    (hcomes : ∀ k, x.IsUndisturbed generation k → (x.state k).ComesTo P) :
    (x.state n).client.provider.Yields P 0 := by
  induction n with
  | zero =>
    rw [x.provider_zero]
    exact ⟨Nat.zero_le _, fun c hc => Slot.noConfusion hc, fun error retryAt hs =>
      Slot.noConfusion hs, fun run r hr => (List.not_mem_nil (List.mem_of_getElem? hr)).elim,
      fun run r hr => (List.not_mem_nil (List.mem_of_getElem? hr)).elim⟩
  | succ n ih =>
    rcases (x.change_provider n).generation_eq with hsame | ⟨hnext, -⟩
    · have hquiet' := hquiet.of_succ (Nat.le_of_eq (hquiet.generation_eq.symm.trans hsame))
      exact yields_succ (ih hquiet') hquiet' hquiet (hcomes (n + 1) hquiet)
    · exact Provider.yields_of_advance (x.coherent_state n) (x.change_provider n) hnext

/-! ## Calls -/

/-- What a call comes to over one event. -/
theorem awaits_succ (h : (x.state n).client.provider.Yields P first)
    (hquiet : x.IsUndisturbed generation n) (hquiet' : x.IsUndisturbed generation (n + 1)) {i : Nat}
    {q : ConnectionCall}
    (hold : ∀ q₀, (x.state n).calls[i]? = some q₀ → (x.state n).Awaits P first q₀)
    (hq : (x.state (n + 1)).calls[i]? = some q) : (x.state (n + 1)).Awaits P first q := by
  have hgen :
      (x.state (n + 1)).client.provider.generation = (x.state n).client.provider.generation :=
    hquiet'.generation_eq.trans hquiet.generation_eq.symm
  have hkeeps : ∀ {q : ConnectionCall}, (x.state n).Awaits P first q →
      (x.state (n + 1)).Awaits P first q :=
    Or.imp_left (Provider.Awaits.change (x.change_provider n) hgen)
  cases Deployment.goes_of_perform hq with
  | begins q hnone hbegins =>
    cases hbegins with
    | asking | forcing | gone => exact .inl trivial
    | shutOut isCancelled hs => cases hquiet.client.symm.trans hs
    | cancelled => exact .inr ⟨rfl, rfl⟩
    | ready c hs => exact .inl (h.ready c hs)
  | stays q hq₀ => exact hkeeps (hold q hq₀)
  | cancel q hq₀ => exact hkeeps ((hold q hq₀).imp_right fun hown => ⟨rfl, hown.2⟩)
  | giveUp q hq₀ =>
    refine hkeeps ((hold q hq₀).imp (fun hawaits => ?_) fun ⟨hc, hdone⟩ => ⟨hc, ?_⟩)
    · show (x.state n).client.provider.Awaits P first q.phase.giveUp
      cases hphase : q.phase with
      | done result =>
        rw [hphase] at hawaits
        exact hawaits
      | brokenDown =>
        rw [hphase] at hawaits
        exact hawaits.elim
      | _ => trivial
    · simp only [hdone]
      rfl
  | heeds q hq₀ hc hlive => exact .inr ⟨hc, rfl⟩
  | steps q now draw hq₀ hevent hc hp =>
    rcases hold q hq₀ with hawaits | ⟨hc, hdone⟩
    · exact .inl (hp.symm ▸ hawaits.advanceCall h (x.coherent_state n) hquiet.provider now draw)
    · refine .inr ⟨hc, ?_⟩
      simp only [hdone]
      rfl

/-- A call that takes its step while the generation lasts does not replace the connection. -/
theorem ne_forcing (hquiet : x.IsUndisturbed generation n)
    (hquiet' : x.IsUndisturbed generation (n + 1)) {phase : CallPhase} {now : Instant}
    {draw : Float} (hprovider : (x.state (n + 1)).client.provider
      = ((x.state n).client.provider.advanceCall phase now draw).2) (trigger : Trigger) :
    phase ≠ .forcing trigger := by
  rintro rfl
  have hgen : (x.state (n + 1)).client.provider.generation
      = ((x.state n).client.provider.reset now true trigger).generation :=
    congrArg Provider.generation hprovider
  rw [hquiet'.generation_eq, Provider.reset, if_neg (by simp [hquiet.provider]),
    Provider.generation_advance, hquiet.generation_eq] at hgen
  exact absurd hgen.symm (Nat.succ_ne_self _)

/-- **A call that goes on after its step waits for the run that is under way.** -/
theorem pending_of_advances (h : (x.state n).client.provider.Yields P first)
    (hquiet : x.IsUndisturbed generation n) (hquiet' : x.IsUndisturbed generation (n + 1)) {i : Nat}
    {q q' : ConnectionCall} (hq : (x.state n).calls[i]? = some q)
    (hawaits : (x.state n).Awaits P first q) (hturn : (x.events n).advances? = some i)
    (hq' : (x.state (n + 1)).calls[i]? = some q') (hlive : q'.phase.isLive = true) :
    ∃ run, q'.phase = .waiting run ∧ (x.state (n + 1)).client.provider.slot = .pending run := by
  obtain ⟨q₁, hq₁, hstep⟩ := Deployment.calls_of_advances hq hturn
  cases hq₁.symm.trans hq'
  rw [show (x.state n).perform (x.events n) = x.state (n + 1) from rfl] at hstep
  rcases hstep with ⟨-, hdone⟩ | ⟨now, draw, hphase, hprovider⟩
  · rw [hdone] at hlive
    cases hlive
  rw [hphase] at hlive ⊢
  rw [hprovider]
  rcases hawaits with hawaits | ⟨-, hdone⟩
  · exact hawaits.pending_of_isLive h (x.coherent_state n) hquiet.provider
      (ne_forcing hquiet hquiet' hprovider) hlive
  · rw [hdone] at hlive
    cases hlive

/-- A call that waits for a run goes on waiting for it until it is over, and it is over with its
next step once the run has stopped. -/
theorem waiting_succ (h : (x.state n).client.provider.Yields P first) {i run : Nat}
    {q q' : ConnectionCall} (hq : (x.state n).calls[i]? = some q) (hphase : q.phase = .waiting run)
    (hawaits : (x.state n).Awaits P first q) (hq' : (x.state (n + 1)).calls[i]? = some q') :
    (q'.phase = .waiting run ∨ q'.phase.isLive = false)
      ∧ ((x.events n).advances? = some i →
        (x.state n).client.provider.phase? run ≠ some .working → q'.phase.isLive = false) := by
  obtain ⟨hle, r, hr, hrg⟩ : first ≤ run ∧ ∃ r,
      (x.state n).client.provider.runs[run]? = some r
      ∧ r.generation = (x.state n).client.provider.generation := by
    rcases hawaits with hawaits | ⟨-, hdone⟩
    · rw [hphase] at hawaits
      exact hawaits
    · cases hphase.symm.trans hdone
  have hstep : ∀ now draw, ((x.state n).client.provider.advanceCall q.phase now draw).1
      = .waiting run ∧ (x.state n).client.provider.phase? run = some .working
      ∨ ((x.state n).client.provider.advanceCall q.phase now draw).1.isLive = false := by
    intro now draw
    rw [hphase, Provider.advanceCall, Provider.poll, hr]
    dsimp only
    rcases h.phase run r hr hrg hle with hw | ⟨result, hended, -⟩
    · rw [hw]
      exact .inl ⟨rfl, by rw [Provider.phase?, hr, Option.map_some, hw]⟩
    · rw [hended]
      exact .inr rfl
  constructor
  · cases Deployment.goes_of_perform hq' with
    | begins q' hnone => cases hnone.symm.trans hq
    | stays q' hold | cancel q' hold =>
      cases hq.symm.trans hold
      exact .inl hphase
    | giveUp q' hold =>
      cases hq.symm.trans hold
      refine .inr ?_
      show q.phase.giveUp.isLive = false
      rw [hphase]
      rfl
    | heeds => exact .inr rfl
    | steps q' now draw hold =>
      cases hq.symm.trans hold
      exact (hstep now draw).imp_left And.left
  · intro hturn hstopped
    obtain ⟨q₁, hq₁, hnext⟩ := Deployment.calls_of_advances hq hturn
    cases hq₁.symm.trans hq'
    rcases hnext with ⟨-, hdone⟩ | ⟨now, draw, hnext, -⟩
    · rw [hdone]
      rfl
    · rw [hnext]
      exact (hstep now draw).resolve_left fun hworks => hstopped hworks.2

/-! ## From some instant on -/

/-- **From `m` on the generation yields such results**, as long as nobody interferes. -/
structure YieldsFrom (x : ClientRun) (P : Except Error Connection → Prop)
    (first generation m : Nat) : Prop where
  generation_eq : (x.state m).client.provider.generation = generation
  yields : ∀ n, m ≤ n → x.IsUndisturbed generation n →
    (x.state n).client.provider.Yields P first

namespace YieldsFrom

/-- **Whoever is to be given such a result, or comes later, is given one**, or heeds its own
token. -/
theorem awaits (h : x.YieldsFrom P first generation m) (hmn : m ≤ n)
    (hquiet : x.IsUndisturbed generation n) {i : Nat}
    (hbefore : ∀ q, (x.state m).calls[i]? = some q → (x.state m).Awaits P first q)
    {q : ConnectionCall} (hq : (x.state n).calls[i]? = some q) : (x.state n).Awaits P first q := by
  induction n, hmn using Nat.le_induction generalizing q with
  | base => exact hbefore q hq
  | succ n hmn ih =>
    have hquiet' := hquiet.of_succ (h.generation_eq ▸ x.generation_mono hmn)
    exact awaits_succ (h.yields n hmn hquiet') hquiet' hquiet (fun q₀ => ih hquiet') hq

/-- A call that waits for a run goes on waiting for it until it is over. -/
theorem waiting_of_le (h : x.YieldsFrom P first generation m) (hmn : m ≤ n) {k i run : Nat}
    {q q' : ConnectionCall} (hquiet : x.IsUndisturbed generation (n + k))
    (hbefore : ∀ q, (x.state m).calls[i]? = some q → (x.state m).Awaits P first q)
    (hq : (x.state n).calls[i]? = some q) (hphase : q.phase = .waiting run)
    (hq' : (x.state (n + k)).calls[i]? = some q') :
    q'.phase = .waiting run ∨ q'.phase.isLive = false := by
  induction k generalizing q' with
  | zero =>
    cases hq.symm.trans hq'
    exact .inl hphase
  | succ k ih =>
    have hmk : m ≤ n + k := Nat.le_add_right_of_le hmn
    have hquiet' := hquiet.of_succ (h.generation_eq ▸ x.generation_mono hmk)
    obtain ⟨q₁, hq₁⟩ := x.exists_call_of_le (Nat.le_add_right n k) hq
    rcases ih hquiet' hq₁ with hwaits | hover
    · exact (waiting_succ (h.yields _ hmk hquiet') hq₁ hwaits
        (h.awaits hmk hquiet' hbefore hq₁) hq').1
    · rw [Deployment.phase_of_isLive_eq_false hq₁ hover hq']
      exact .inr hover

/-- **A call is over** once it has taken a step, then the run under way has stopped, if there is
one, and then the call takes another step. -/
theorem isLive_of_stopped (h : x.YieldsFrom P first generation m) (hmn : m ≤ n) {k i : Nat}
    {q q' : ConnectionCall} (hquiet : x.IsUndisturbed generation (n + 1 + k + 1))
    (hbefore : ∀ q, (x.state m).calls[i]? = some q → (x.state m).Awaits P first q)
    (hq : (x.state n).calls[i]? = some q)
    (hfirst : (x.events n).advances? = some i)
    (hstopped : ∀ run, (x.state (n + 1)).client.provider.slot = .pending run →
      (x.state (n + 1 + k)).client.provider.phase? run ≠ some .working)
    (hlast : (x.events (n + 1 + k)).advances? = some i)
    (hq' : (x.state (n + 1 + k + 1)).calls[i]? = some q') : q'.phase.isLive = false := by
  have hquiets : ∀ j, m ≤ j → j ≤ n + 1 + k + 1 →
      x.IsUndisturbed generation j := fun j hmj hj =>
    hquiet.of_le hj (h.generation_eq ▸ x.generation_mono hmj)
  have hmn' : m ≤ n + 1 + k := by omega
  have hquiet₀ := hquiets n hmn (by omega)
  have hquiet₁ := hquiets (n + 1) (Nat.le_succ_of_le hmn) (by omega)
  have hquiet₂ := hquiets (n + 1 + k) hmn' (Nat.le_succ _)
  obtain ⟨q₁, hq₁⟩ := Deployment.exists_call hq (x.events n)
  obtain ⟨q₂, hq₂⟩ := x.exists_call_of_le (Nat.le_add_right (n + 1) k) hq₁
  cases hlive : q₁.phase.isLive with
  | false =>
    rw [x.phase_of_le (Nat.le_add_right (n + 1) (k + 1)) hq₁ hlive hq']
    exact hlive
  | true =>
    obtain ⟨run, hwaits, hslot⟩ :=
      pending_of_advances (h.yields n hmn hquiet₀) hquiet₀ hquiet₁ hq
        (h.awaits hmn hquiet₀ hbefore hq) hfirst hq₁ hlive
    rcases h.waiting_of_le (Nat.le_succ_of_le hmn) hquiet₂ hbefore hq₁ hwaits hq₂
      with hwaits | hover
    · exact (waiting_succ (h.yields _ hmn' hquiet₂) hq₂ hwaits
        (h.awaits hmn' hquiet₂ hbefore hq₂) hq').2 hlast (hstopped run hslot)
    · rw [Deployment.phase_of_isLive_eq_false hq₂ hover hq']
      exact hover

end YieldsFrom

end ClientRun

end ClusterLink
