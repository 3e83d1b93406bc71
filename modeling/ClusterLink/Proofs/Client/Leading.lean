import ClusterLink.Proofs.Client.Following

/-!
# Generations that name a leader

A generation that names a leader goes to the leader from its first instant on, and goes on doing so
whatever happens, as long as nobody interferes (`ClientRun.IsLed.attempt`). Whoever comes in the
meantime is given a connection to the leader, or heeds its own token, and has to wait for no more
than four turns of a run (`ClientRun.leadsOn`).
-/

namespace ClusterLink

namespace ClientRun

variable {x : ClientRun} {leader : EndPoint} {generation m n : Nat}

/-! ## The generation -/

/-- **The generation names the leader**, and nobody interferes. -/
structure IsLed (x : ClientRun) (leader : EndPoint) (generation n : Nat) : Prop extends
    x.IsUndisturbed generation n where
  trigger_eq : (x.state n).client.provider.trigger = .newLeader leader

/-- **The leader is named as long as the generation lasts.** -/
theorem trigger_eq_of_generation_eq (hmn : m ≤ n)
    (hg : (x.state n).client.provider.generation = (x.state m).client.provider.generation) :
    (x.state n).client.provider.trigger = (x.state m).client.provider.trigger := by
  induction n, hmn using Nat.le_induction with
  | base => rfl
  | succ n hmn ih =>
    have hle := x.generation_mono hmn
    have hle' := (x.change_provider n).generation_le
    have hgen : (x.state (n + 1)).client.provider.generation
        = (x.state n).client.provider.generation := by
      omega
    exact ((x.change_provider n).trigger_eq hgen).trans (ih (hgen.symm.trans hg))

theorem IsLed.of_isUndisturbed (h : x.IsLed leader generation m)
    (hquiet : x.IsUndisturbed generation n) : x.IsLed leader generation n := by
  have hgen := hquiet.generation_eq.trans h.generation_eq.symm
  refine ⟨hquiet, ?_⟩
  rcases Nat.le_total m n with hmn | hnm
  · exact (trigger_eq_of_generation_eq hmn hgen).trans h.trigger_eq
  · exact (trigger_eq_of_generation_eq hnm hgen.symm).symm.trans h.trigger_eq

/-- **What holds of the runs of the generation** holds of an attempt that has not begun, and is kept
by its steps and by the answer about the capabilities. -/
theorem IsLed.attempt_induction {A : ConnectPhase → Prop} (h : x.IsLed leader generation n)
    (hnew : A .waiting)
    (hstep : ∀ k shuffle phase phase' s', x.IsUndisturbed generation k →
      ConnectPhase.Moves (Client.settingsOf x.config) (.newLeader leader) false shuffle
        (x.state k).client.site phase phase' s' →
      phase.Fits (Client.settingsOf x.config) → A phase → A phase')
    (hanswer : ∀ phase answer, A phase → A (phase.takeIn answer)) {run : Nat} {r : Run}
    (hr : (x.state n).client.provider.runs[run]? = some r) (hg : r.generation = generation) :
    A ((x.state n).client.attempt run) := by
  induction n generalizing r with
  | zero => cases x.getElem?_runs_zero run ▸ hr
  | succ n ih =>
    rcases (x.change_provider n).run_cases hr with ⟨r₀, hr₀, hsame, -⟩ | hstarts
    · have hrg : r₀.generation = generation := hsame.trans hg
      have hquiet :=
        h.toIsUndisturbed.of_succ (hrg ▸ (x.coherent_state n).generation_le run r₀ hr₀)
      have hled := h.of_isUndisturbed hquiet
      have hA := ih hled hr₀ hrg
      have hfits := x.fits_state n run
      rw [x.settings_state] at hfits
      have hattempted := x.attempted n run
      generalize (x.state (n + 1)).client.attempt run = phase at hattempted ⊢
      cases hattempted with
      | stays => exact hA
      | steps r' shuffle now draw phase hevent hr' hmoves =>
        cases hr₀.symm.trans hr'
        have htrigger : r₀.trigger = .newLeader leader :=
          ((x.coherent_state n).trigger_eq run r₀ hr₀
            (hrg.trans hquiet.generation_eq.symm)).trans hled.trigger_eq
        rw [htrigger, isRunCancelled_eq_false hquiet hr₀ hrg, x.settings_state] at hmoves
        exact hstep n shuffle _ phase _ hquiet hmoves hfits hA
      | answers answer => exact hanswer _ answer hA
    · rw [attempt_of_starts (Nat.le_of_eq hstarts.run_eq.symm)]
      exact hnew

/-! ## The turns of the run -/

/-- **A run takes its turn**: it takes a step, or it is answered if it waits for an answer. -/
def TakesTurn (x : ClientRun) (run n : Nat) : Prop :=
  match x.events n with
  | .stepRun k .. => k = run ∧ ((x.state n).client.attempt run).isNegotiating = false
  | .answerRun k .. => k = run ∧ ((x.state n).client.attempt run).isNegotiating = true
  | _ => False

instance (x : ClientRun) (run : Nat) : DecidablePred (x.TakesTurn run) := fun n => by
  unfold TakesTurn
  split <;> infer_instance

/-- A run of the generation comes nearer to its end with every turn, and nothing takes it away from
there. -/
theorem turnsLeft_succ (h : x.IsLed leader generation n) {run : Nat} {r : Run}
    (hr : (x.state n).client.provider.runs[run]? = some r)
    (hg : r.generation = generation) (hw : r.phase = .working)
    (hdirect : ((x.state n).client.attempt run).IsDirect) :
    ((x.state (n + 1)).client.attempt run).turnsLeft ≤ ((x.state n).client.attempt run).turnsLeft
      ∧ (x.TakesTurn run n → ((x.state (n + 1)).client.attempt run).turnsLeft
        < ((x.state n).client.attempt run).turnsLeft) := by
  have hrg := hg.trans h.generation_eq.symm
  have hattempted := x.attempted n run
  unfold TakesTurn
  generalize (x.state (n + 1)).client.attempt run = phase' at hattempted ⊢
  cases hattempted with
  | stays hother hanswer =>
    refine ⟨Nat.le_refl _, fun hturn => ?_⟩
    generalize x.events n = event at hother hanswer hturn
    cases event with
    | stepRun k shuffle now draw =>
      exact absurd hturn.1 (hother k shuffle now draw rfl (by rw [hturn.1, hr]; nofun))
    | answerRun k answer now draw => exact absurd hturn.1 (hanswer k answer now draw rfl)
    | _ => exact hturn.elim
  | steps r' shuffle now draw phase' hevent hr' hmoves =>
    cases hr.symm.trans hr'
    have htrigger : r.trigger = .newLeader leader :=
      ((x.coherent_state n).trigger_eq run r hr hrg).trans h.trigger_eq
    rw [htrigger, isRunCancelled_eq_false h.toIsUndisturbed hr hg] at hmoves
    obtain ⟨hle, hlt⟩ := hmoves.turnsLeft hdirect ((x.runsFit_state n).working run r hr hw)
    refine ⟨hle, fun hturn => ?_⟩
    rw [hevent] at hturn
    exact hlt hturn.2
  | answers answer now draw hevent =>
    obtain ⟨hle, hlt⟩ := ConnectPhase.turnsLeft_takeIn _ answer
    refine ⟨hle, fun hturn => ?_⟩
    rw [hevent] at hturn
    exact hlt hturn.2

/-- **A run of the generation has stopped after four turns.** -/
theorem IsLed.ne_working_of_count (h : x.IsLed leader generation n)
    (hdirect : ∀ (k run : Nat) (r : Run), x.IsUndisturbed generation k →
      (x.state k).client.provider.runs[run]? = some r → r.generation = generation →
      ((x.state k).client.attempt run).IsDirect) {k : Nat}
    (hquiet : x.IsUndisturbed generation (n + k)) {run : Nat}
    (hslot : (x.state n).client.provider.slot = .pending run)
    (hturns : 4 ≤ Nat.count (fun j => x.TakesTurn run (n + j)) k) :
    (x.state (n + k)).client.provider.phase? run ≠ some .working := by
  have hled : ∀ j, j ≤ k → x.IsLed leader generation (n + j) := fun j hj =>
    h.of_isUndisturbed (hquiet.of_le (Nat.add_le_add_left hj n)
      (h.generation_eq ▸ x.generation_mono (Nat.le_add_right n j)))
  obtain ⟨r, hr, hrg, -⟩ := (x.coherent_state n).isOpen_of_pending run hslot
  have hruns : ∀ j, ∃ s, (x.state (n + j)).client.provider.runs[run]? = some s
      ∧ s.generation = generation := by
    intro j
    obtain ⟨s, hs, hsg⟩ := exists_run_of_le (Nat.le_add_right n j) hr
    exact ⟨s, hs, hsg.trans (hrg.trans h.generation_eq)⟩
  refine stops_of_count ConnectPhase.turnsLeft (List.getElem?_eq_some_iff.1 hr).1
    (fun j hj s hs hw => ?_) ((ConnectPhase.turnsLeft_le_four _).trans hturns) fun hzero => ?_
  · obtain ⟨s', hs', hsg⟩ := hruns j
    cases hs.symm.trans hs'
    have hled' := hled j (Nat.le_of_lt hj)
    exact turnsLeft_succ hled' hs hsg hw (hdirect _ run s hled'.toIsUndisturbed hs hsg)
  · obtain ⟨s, hs, hsg⟩ := hruns k
    exact (hdirect _ run s hquiet hs hsg).isOver_of_turnsLeft hzero

/-! ## Calls -/

/-- **Every call is answered with such a result** that comes at `m` or later, as long as nobody
interferes with the generation. -/
structure Answers (x : ClientRun) (P : Except Error Connection → Prop) (generation m : Nat) :
    Prop where
  /-- The runs of the generation come to nothing else, and nothing else is shown. -/
  runs : ∀ n, m ≤ n → x.IsUndisturbed generation n → (x.state n).client.provider.Yields P 0
  /-- Whoever comes later is given such a result, or heeds its own token. -/
  calls : ∀ (n i : Nat) (q : ConnectionCall), m ≤ n → x.IsUndisturbed generation n →
    (x.state m).calls[i]? = none → (x.state n).calls[i]? = some q → (x.state n).Awaits P 0 q
  /-- Its call is over once it has taken a step, then the run has taken four turns, if there is one,
  and then the call takes another step. -/
  returns : ∀ (n k i : Nat) (q q' : ConnectionCall), m ≤ n →
    x.IsUndisturbed generation (n + 1 + k + 1) →
    (x.state m).calls[i]? = none → (x.state n).calls[i]? = some q →
    (x.events n).advances? = some i →
    (∀ run, (x.state (n + 1)).client.provider.slot = .pending run →
      4 ≤ Nat.count (fun j => x.TakesTurn run (n + 1 + j)) k) →
    (x.events (n + 1 + k)).advances? = some i →
    (x.state (n + 1 + k + 1)).calls[i]? = some q' → q'.phase.isLive = false

/-- **Calls are answered with what the runs of the generation come to.** -/
theorem answers_of_attempt {A : ConnectPhase → Prop} {P : Except Error Connection → Prop}
    (hg : (x.state m).client.provider.generation = generation)
    (ht : (x.state m).client.provider.trigger = .newLeader leader)
    (hattempt : ∀ (k run : Nat) (r : Run), x.IsLed leader generation k →
      (x.state k).client.provider.runs[run]? = some r → r.generation = generation →
      A ((x.state k).client.attempt run))
    (hdirect : ∀ phase, A phase → phase.IsDirect)
    (hresult : ∀ (r : Run) (result : Except Error Link), r.generation = generation →
      r.trigger = .newLeader leader → A (.ended result) → P (r.outcome result)) :
    x.Answers P generation m := by
  have hled : ∀ n, m ≤ n → x.IsUndisturbed generation n → x.IsLed leader generation m :=
    fun n hmn hquiet => ⟨hquiet.of_le hmn (Nat.le_of_eq hg.symm), ht⟩
  have hcomes : ∀ n, x.IsLed leader generation n → (x.state n).ComesTo P := by
    intro n h run r hr hrg
    have hrg' := hrg.trans h.generation_eq
    have hA := hattempt n run r h hr hrg'
    cases hphase : (x.state n).client.attempt run with
    | ended result =>
      rw [hphase] at hA
      exact hresult r result hrg'
        (((x.coherent_state n).trigger_eq run r hr hrg).trans h.trigger_eq) hA
    | brokenDown =>
      rw [hphase] at hA
      exact (hdirect _ hA).elim
    | _ => trivial
  have hyields : ∀ n, m ≤ n → x.IsUndisturbed generation n →
      x.YieldsFrom P 0 generation m :=
    fun n hmn hquiet => ⟨hg, fun k _ hquiet' => yields_of_comesTo hquiet' fun j hj =>
      hcomes j ((hled n hmn hquiet).of_isUndisturbed hj)⟩
  constructor
  case runs => exact fun n hmn hquiet => (hyields n hmn hquiet).yields n hmn hquiet
  case calls =>
    intro n i q hmn hquiet hlater hq
    exact (hyields n hmn hquiet).awaits hmn hquiet
      (fun _ hq₀ => nomatch hlater.symm.trans hq₀) hq
  case returns =>
    intro n k i q q' hmn hquiet hlater hq hfirst hturns hlast hq'
    have hmn' : m ≤ n + 1 + k + 1 := by omega
    have hm := hled _ hmn' hquiet
    have hbefore : ∀ j, m ≤ j → j ≤ n + 1 + k + 1 →
        x.IsUndisturbed generation j := fun j hmj hj =>
      hquiet.of_le hj (hg ▸ x.generation_mono hmj)
    refine (hyields _ hmn' hquiet).isLive_of_stopped hmn hquiet
      (fun _ hq₀ => nomatch hlater.symm.trans hq₀) hq hfirst (fun run hslot => ?_) hlast hq'
    have hled₁ := hm.of_isUndisturbed (hbefore (n + 1) (by omega) (by omega))
    refine hled₁.ne_working_of_count (fun j run r hj hr hrg => ?_)
      (hbefore (n + 1 + k) (by omega) (by omega)) hslot (hturns run hslot)
    exact hdirect _ (hattempt j run r (hm.of_isUndisturbed hj) hr hrg)

/-! ## Leaders that can be reached -/

/-- **A connection of the given generation that leads to the leader.** -/
def LeadsTo (leader : EndPoint) (generation : Nat) : Except Error Connection → Prop
  | .ok c => c.generation = generation ∧ c.trigger = .newLeader leader
      ∧ c.endpoint.same leader = true
  | .error _ => False

/-- **What a generation does that leads on to its leader**, from `m` on and as long as nobody
interferes: every call is given a connection to the leader. -/
structure LeadsOn (x : ClientRun) (leader : EndPoint) (generation m : Nat) : Prop
    extends x.Answers (LeadsTo leader generation) generation m where
  /-- A step of its runs asks nobody for the members, and changes the cache at most by the
  leader. -/
  site : ∀ (n run : Nat) (r : Run) (shuffle : List Member → List Member) (now : Instant)
    (draw : Float), m ≤ n → x.IsUndisturbed generation n →
    (x.state n).client.provider.runs[run]? = some r → r.generation = generation →
    x.events n = .stepRun run shuffle now draw →
    (x.state (n + 1)).client.site.resolver = (x.state n).client.site.resolver
      ∧ ((x.state (n + 1)).client.site.cache.entries = (x.state n).client.site.cache.entries
        ∨ (x.state n).client.site.cache.find? leader = none ∧ ∃ handle,
          handle.endpoint = leader
          ∧ (x.state (n + 1)).client.site.cache.entries
            = (x.state n).client.site.cache.entries ++ [(leader, handle)])

/-- **Every run of the generation follows the leader**, if a channel can be made for it and the
question about its capabilities can be asked. -/
theorem IsLed.followsTo (h : x.IsLed leader generation n)
    (hfactory : ∀ request, x.factory.refusal? request leader = none)
    (hn : (Client.settingsOf x.config).CanNegotiate) {run : Nat} {r : Run}
    (hr : (x.state n).client.provider.runs[run]? = some r) (hg : r.generation = generation) :
    ((x.state n).client.attempt run).FollowsTo leader :=
  h.attempt_induction trivial
    (fun k _ _ _ _ hquiet hmoves hfits hfollows => hmoves.followsTo hfollows hfits hn hquiet.cache
      (x.genuine_state k) (x.factory_state k ▸ hfactory))
    (fun _ answer hfollows => hfollows.takeIn answer) hr hg

/-- **A generation that names a leader leads on to it**, if a channel can be made for the leader and
the question about its capabilities can be asked. -/
theorem leadsOn (hg : (x.state m).client.provider.generation = generation)
    (ht : (x.state m).client.provider.trigger = .newLeader leader)
    (hfactory : ∀ request, x.factory.refusal? request leader = none)
    (hn : (Client.settingsOf x.config).CanNegotiate) : x.LeadsOn leader generation m where
  toAnswers := by
    refine answers_of_attempt hg ht (fun _ _ _ h hr hrg => h.followsTo hfactory hn hr hrg)
      (fun _ h => h.isDirect) fun r result hrg htrigger hfollows => ?_
    cases result with
    | error error => exact hfollows.elim
    | ok link => exact ⟨hrg, htrigger, hfollows⟩
  site := by
    intro n run r shuffle now draw hmn hquiet hr hrg hstep
    have hled : x.IsLed leader generation n :=
      IsLed.of_isUndisturbed ⟨hquiet.of_le hmn (Nat.le_of_eq hg.symm), ht⟩ hquiet
    have hattempted := x.attempted n run
    generalize (x.state (n + 1)).client.attempt run = phase at hattempted
    cases hattempted with
    | stays hother => exact absurd rfl (hother run shuffle now draw hstep (by rw [hr]; nofun))
    | steps r' shuffle' now' draw' phase hstep' hr' hmoves =>
      cases hr.symm.trans hr'
      have htrigger := ((x.coherent_state n).trigger_eq run r hr
        (hrg.trans hquiet.generation_eq.symm)).trans hled.trigger_eq
      rw [htrigger] at hmoves
      exact hmoves.site_cases (hled.followsTo hfactory hn hr hrg)
    | answers answer now' draw' hanswer => cases hstep.symm.trans hanswer

end ClientRun

end ClusterLink
