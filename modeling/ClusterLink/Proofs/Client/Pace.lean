import ClusterLink.Proofs.Client.Leading
import ClusterLink.Proofs.Client.Waiting
import Mathlib.Data.Prod.Lex

/-!
# Clients that keep going

A client keeps going (`ClientRun.KeepsGoing`) if whatever can take a turn takes one sooner or later:
a call that is not over, a run that works, and a resolution, whose questions are answered or time
out and whose delays pass. Then nothing goes on for ever. A resolution comes nearer to its end with
every turn (`ResolutionPhase.Turn.rank_lt`), and so does a run (`ConnectPhase.Moves.rank_lt`), apart
from the time that it waits for a resolution. So every resolution is over at last
(`KeepsGoing.isOver`), every run stops (`KeepsGoing.ne_working`), and every call returns
(`KeepsGoing.isLive_eq_false`).
-/

namespace ClusterLink

/-- **What only sinks comes to rest.** -/
theorem exists_rest {α β : Type} [Preorder α] [WellFoundedLT α] (rank : β → α)
    (value : Nat → β) {m : Nat} (hsinks : ∀ n, m ≤ n →
      value (n + 1) = value n ∨ rank (value (n + 1)) < rank (value n)) :
    ∃ n, m ≤ n ∧ ∀ k, n ≤ k → value k = value n := by
  obtain ⟨_, ⟨n, hmn, rfl⟩, hmin⟩ := (wellFounded_lt (α := α)).has_min
    {a | ∃ n, m ≤ n ∧ rank (value n) = a} ⟨_, m, Nat.le_refl m, rfl⟩
  refine ⟨n, hmn, fun k hnk => ?_⟩
  induction k, hnk using Nat.le_induction with
  | base => rfl
  | succ k hnk ih =>
    rcases hsinks k (hmn.trans hnk) with hsame | hlt
    · exact hsame.trans ih
    · exact absurd (ih ▸ hlt) (hmin _ ⟨k + 1, (hmn.trans hnk).trans (Nat.le_succ k), rfl⟩)

/-! ## Resolutions -/

namespace ResolutionPhase

/-- The delay runs before an attempt that may be made. -/
def HasAttemptLeft (maxAttempts : Nat) : ResolutionPhase → Prop
  | .pausing attempt _ => attempt < maxAttempts
  | _ => True

/-- **How far a resolution is from its end**: the attempts that are left to it, and the turns of the
attempt that is under way. -/
def rank (maxAttempts : Nat) : ResolutionPhase → Nat ×ₗ Nat
  | .waiting => toLex (2 * maxAttempts + 2, 0)
  | .ready attempt left _ => toLex (2 * (maxAttempts - attempt) + 1, 2 * left.length + 1)
  | .asking attempt _ left _ => toLex (2 * (maxAttempts - attempt) + 1, 2 * left.length + 2)
  | .pausing attempt _ => toLex (2 * (maxAttempts - attempt), 0)
  | .brokenDown | .ended _ => toLex (0, 0)

variable {seeds : List EndPoint} {maxAttempts : Nat} {isCancelled : Bool} {cause : TurnCause}
  {cache cache' : Cache} {phase phase' : ResolutionPhase}

theorem Turn.hasAttemptLeft
    (h : Turn seeds maxAttempts isCancelled cause cache phase phase' cache') :
    phase'.HasAttemptLeft maxAttempts := by
  cases h with
  | reseeds attempt failures delay cache' hlt => exact hlt
  | _ => trivial

/-- **Every turn brings a resolution nearer to its end.** -/
theorem Turn.rank_lt (h : Turn seeds maxAttempts isCancelled cause cache phase phase' cache')
    (hleft : phase.HasAttemptLeft maxAttempts) :
    phase'.rank maxAttempts < phase.rank maxAttempts := by
  have hover : ∀ {phase : ResolutionPhase}, phase.isOver = false →
      phase.HasAttemptLeft maxAttempts → toLex (0, 0) < phase.rank maxAttempts := by
    intro phase hopen hleft
    cases phase with
    | brokenDown | ended => cases hopen
    | pausing attempt delay =>
      have hlt : attempt < maxAttempts := hleft
      exact Prod.Lex.toLex_lt_toLex.2 (.inl (show 0 < 2 * (maxAttempts - attempt) by omega))
    | _ => exact Prod.Lex.toLex_lt_toLex.2 (.inl (Nat.succ_pos _))
  have hopen := h.isOver_eq
  cases h with
  | begins arrange hd =>
    exact Prod.Lex.toLex_lt_toLex.2
      (.inl (show 2 * (maxAttempts - 1) + 1 < 2 * maxAttempts + 2 by omega))
  | resumes attempt delay arrange hc hd =>
    have hlt : attempt < maxAttempts := hleft
    exact Prod.Lex.toLex_lt_toLex.2 (.inl
      (show 2 * (maxAttempts - (attempt + 1)) + 1 < 2 * (maxAttempts - attempt) by omega))
  | asks attempt contact left failures hc =>
    refine Prod.Lex.toLex_lt_toLex.2 (.inr ⟨rfl, ?_⟩)
    show 2 * left.length + 2 < 2 * (contact :: left).length + 1
    rw [List.length_cons]
    omega
  | misses attempt asked left failures outcome hc hcause hmisses =>
    exact Prod.Lex.toLex_lt_toLex.2 (.inr ⟨rfl, Nat.lt_succ_self _⟩)
  | reseeds attempt failures delay cache' hlt hcache =>
    exact Prod.Lex.toLex_lt_toLex.2 (.inl (Nat.lt_succ_self _))
  | shutOut | heeds | finds | refusesMembers | exhausts | refusesSeeds | breaks =>
    exact hover hopen hleft

end ResolutionPhase

/-! ## Attempts to connect -/

namespace ConnectPhase

/-- **How far an attempt to connect is from its end.** -/
def rank : ConnectPhase → Nat
  | .waiting => 9
  | .resolving .fresh => 8
  | .resolving .admitted => 7
  | .resolving .joining => 6
  | .resolving (.waiting _) => 5
  | .resolving (.leaving ..) => 4
  | .chosen _ => 3
  | .linked .. => 2
  | .negotiating _ => 1
  | _ => 0

/-- The resolution that the attempt waits for. -/
def awaits? : ConnectPhase → Option Nat
  | .resolving (.waiting id) => some id
  | _ => none

theorem rank_ofResolution_le (selector : NodeSelector) (shuffle : List Member → List Member)
    (result : Except Error Resolution) : (ofResolution selector shuffle result).rank ≤ 3 := by
  rcases ofResolution_cases selector shuffle result with ⟨error, h⟩ | ⟨node, h⟩
  · rw [h]
    exact Nat.zero_le 3
  · rw [h]
    exact Nat.le_refl 3

variable {settings : ConnectSettings} {trigger : Trigger} {isCancelled : Bool}
  {shuffle : List Member → List Member} {s s' : Site} {phase phase' : ConnectPhase}

/-- **Every step brings an attempt nearer to its end**, unless it is over, waits for an answer, or
waits for a resolution that is not over. -/
theorem Moves.rank_lt (h : Moves settings trigger isCancelled shuffle s phase phase' s')
    (hproper : phase.IsProper) :
    phase'.rank < phase.rank ∨ phase' = phase
      ∧ (phase.isOver = true ∨ phase.isNegotiating = true
        ∨ ∃ id r, phase.awaits? = some id ∧ s.resolver = some r ∧ r.result? id = none) := by
  cases h with
  | stays phase hstays =>
    refine .inr ⟨rfl, ?_⟩
    rcases hstays with hover | ⟨call, r, rfl, hr, hnone⟩ | ⟨-, handle, rfl⟩
    · exact .inl hover
    · cases call with
      | waiting id =>
        refine .inr (.inr ⟨id, r, rfl, hr, ?_⟩)
        rw [Resolver.advanceCall] at hnone
        split at hnone
        · cases hnone
        · exact Option.map_eq_none_iff.1 hnone
      | fresh | admitted =>
        rw [Resolver.advanceCall] at hnone
        split at hnone <;> cases hnone
      | joining | leaving => cases hnone
      | done | gone => exact hproper.elim
    · exact .inr (.inl rfl)
  | follows | visits => exact .inl (show 3 < 9 by decide)
  | resolves => exact .inl (Nat.lt_succ_self 8)
  | calls call call' r r' hr hcall hproper' =>
    cases Resolver.callStep_of_advanceCall hcall with
    | refused | disposed | left => exact hproper'.elim
    | entered | passed | joined | gaveUp | heard => exact .inl (Nat.lt_succ_self _)
  | hears call result r r' hr hcall =>
    have hle := rank_ofResolution_le settings.selector shuffle result
    refine .inl (Nat.lt_of_le_of_lt hle ?_)
    cases Resolver.callStep_of_advanceCall hcall with
    | refused => exact (show 3 < 8 by decide)
    | disposed => exact (show 3 < 7 by decide)
    | left => exact Nat.lt_succ_self 3
  | lost call hr =>
    cases call with
    | done | gone => exact hproper.elim
    | _ => exact .inl (Nat.succ_pos _)
  | links | prepares | refused | breaks | queries => exact .inl (by simp [rank])
  | heeds phase hc hphase =>
    rcases hphase with ⟨handle, timeout, rfl⟩ | ⟨handle, rfl⟩
      <;> exact .inl (Nat.succ_pos _)

/-- The answer about the capabilities ends an attempt that waits for it. -/
theorem rank_takeIn (phase : ConnectPhase) (answer : Option (Except Status MethodTable)) :
    (phase.takeIn answer).rank < phase.rank
      ∨ phase.takeIn answer = phase ∧ phase.isNegotiating = false := by
  cases phase with
  | negotiating handle => exact .inl Nat.zero_lt_one
  | _ => exact .inr ⟨rfl, rfl⟩

end ConnectPhase

/-! ## Turns -/

namespace Deployment

/-- How far a resolution has come. -/
def resolution? (d : Deployment) (id : Nat) : Option ResolutionPhase :=
  d.client.site.resolver.bind (·.phase? id)

end Deployment

namespace ClientRun

variable {x : ClientRun} {m n : Nat}

/-- **A resolution takes its turn**: it takes a step that is due, or what came of its question is
taken in. -/
def MovesOn (x : ClientRun) (id n : Nat) (phase : ResolutionPhase) : Prop :=
  match x.events n with
  | .discover (.step k resumed ..) _ => k = id ∧ phase.isDue resumed = true
  | .discover (.answer k ..) _ => k = id ∧ phase.isAsking = true
  | _ => False

/-- **The client keeps going** from `m` on: whatever can take a turn takes one sooner or later. -/
structure KeepsGoing (x : ClientRun) (m : Nat) : Prop where
  calls : ∀ n i, m ≤ n → ∃ k, n ≤ k ∧ ∀ q, (x.state k).calls[i]? = some q →
    q.phase.isLive = true → (x.events k).advances? = some i
  runs : ∀ n run, m ≤ n → ∃ k, n ≤ k
    ∧ ((x.state k).client.provider.phase? run = some .working → x.TakesTurn run k)
  resolutions : ∀ n id, m ≤ n → ∃ k, n ≤ k ∧ ∀ phase,
    (x.state k).resolution? id = some phase → phase.isOver = false → x.MovesOn id k phase

/-- The next delay of a resolution runs before an attempt that may be made. -/
theorem hasAttemptLeft_state {id : Nat} {phase : ResolutionPhase}
    (h : (x.state n).resolution? id = some phase) :
    phase.HasAttemptLeft x.config.resolver.maxAttempts := by
  induction n generalizing phase with
  | zero =>
    obtain ⟨r, hr, hphase⟩ := Option.bind_eq_some_iff.1 h
    obtain ⟨seeds, -, -, rfl⟩ := x.resolver_client hr
    have hnone : (Resolver.startRefresh
        { seeds := seeds, settings := x.config.resolver }).2.phase? id = none := by
      unfold Resolver.startRefresh
      split <;> rfl
    cases hnone.symm.trans hphase
  | succ n ih =>
    obtain ⟨r', hr', hphase⟩ := Option.bind_eq_some_iff.1 h
    obtain ⟨r, hr⟩ := x.exists_resolver_of_succ hr'
    rcases (x.change_site n).phase_cases hr hr' hphase with hsame | ⟨-, rfl⟩
      | ⟨event, before, -, -, -, -, hturn⟩
    · exact ih (Option.bind_eq_some_iff.2 ⟨r, hr, hsame⟩)
    · trivial
    · rw [(x.seeds_and_settings_state hr).2.2] at hturn
      exact hturn.hasAttemptLeft

/-- What an event makes of the phase of a resolution, if it makes anything of it, brings the
resolution nearer to its end. -/
theorem resolution_succ (n id : Nat) : (x.state (n + 1)).resolution? id = (x.state n).resolution? id
    ∨ (x.state n).resolution? id = none ∧ (x.state (n + 1)).resolution? id = some .waiting
    ∨ ∃ phase phase', (x.state n).resolution? id = some phase
      ∧ (x.state (n + 1)).resolution? id = some phase'
      ∧ phase'.rank x.config.resolver.maxAttempts < phase.rank x.config.resolver.maxAttempts := by
  cases hr' : (x.state (n + 1)).client.site.resolver with
  | none =>
    have hr := (x.change_site n).isSome_resolver
    rw [hr', Option.isSome_none, eq_comm, Option.isSome_eq_false_iff, Option.isNone_iff_eq_none]
      at hr
    exact .inl (by rw [Deployment.resolution?, Deployment.resolution?, hr, hr'])
  | some r' =>
    obtain ⟨r, hr⟩ := x.exists_resolver_of_succ hr'
    have hresolution : ∀ k, (x.state n).resolution? k = r.phase? k := fun k => by
      rw [Deployment.resolution?, hr, Option.bind_some]
    have hresolution' : ∀ k, (x.state (n + 1)).resolution? k = r'.phase? k := fun k => by
      rw [Deployment.resolution?, hr', Option.bind_some]
    rw [hresolution, hresolution']
    cases hphase' : r'.phase? id with
    | none =>
      refine .inl ?_
      cases hphase : r.phase? id with
      | none => rfl
      | some phase =>
        obtain ⟨t, ht, -⟩ := Option.map_eq_some_iff.1 hphase
        obtain ⟨t', ht', -⟩ := ((x.change_site n).grows hr hr').old id t ht
        rw [Resolver.phase?, ht'] at hphase'
        cases hphase'
    | some phase' =>
      rcases (x.change_site n).phase_cases hr hr' hphase' with hsame | ⟨hnone, rfl⟩
        | ⟨event, phase, -, -, -, hphase, hturn⟩
      · exact .inl hsame.symm
      · exact .inr (.inl ⟨hnone, rfl⟩)
      · rw [(x.seeds_and_settings_state hr).2.2] at hturn
        exact .inr (.inr ⟨phase, phase', hphase, rfl,
          hturn.rank_lt (hasAttemptLeft_state (x := x) ((hresolution id).trans hphase))⟩)

/-- **A resolution that takes its turn has come further.** -/
theorem resolution_of_movesOn {id : Nat} {phase : ResolutionPhase}
    (hphase : (x.state n).resolution? id = some phase) (hturn : x.MovesOn id n phase) :
    (x.state (n + 1)).resolution? id ≠ (x.state n).resolution? id := by
  obtain ⟨r, hr, hrphase⟩ := Option.bind_eq_some_iff.1 hphase
  have hworks : ∀ {cause : TurnCause} {idle : Prop} {r' : Resolver} {cache' : Cache},
      r.Work (x.state n).client.site.cache id cause idle r' cache' → ¬idle →
      (x.state (n + 1)).client.site.resolver = some r' →
      (x.state (n + 1)).resolution? id ≠ (x.state n).resolution? id := by
    intro cause idle r' cache' hwork hidle hr'
    cases hwork with
    | rest h => exact absurd h hidle
    | turn before phase' _ _ hbefore hturn hrecords =>
      cases hrphase.symm.trans hbefore
      rw [(x.seeds_and_settings_state hr).2.2] at hturn
      have hlt := hturn.rank_lt (hasAttemptLeft_state hphase)
      intro hsame
      rw [hphase, Deployment.resolution?, hr', Option.bind_some, hrecords.phase?_eq] at hsame
      cases hsame
      exact lt_irrefl _ hlt
  have hstate : ∀ event h, x.events n = .discover event h →
      (x.state (n + 1)).client.site.resolver = some (Discovery.perform
        ⟨r, (x.state n).client.site.cache, (x.state n).requests⟩ event).resolver := by
    intro event h hevent
    show ((x.state n).perform (x.events n)).client.site.resolver = _
    rw [hevent]
    show ((x.state n).performDiscovery event).client.site.resolver = _
    rw [Deployment.performDiscovery_eq hr]
  unfold MovesOn at hturn
  split at hturn
  · rename_i k resumed arrange now draw h hevent
    obtain ⟨rfl, hdue⟩ := hturn
    refine hworks (r.work_step (x.state n).client.site.cache k resumed arrange now draw) ?_
      (hstate _ h hevent)
    rintro ⟨-, hidle⟩
    cases (hidle phase hrphase).symm.trans hdue
  · rename_i k outcome now h hevent
    obtain ⟨rfl, hasking⟩ := hturn
    refine hworks (r.work_takeIn (x.state n).client.site.cache k outcome now) (fun hidle => ?_)
      (hstate _ h hevent)
    cases (hidle phase hrphase).symm.trans hasking
  · exact hturn.elim

/-- What an event makes of an attempt to connect, if it makes anything of it, brings the attempt
nearer to its end. -/
theorem attempt_succ (n run : Nat) :
    (x.state (n + 1)).client.attempt run = (x.state n).client.attempt run
      ∨ ((x.state (n + 1)).client.attempt run).rank < ((x.state n).client.attempt run).rank := by
  have hproper := (x.runsFit_state n).proper run
  have hattempted := x.attempted n run
  generalize (x.state (n + 1)).client.attempt run = phase' at hattempted ⊢
  cases hattempted with
  | stays => exact .inl rfl
  | steps r shuffle now draw phase' hevent hr hmoves =>
    exact (hmoves.rank_lt hproper).symm.imp_left And.left
  | answers answer => exact (ConnectPhase.rank_takeIn _ answer).symm.imp_left And.left

/-- **A run that takes its turn has come further**, unless it waits for a resolution that is not
over. -/
theorem attempt_of_takesTurn {run : Nat}
    (hw : (x.state n).client.provider.phase? run = some .working) (hturn : x.TakesTurn run n)
    (hover : ∀ id r, ((x.state n).client.attempt run).awaits? = some id →
      (x.state n).client.site.resolver = some r → r.result? id ≠ none) :
    (x.state (n + 1)).client.attempt run ≠ (x.state n).client.attempt run := by
  obtain ⟨r, hr, hrw⟩ := Option.map_eq_some_iff.1 hw
  have hopen := (x.runsFit_state n).working run r hr hrw
  have hproper := (x.runsFit_state n).proper run
  have hattempted := x.attempted n run
  unfold TakesTurn at hturn
  generalize (x.state (n + 1)).client.attempt run = phase' at hattempted ⊢
  cases hattempted with
  | stays hother hanswer =>
    generalize x.events n = event at hother hanswer hturn
    cases event with
    | stepRun k shuffle now draw =>
      exact absurd hturn.1 (hother k shuffle now draw rfl (by rw [hturn.1, hr]; nofun))
    | answerRun k answer now draw => exact absurd hturn.1 (hanswer k answer now draw rfl)
    | _ => exact hturn.elim
  | steps r' shuffle now draw phase' hevent hr' hmoves =>
    rw [hevent] at hturn
    rcases hmoves.rank_lt hproper with hlt
      | ⟨-, hended | hnegotiating | ⟨id, r₀, hid, hr₀, hnone⟩⟩
    · exact fun hsame => absurd (hsame ▸ hlt) (Nat.lt_irrefl _)
    · cases hopen.symm.trans hended
    · cases hturn.2.symm.trans hnegotiating
    · exact absurd hnone (hover id r₀ hid hr₀)
  | answers answer now draw hevent =>
    rw [hevent] at hturn
    rcases ConnectPhase.rank_takeIn ((x.state n).client.attempt run) answer with hlt | ⟨-, hnot⟩
    · exact fun hsame => absurd (hsame ▸ hlt) (Nat.lt_irrefl _)
    · cases hnot.symm.trans hturn.2

namespace KeepsGoing

/-- **Every resolution is over at last.** -/
theorem isOver (h : x.KeepsGoing m) (hmn : m ≤ n) (id : Nat) :
    ∃ k, n ≤ k ∧ ∀ j, k ≤ j →
    ∀ phase, (x.state j).resolution? id = some phase → phase.isOver = true := by
  obtain ⟨k, hnk, hrest⟩ := exists_rest
    (fun phase? : Option ResolutionPhase =>
      phase?.elim (toLex (2 * x.config.resolver.maxAttempts + 3, 0))
        (·.rank x.config.resolver.maxAttempts))
    (fun j => (x.state j).resolution? id) (m := n) fun j hnj => by
      rcases x.resolution_succ j id with hsame | ⟨hnone, hwaiting⟩
        | ⟨phase, phase', hphase, hphase', hlt⟩
      · exact .inl hsame
      · refine .inr ?_
        simp only [hnone, hwaiting]
        exact Prod.Lex.toLex_lt_toLex.2 (.inl (Nat.lt_succ_self _))
      · refine .inr ?_
        simp only [hphase, hphase']
        exact hlt
  refine ⟨k, hnk, fun j hkj phase hphase => ?_⟩
  obtain ⟨i, hji, hturn⟩ := h.resolutions j id (hmn.trans (hnk.trans hkj))
  have hi : (x.state i).resolution? id = some phase :=
    ((hrest i (hkj.trans hji)).trans (hrest j hkj).symm).trans hphase
  refine Bool.eq_true_of_not_eq_false fun hopen => ?_
  exact resolution_of_movesOn hi (hturn phase hi hopen)
    ((hrest (i + 1) ((hkj.trans hji).trans (Nat.le_succ i))).trans (hrest i (hkj.trans hji)).symm)

/-- **Every run stops.** -/
theorem ne_working (h : x.KeepsGoing m) (hmn : m ≤ n) (run : Nat) :
    ∃ k, n ≤ k ∧ (x.state k).client.provider.phase? run ≠ some .working := by
  by_contra hnever
  have hw : ∀ k, n ≤ k →
      (x.state k).client.provider.phase? run = some .working := fun k hnk =>
    Classical.not_not.1 fun hstops => hnever ⟨k, hnk, hstops⟩
  obtain ⟨k, hnk, hrest⟩ := exists_rest ConnectPhase.rank
    (fun j => (x.state j).client.attempt run) (m := n) fun j _ => x.attempt_succ j run
  -- if it waits for a resolution then that one is over from some instant on
  obtain ⟨i, hki, hover⟩ : ∃ i, k ≤ i ∧ ∀ j, i ≤ j → ∀ id r,
      ((x.state j).client.attempt run).awaits? = some id →
      (x.state j).client.site.resolver = some r → r.result? id ≠ none := by
    cases hawaits : ((x.state k).client.attempt run).awaits? with
    | none =>
      refine ⟨k, Nat.le_refl k, fun j hkj id r hid => ?_⟩
      rw [hrest j hkj, hawaits] at hid
      cases hid
    | some id =>
      obtain ⟨i, hki, hover⟩ := h.isOver (hmn.trans hnk) id
      refine ⟨i, hki, fun j hij id' r hid hr => ?_⟩
      have hattempt := hrest j (hki.trans hij)
      rw [hattempt, hawaits] at hid
      cases hid
      have hphase : (x.state j).client.attempt run = .resolving (.waiting id) := by
        rw [hattempt]
        unfold ConnectPhase.awaits? at hawaits
        split at hawaits
        · cases hawaits
          assumption
        · cases hawaits
      obtain ⟨t, ht⟩ : ∃ t, r.tasks[id]? = some t :=
        ⟨_, List.getElem?_eq_getElem (lt_length_of_waiting hr hphase rfl)⟩
      have hphaseOver := hover j hij t.phase (by
        rw [Deployment.resolution?, hr, Option.bind_some, Resolver.phase?, ht, Option.map_some])
      rw [Resolver.result?, Resolver.phase?, ht, Option.map_some]
      cases hphase : t.phase with
      | brokenDown | ended => simp
      | _ => rw [hphase] at hphaseOver; cases hphaseOver
  obtain ⟨j, hij, hturn⟩ := h.runs i run (hmn.trans (hnk.trans hki))
  have hkj := hki.trans hij
  refine attempt_of_takesTurn (hw j (hnk.trans hkj)) (hturn (hw j (hnk.trans hkj)))
    (fun id r => hover j hij id r) ?_
  exact (hrest (j + 1) (hkj.trans (Nat.le_succ j))).trans (hrest j hkj).symm

/-- **Every call returns** that is to be given what the generation yields. -/
theorem isLive_eq_false (h : x.KeepsGoing m) {P : Except Error Connection → Prop}
    {first generation : Nat} (hyields : x.YieldsFrom P first generation n) (hmn : m ≤ n)
    (hquiet : ∀ k, n ≤ k → x.IsUndisturbed generation k) {i : Nat} {q : ConnectionCall}
    (hq : (x.state n).calls[i]? = some q) (hawaits : (x.state n).Awaits P first q) :
    ∃ k q', n ≤ k ∧ (x.state k).calls[i]? = some q' ∧ q'.phase.isLive = false := by
  have hbefore : ∀ q, (x.state n).calls[i]? = some q →
      (x.state n).Awaits P first q := fun q₀ hq₀ => by
    cases hq.symm.trans hq₀
    exact hawaits
  -- the call takes a step
  obtain ⟨j, hnj, hfirst⟩ := h.calls n i hmn
  obtain ⟨q₁, hq₁⟩ := x.exists_call_of_le hnj hq
  cases hlive₁ : q₁.phase.isLive with
  | false => exact ⟨j, q₁, hnj, hq₁, hlive₁⟩
  | true =>
    -- the run stops that is under way then, if there is one
    obtain ⟨k, hjk, hstopped⟩ : ∃ k, j + 1 ≤ k ∧ ∀ run,
        (x.state (j + 1)).client.provider.slot = .pending run → ∀ i, k ≤ i →
        (x.state i).client.provider.phase? run ≠ some .working := by
      cases hslot : (x.state (j + 1)).client.provider.slot with
      | pending run =>
        obtain ⟨k, hjk, hstops⟩ := h.ne_working (hmn.trans (hnj.trans (Nat.le_succ j))) run
        obtain ⟨r, hr, -⟩ := (x.coherent_state (j + 1)).isOpen_of_pending run hslot
        have hlt := Nat.lt_of_lt_of_le (List.getElem?_eq_some_iff.1 hr).1 (length_runs_mono hjk)
        refine ⟨k, hjk, fun run' hrun' i hki hw => ?_⟩
        cases hrun'
        exact hstops (working_of_le hki hlt hw)
      | _ => exact ⟨j + 1, Nat.le_refl _, nofun⟩
    -- and the call takes another step
    obtain ⟨i', hki', hlast⟩ := h.calls k i (hmn.trans (hnj.trans ((Nat.le_succ j).trans hjk)))
    have hni' : n ≤ i' := hnj.trans ((Nat.le_succ j).trans (hjk.trans hki'))
    obtain ⟨q₂, hq₂⟩ := x.exists_call_of_le hni' hq
    cases hlive₂ : q₂.phase.isLive with
    | false => exact ⟨i', q₂, hni', hq₂, hlive₂⟩
    | true =>
      obtain ⟨q₃, hq₃⟩ := x.exists_call_of_le (hni'.trans (Nat.le_succ i')) hq
      obtain ⟨l, rfl⟩ := Nat.exists_eq_add_of_le (hjk.trans hki')
      exact ⟨_, q₃, hni'.trans (Nat.le_succ _), hq₃, hyields.isLive_of_stopped hnj
        (hquiet _ (hni'.trans (Nat.le_succ _))) hbefore hq₁ (hfirst q₁ hq₁ hlive₁)
        (fun run hslot => hstopped run hslot _ hki') (hlast q₂ hq₂ hlive₂) hq₃⟩

end KeepsGoing

end ClientRun

end ClusterLink
