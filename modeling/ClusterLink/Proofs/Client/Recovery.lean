import ClusterLink.Proofs.Client.Health
import ClusterLink.Proofs.Client.Hints
import ClusterLink.Proofs.Client.Tables

/-!
# Clients that recover

A client that is well may still fail. The run that is under way may end badly, and the next one may
join a resolution that was started in worse times and is still in flight. No run fails after that.
For a run that fails leaves no such resolution behind: had there been one, the run would still be
waiting for it (`ClientRun.IsWell.le_join_of_failed`). And a run that is started then joins a
resolution that comes to a good end (`ClientRun.IsWell.not_failed_of_join`).

So no two runs that are started while the client is well fail (`ClientRun.IsWell.not_failed_again`),
and of three calls that come one after the other, none of them within a pause, one is given a
connection (`ClientRun.IsWell.recovers`). A generation that names a leader is another matter: it
asks nobody for the members, and if the factory refuses the leader it does not recover
(`ClientRun.comes_back_unless_stuck`).
-/

namespace ClusterLink

/-! ## Attempts to connect -/

/-- **What a resolution has come to is of use** to a client. -/
def ChannelFactory.ServesBy (f : ChannelFactory) : Except Error Resolution → Prop
  | .ok resolution => f.Serves resolution.members
  | .error _ => False

namespace ConnectPhase

/-- **The attempt has not failed**, and nothing that it has come to will make it. The resolution
that it waits for is one of the good ones. -/
def IsPromising (f : ChannelFactory) (good : Nat → Prop) : ConnectPhase → Prop
  | .resolving (.waiting id) => good id
  | .resolving (.leaving _ result) => f.ServesBy result
  | .chosen node => f.Builds node
  | .resolving (.done _) | .resolving .gone | .brokenDown | .ended (.error _) => False
  | _ => True

variable {settings : ConnectSettings} {shuffle : List Member → List Member} {s s' : Site}
  {phase phase' : ConnectPhase} {good : Nat → Prop} {f : ChannelFactory}

/-- Members that serve a client are chosen from. -/
theorem isPromising_ofResolution (hperm : ∀ members, (shuffle members).Perm members)
    {result : Except Error Resolution} (h : f.ServesBy result) :
    (ofResolution settings.selector shuffle result).IsPromising f good := by
  cases result with
  | error error => exact h.elim
  | ok resolution =>
    have hserves : f.Serves resolution.members := h
    unfold ofResolution
    dsimp only
    split
    · rename_i hnone
      obtain ⟨member, hmember⟩ := List.exists_mem_of_ne_nil _ hserves.ne_nil
      cases (hserves.isEligible member hmember).symm.trans
        ((NodeSelector.select_eq_none_iff (hperm _)).1 hnone member hmember)
    · rename_i member hsome
      exact hserves.builds member (NodeSelector.select_eq_some (hperm _) hsome).1

/-- **An attempt that is promising stays so**, if the resolution that it may join is a good one and
the good ones are of use. -/
theorem Moves.isPromising (h : Moves settings .rediscover false shuffle s phase phase' s')
    (hmode : settings.mode = .gossip) (hn : settings.CanNegotiate) (hfits : phase.Fits settings)
    (hperm : ∀ members, (shuffle members).Perm members) (hd : s.cache.isDisposed = false)
    {r : Resolver} (hr : s.resolver = some r) (hs : r.isShutDown = false) (hjoin : good r.join.1)
    (hresult : ∀ id result, phase = .resolving (.waiting id) → r.result? id = some result →
      s.cache.channels.factory.ServesBy result)
    (hpromising : phase.IsPromising s.cache.channels.factory good) :
    phase'.IsPromising s.cache.channels.factory good := by
  cases h with
  | stays => exact hpromising
  | follows leader ht => cases ht
  | visits node ht hm => cases hm.symm.trans hmode
  | resolves => trivial
  | calls call call' r₀ r' hr₀ hcall hproper =>
    cases hr.symm.trans hr₀
    cases Resolver.callStep_of_advanceCall hcall with
    | refused | disposed | left => exact hproper.elim
    | entered | passed => trivial
    | joined => exact hjoin
    | gaveUp id hc => cases hc
    | heard id result hc hheard => exact hresult id result rfl hheard
  | hears call result r₀ r' hr₀ hcall =>
    cases hr.symm.trans hr₀
    cases Resolver.callStep_of_advanceCall hcall with
    | refused hc => cases hc
    | disposed hshut => cases hs.symm.trans hshut
    | left id result => exact isPromising_ofResolution hperm hpromising
  | lost call hnone => cases hr.symm.trans hnone
  | links | prepares | queries => trivial
  | refused node error cache hcache =>
    exact absurd hcache (Cache.getOrCreate_ne_error hd hpromising error cache)
  | breaks handle timeout hdeadline =>
    obtain ⟨deadline, hsome⟩ := hn timeout hfits
    cases hdeadline.symm.trans hsome
  | heeds phase hc => cases hc

theorem IsPromising.takeIn (h : phase.IsPromising f good)
    (answer : Option (Except Status MethodTable)) : (phase.takeIn answer).IsPromising f good := by
  cases phase with
  | negotiating handle => trivial
  | _ => exact h

/-- An attempt that is over takes no step. -/
theorem Moves.eq_of_isOver {trigger : Trigger} {isCancelled : Bool}
    (h : Moves settings trigger isCancelled shuffle s phase phase' s')
    (hover : phase.isOver = true) :
    phase' = phase := by
  cases h with
  | stays => rfl
  | heeds phase hc hphase =>
    rcases hphase with ⟨handle, timeout, rfl⟩ | ⟨handle, rfl⟩ <;> cases hover
  | _ => cases hover

end ConnectPhase

/-! ## The resolution that is joined -/

namespace Resolver

theorem join_of_inFlight {r : Resolver} {f : InFlight} (h : r.inFlight = some f) :
    r.join.1 = f.id := by
  rw [join, h]

theorem join_of_none {r : Resolver} (h : r.inFlight = none) : r.join.1 = r.tasks.length := by
  rw [join, h]

/-- Who joins the resolution that is in flight joins one that was started. -/
theorem exists_inFlight {r : Resolver} (h : r.join.1 < r.tasks.length) :
    ∃ f, r.inFlight = some f ∧ r.join.1 = f.id := by
  cases hf : r.inFlight with
  | none => exact absurd h (Nat.not_lt.2 (Nat.le_of_eq (join_of_none hf).symm))
  | some f => exact ⟨f, rfl, join_of_inFlight hf⟩

/-- **A resolution that can still be joined could be joined before**, since it was started. -/
theorem Grows.join_eq {cache : Cache} {r r' : Resolver} (h : Grows cache r r')
    (hlt : r'.join.1 < r.tasks.length) : r.join.1 = r'.join.1 := by
  obtain ⟨f', hf', hjoin⟩ := exists_inFlight (hlt.trans_le h.length_le)
  rcases h.inFlight f' hf' with ⟨f, hf, hid⟩ | hnew
  · rw [join_of_inFlight hf, hid, hjoin]
  · exact absurd (hjoin ▸ hlt) (Nat.not_lt.2 hnew)

end Resolver

namespace ClientRun

variable {x : ClientRun} {seeds : List EndPoint} {generation k m n run run' : Nat}
    {r r₀ : Resolver}

/-- No resolution is forgotten. -/
theorem length_tasks_mono (hmn : m ≤ n) (hr₀ : (x.state m).client.site.resolver = some r₀)
    (hr : (x.state n).client.site.resolver = some r) : r₀.tasks.length ≤ r.tasks.length := by
  induction n, hmn using Nat.le_induction generalizing r with
  | base =>
    cases hr₀.symm.trans hr
    exact Nat.le_refl _
  | succ n hmn ih =>
    obtain ⟨r₁, hr₁⟩ := x.exists_resolver_of_succ hr
    exact (ih hr₁).trans ((x.change_site n).grows hr₁ hr).length_le

/-- **A resolution that can still be joined could be joined all the time**, since it was started. -/
theorem join_eq_of_le (hmn : m ≤ n) (hr₀ : (x.state m).client.site.resolver = some r₀)
    (hr : (x.state n).client.site.resolver = some r) (hlt : r.join.1 < r₀.tasks.length) :
    r₀.join.1 = r.join.1 := by
  induction n, hmn using Nat.le_induction generalizing r with
  | base =>
    cases hr₀.symm.trans hr
    rfl
  | succ n hmn ih =>
    obtain ⟨r₁, hr₁⟩ := x.exists_resolver_of_succ hr
    have hjoin := ((x.change_site n).grows hr₁ hr).join_eq
      (hlt.trans_le (length_tasks_mono hmn hr₀ hr₁))
    exact (ih hr₁ (hjoin ▸ hlt)).trans hjoin

/-! ## Runs that are started later -/

/-- A run that is started later belongs to no earlier generation. -/
theorem generation_le_of_later (hkn : k ≤ n)
    (hrun : (x.state k).client.provider.runs.length ≤ run) {q : Run}
    (hq : (x.state n).client.provider.runs[run]? = some q) :
    (x.state k).client.provider.generation ≤ q.generation := by
  induction n, hkn using Nat.le_induction generalizing q with
  | base => exact absurd (List.getElem?_eq_some_iff.1 hq).1 (Nat.not_lt.2 hrun)
  | succ n hkn ih =>
    rcases (x.change_provider n).run_cases hq with ⟨q₀, hq₀, hsame, -⟩ | hstarts
    · exact hsame ▸ ih hq₀
    · rw [hstarts.generation_eq]
      exact x.generation_mono (hkn.trans (Nat.le_succ n))

/-- **A run has its start**, if it was not there before. -/
theorem exists_starts (hkn : k ≤ n) (hrun : (x.state k).client.provider.runs.length ≤ run)
    (hlt : run < (x.state n).client.provider.runs.length) : ∃ j q, k ≤ j ∧ j < n
      ∧ Provider.Starts (x.state j).client.provider (x.state (j + 1)).client.provider run q := by
  induction n, hkn using Nat.le_induction with
  | base => exact absurd hlt (Nat.not_lt.2 hrun)
  | succ n hkn ih =>
    rcases (x.change_provider n).run_cases (List.getElem?_eq_getElem hlt)
      with ⟨q, hq, -⟩ | hstarts
    · obtain ⟨j, q, hkj, hjn, hstarts⟩ := ih (List.getElem?_eq_some_iff.1 hq).1
      exact ⟨j, q, hkj, Nat.lt_succ_of_lt hjn, hstarts⟩
    · exact ⟨n, _, hkn, Nat.lt_succ_self n, hstarts⟩

/-- **An attempt that is over stays so.** -/
theorem attempt_of_isOver (hmn : m ≤ n) (hover : ((x.state m).client.attempt run).isOver = true) :
    (x.state n).client.attempt run = (x.state m).client.attempt run := by
  induction n, hmn using Nat.le_induction with
  | base => rfl
  | succ n hmn ih =>
    have hattempted := x.attempted n run
    generalize (x.state (n + 1)).client.attempt run = phase at hattempted ⊢
    rw [← ih] at hover ⊢
    cases hattempted with
    | stays => rfl
    | steps q shuffle now draw phase hevent hq hmoves => exact hmoves.eq_of_isOver hover
    | answers answer =>
      generalize (x.state n).client.attempt run = phase at hover ⊢
      cases phase with
      | negotiating => cases hover
      | _ => rfl

/-- No attempt breaks down, if the question about the capabilities can be asked. -/
theorem attempt_ne_brokenDown (hn : (Client.settingsOf x.config).CanNegotiate) (n run : Nat) :
    (x.state n).client.attempt run ≠ .brokenDown := by
  refine attempt_induction (P := fun _ phase => phase ≠ .brokenDown) run nofun (fun _ _ h => h)
    (fun n q shuffle now draw phase phase' _ _ hphase hmoves hne => ?_)
    (fun _ _ _ _ _ _ _ _ => nofun) n
  have hfits := x.fits_state n run
  rw [x.settings_state, hphase] at hfits
  generalize (x.state (n + 1)).client.site = site at hmoves
  cases hmoves with
  | stays => exact hne
  | hears call result =>
    rcases ConnectPhase.ofResolution_cases (Client.settingsOf x.config).selector shuffle result
      with ⟨error, h⟩ | ⟨node, h⟩ <;> rw [h] <;> nofun
  | breaks handle timeout hdeadline =>
    obtain ⟨deadline, hsome⟩ := hn timeout hfits
    cases hdeadline.symm.trans hsome
  | _ => nofun

/-- Every run of the generation ends in a result. -/
theorem yields_of_canNegotiate (hn : (Client.settingsOf x.config).CanNegotiate)
    (hquiet : x.IsUndisturbed generation n) :
    (x.state n).client.provider.Yields (fun _ => True) 0 := by
  refine yields_of_comesTo hquiet fun k _ run q _ _ => ?_
  cases hphase : (x.state k).client.attempt run with
  | brokenDown => exact attempt_ne_brokenDown hn k run hphase
  | _ => trivial

/-- **A run that has ended ended as its attempt did.** -/
theorem attempt_of_ended (hn : (Client.settingsOf x.config).CanNegotiate)
    (hquiet : x.IsUndisturbed generation n) {q : Run}
    (hq : (x.state n).client.provider.runs[run]? = some q) (hg : q.generation = generation)
    {result : Except Error Connection} (hphase : q.phase = .ended (some result)) :
    ∃ told, (x.state n).client.attempt run = .ended told
      ∧ ∀ error, result = .error error → told = .error error := by
  induction n generalizing q with
  | zero => cases x.getElem?_runs_zero run ▸ hq
  | succ n ih =>
    rcases (x.change_provider n).run_cases hq with ⟨q₀, hq₀, hsame, hproceeds⟩ | hstarts
    · have hg₀ := hsame.trans hg
      have hquiet₀ := hquiet.of_succ (hg₀ ▸ (x.coherent_state n).generation_le run q₀ hq₀)
      cases hproceeds with
      | stays hstays =>
        obtain ⟨told, htold, herror⟩ := ih hquiet₀ hq₀ hg₀ (hstays.symm.trans hphase)
        refine ⟨told, ?_, herror⟩
        rw [attempt_of_isOver (Nat.le_succ n) (by rw [htold]; rfl), htold]
      | breaks hw hw' =>
        rw [hphase] at hw'
        cases hw'
      | ends outcome hw =>
        have hworking := ((yields_of_canNegotiate hn hquiet₀).working_of_isOpen hq₀
          (hg₀.trans hquiet₀.generation_eq.symm) hw).2
        rcases outcome_of_stops hquiet₀ hq₀ hg₀ hworking hq (by rw [hphase]; nofun)
          with hbroken | ⟨told, htold, houtcome⟩
        · exact absurd hbroken (attempt_ne_brokenDown hn (n + 1) run)
        · refine ⟨told, htold, fun error herror => ?_⟩
          cases hphase.symm.trans houtcome
          cases told with
          | ok link => cases herror
          | error told =>
            cases herror
            rfl
    · cases hstarts.phase_eq.symm.trans hphase

/-! ## Runs that fail -/

/-- **The run has failed.** -/
def HasFailed (x : ClientRun) (run n : Nat) : Prop :=
  ∃ error, (x.state n).client.attempt run = .ended (.error error)

theorem HasFailed.isOver (h : x.HasFailed run n) :
    ((x.state n).client.attempt run).isOver = true := by
  obtain ⟨error, hphase⟩ := h
  rw [hphase]
  rfl

/-- A run that has failed stays so. -/
theorem HasFailed.of_le (h : x.HasFailed run m) (hmn : m ≤ n) : x.HasFailed run n := by
  obtain ⟨error, hphase⟩ := h
  exact ⟨error, (attempt_of_isOver hmn (HasFailed.isOver ⟨error, hphase⟩)).trans hphase⟩

/-- A run that has failed has failed ever since it was over. -/
theorem HasFailed.of_isOver (h : x.HasFailed run m)
    (hover : ((x.state n).client.attempt run).isOver = true) : x.HasFailed run n := by
  rcases Nat.le_total n m with hnm | hmn
  · obtain ⟨error, hphase⟩ := h
    exact ⟨error, (attempt_of_isOver hnm hover).symm.trans hphase⟩
  · exact h.of_le hmn

/-- **A run is over when the next one of its generation is started.** -/
theorem isOver_of_starts (hn : (Client.settingsOf x.config).CanNegotiate)
    (hquiet : x.IsUndisturbed generation (n + 1)) {q q' : Run}
    (hq : (x.state n).client.provider.runs[run]? = some q) (hg : q.generation = generation)
    (hstarts : Provider.Starts (x.state n).client.provider (x.state (n + 1)).client.provider run'
      q') :
    ((x.state n).client.attempt run).isOver = true := by
  have hquietₙ := hquiet.of_succ (hg ▸ (x.coherent_state n).generation_le run q hq)
  have hqg := hg.trans hquietₙ.generation_eq.symm
  obtain hw | ⟨result, hended, -⟩ :=
    (yields_of_canNegotiate hn hquietₙ).phase run q hq hqg (Nat.zero_le _)
  · -- a run that works is waited for, and no other one is started then
    have hpending := (x.coherent_state n).pending_of_isOpen hquietₙ.provider run
      ⟨q, hq, hqg, by rw [hw]; rfl⟩
    exact absurd hpending
      ((hstarts.slot_ne (hquiet.generation_eq.trans hquietₙ.generation_eq.symm)).1 run)
  · obtain ⟨told, htold, -⟩ := attempt_of_ended hn hquietₙ hq hg hended
    rw [htold]
    rfl

namespace IsWell

/-- A run that is started while the client is well belongs to the generation. -/
theorem generation_eq_of_later (h : x.IsWell seeds generation m) (hmk : m ≤ k) (hkn : k ≤ n)
    (hquiet : x.IsUndisturbed generation n)
    (hrun : (x.state k).client.provider.runs.length ≤ run) {q : Run}
    (hq : (x.state n).client.provider.runs[run]? = some q) : q.generation = generation := by
  refine Nat.le_antisymm ?_ ?_
  · exact hquiet.generation_eq ▸ (x.coherent_state n).generation_le run q hq
  · refine Nat.le_trans ?_ (generation_le_of_later hkn hrun hq)
    exact h.generation_eq ▸ x.generation_mono hmk

/-- **A run that is started later is promising**, if the resolutions that it may join are good ones
and those are of use. -/
theorem isPromising (h : x.IsWell seeds generation m)
    (ht : (x.state m).client.provider.trigger = .rediscover) (good : Nat → Prop) (hmk : m ≤ k)
    (hkn : k ≤ n) (hquiet : x.IsUndisturbed generation n)
    (hrun : (x.state k).client.provider.runs.length ≤ run)
    (hjoin : ∀ j r, k ≤ j → j < n → (x.state j).client.site.resolver = some r →
      good r.join.1)
    (hresult : ∀ j r id result, k ≤ j → j < n →
      (x.state j).client.site.resolver = some r →
      (x.state j).client.attempt run = .resolving (.waiting id) → good id →
      r.result? id = some result → x.factory.ServesBy result) :
    ((x.state n).client.attempt run).IsPromising x.factory good := by
  induction n, hkn using Nat.le_induction with
  | base =>
    rw [(x.runsFit_state k).fresh run hrun]
    trivial
  | succ n hkn ih =>
    have hmn := hmk.trans hkn
    have hquiet₀ := h.quiet_of_le hmn (Nat.le_succ n) hquiet
    have hbefore := ih hquiet₀ (fun j r hkj hjn => hjoin j r hkj (Nat.lt_succ_of_lt hjn))
      (fun j r id result hkj hjn => hresult j r id result hkj (Nat.lt_succ_of_lt hjn))
    have hattempted := x.attempted n run
    generalize (x.state (n + 1)).client.attempt run = phase at hattempted ⊢
    cases hattempted with
    | stays => exact hbefore
    | steps q shuffle now draw phase hevent hq hmoves =>
      have hqg := h.generation_eq_of_later hmk hkn hquiet₀ hrun hq
      have hgen := hquiet₀.generation_eq.trans h.generation_eq.symm
      have htrigger : q.trigger = .rediscover :=
        ((x.coherent_state n).trigger_eq run q hq (hqg.trans hquiet₀.generation_eq.symm)).trans
          ((trigger_eq_of_generation_eq hmn hgen).trans ht)
      obtain ⟨r, hr⟩ := h.exists_resolver n
      have hfits := x.fits_state n run
      have hbenign := h.benign n hmn
      rw [hevent] at hbenign
      have hmode : (Client.settingsOf x.config).mode = .gossip := by
        rw [Client.settingsOf, h.topology_eq]
      have hfactory := x.factory_state n
      rw [x.settings_state] at hfits
      rw [htrigger, isRunCancelled_eq_false hquiet₀ hq hqg, x.settings_state] at hmoves
      rw [← hfactory] at hbefore hresult ⊢
      refine hmoves.isPromising hmode h.canNegotiate hfits hbenign hquiet₀.cache hr
        (h.isShutDown_eq_false hmn hquiet₀ hr) (hjoin n r hkn (Nat.lt_succ_self n) hr)
        (fun id result hphase hheard => ?_) hbefore
      refine hresult n r id result hkn (Nat.lt_succ_self n) hr hphase ?_ hheard
      rw [hphase] at hbefore
      exact hbefore
    | answers answer => exact hbefore.takeIn answer

/-- The resolution that is in flight has no result yet. -/
theorem result?_join (h : x.IsWell seeds generation m) (hmn : m ≤ n)
    (hr : (x.state n).client.site.resolver = some r) (hlt : r.join.1 < r.tasks.length) :
    r.result? r.join.1 = none := by
  obtain ⟨f, hf, hjoin⟩ := Resolver.exists_inFlight hlt
  rw [hjoin, Resolver.result?]
  cases hphase : r.phase? f.id with
  | none => rfl
  | some phase =>
    have hopen := h.isOver_of_inFlight hmn hr hf hphase
    cases phase with
    | ended | brokenDown => cases hopen
    | _ => rfl

/-- **A run that fails leaves no old resolution behind**: it would have joined that, and would still
be waiting for it. -/
theorem le_join_of_failed (h : x.IsWell seeds generation m)
    (ht : (x.state m).client.provider.trigger = .rediscover)
    (hr₀ : (x.state m).client.site.resolver = some r₀) (hmn : m ≤ n)
    (hquiet : x.IsUndisturbed generation n)
    (hrun : (x.state m).client.provider.runs.length ≤ run) (hfailed : x.HasFailed run n)
    (hr : (x.state n).client.site.resolver = some r) : r₀.tasks.length ≤ r.join.1 := by
  refine Nat.not_lt.1 fun hlt => ?_
  have hold : ∀ j rⱼ, m ≤ j → j < n → (x.state j).client.site.resolver = some rⱼ →
      r.join.1 < rⱼ.tasks.length ∧ rⱼ.join.1 = r.join.1 := by
    intro j rⱼ hmj hjn hrⱼ
    have hltⱼ := hlt.trans_le (length_tasks_mono hmj hr₀ hrⱼ)
    exact ⟨hltⱼ, join_eq_of_le (Nat.le_of_lt hjn) hrⱼ hr hltⱼ⟩
  have hpromising := h.isPromising ht (· = r.join.1) (Nat.le_refl m) hmn hquiet hrun
    (fun j rⱼ hmj hjn hrⱼ => (hold j rⱼ hmj hjn hrⱼ).2)
    (fun j rⱼ id result hmj hjn hrⱼ _ hid hheard => by
      obtain ⟨hltⱼ, hjoin⟩ := hold j rⱼ hmj hjn hrⱼ
      rw [hid, ← hjoin, h.result?_join hmj hrⱼ (hjoin ▸ hltⱼ)] at hheard
      cases hheard)
  obtain ⟨error, hphase⟩ := hfailed
  rw [hphase] at hpromising
  exact hpromising

/-- **A resolution that is started while the client is well comes to something of use**, unless it
is cancelled. -/
theorem servesBy_of_result? (h : x.IsWell seeds generation m)
    (hr₀ : (x.state m).client.site.resolver = some r₀) (hmn : m ≤ n)
    (hquiet : x.IsUndisturbed generation n) (hr : (x.state n).client.site.resolver = some r)
    {id : Nat} (hid : r₀.tasks.length ≤ id) (hc : r.isCancelled id = false)
    {result : Except Error Resolution} (hresult : r.result? id = some result) :
    x.factory.ServesBy result := by
  have hhopeful : ∀ {phase}, r.phase? id = some phase →
      phase.IsHopeful x.factory seeds (x.state n).client.site.cache :=
    fun hphase => h.isHopeful hr₀ hmn hquiet hr hid hphase hc
  unfold Resolver.result? at hresult
  split at hresult
  · rename_i hphase
    cases hresult
    have hserves := hhopeful hphase
    cases result with
    | ok resolution => exact hserves
    | error error => exact hserves
  · rename_i hphase
    exact (hhopeful hphase).elim
  · cases hresult

/-- **No run fails that joins a resolution of good times.** -/
theorem not_failed_of_join (h : x.IsWell seeds generation m)
    (ht : (x.state m).client.provider.trigger = .rediscover)
    (hr₀ : (x.state m).client.site.resolver = some r₀) (hmk : m ≤ k) (hkn : k ≤ n)
    (hquiet : x.IsUndisturbed generation n) (hr : (x.state k).client.site.resolver = some r)
    (hjoin : r₀.tasks.length ≤ r.join.1)
    (hrun : (x.state k).client.provider.runs.length ≤ run) : ¬x.HasFailed run n := by
  have hpromising := h.isPromising ht (r₀.tasks.length ≤ ·) hmk hkn hquiet hrun
    (fun j rⱼ hkj _ hrⱼ => Nat.not_lt.1 fun hlt => by
      have hsame := join_eq_of_le hkj hr hrⱼ (hlt.trans_le (length_tasks_mono hmk hr₀ hr))
      exact absurd (hsame ▸ hjoin) (Nat.not_le.2 hlt))
    (fun j rⱼ id result hkj hjn hrⱼ hwaits hid hheard => by
      have hmj := hmk.trans hkj
      have hquietⱼ := h.quiet_of_le hmj (Nat.le_of_lt hjn) hquiet
      have hopen :=
        isCancelled_of_waiting hrⱼ (h.isShutDown_eq_false hmj hquietⱼ hrⱼ) hwaits rfl
      exact h.servesBy_of_result? hr₀ hmj hquietⱼ hrⱼ hid hopen hheard)
  rintro ⟨error, hphase⟩
  rw [hphase] at hpromising
  exact hpromising

/-- **No two runs fail that are started while the client is well.** -/
theorem not_failed_again (h : x.IsWell seeds generation m)
    (ht : (x.state m).client.provider.trigger = .rediscover) (hmn : m ≤ n)
    (hquiet : x.IsUndisturbed generation n)
    (hrun : (x.state m).client.provider.runs.length ≤ run) (hlt : run < run')
    (hfailed : x.HasFailed run k) : ¬x.HasFailed run' n := by
  intro hfailed'
  -- the second run is started when the first one has failed
  have hstarted : run' < (x.state n).client.provider.runs.length := by
    refine Nat.not_le.1 fun hle => ?_
    obtain ⟨error, hphase⟩ := hfailed'
    cases hphase.symm.trans ((x.runsFit_state n).fresh run' hle)
  obtain ⟨j, q', hmj, hjn, hstarts⟩ :=
    exists_starts hmn (hrun.trans (Nat.le_of_lt hlt)) hstarted
  have hquietⱼ := h.quiet_of_le hmj (Nat.le_of_lt hjn) hquiet
  have hlen := hstarts.run_eq
  obtain ⟨q, hq⟩ : ∃ q, (x.state j).client.provider.runs[run]? = some q :=
    ⟨_, List.getElem?_eq_getElem (hlen ▸ hlt)⟩
  have hqg := h.generation_eq_of_later (Nat.le_refl m) hmj hquietⱼ hrun hq
  have hfailedⱼ : x.HasFailed run j :=
    hfailed.of_isOver (isOver_of_starts h.canNegotiate
      (h.quiet_of_le (hmj.trans (Nat.le_succ j)) hjn hquiet) hq hqg hstarts)
  obtain ⟨r₀, hr₀⟩ := h.exists_resolver m
  obtain ⟨r, hr⟩ := h.exists_resolver j
  exact h.not_failed_of_join ht hr₀ hmj (Nat.le_of_lt hjn) hquiet hr
    (h.le_join_of_failed ht hr₀ hmj hquietⱼ hrun hfailedⱼ hr) (Nat.le_of_eq hlen.symm)
    hfailed'

end IsWell

/-! ## Calls -/

/-- The token of a call stays cancelled. -/
theorem isCancelled_call_of_le (hmn : m ≤ n) {i : Nat} {q q' : ConnectionCall}
    (hq : (x.state m).calls[i]? = some q) (hc : q.isCancelled = true)
    (hq' : (x.state n).calls[i]? = some q') : q'.isCancelled = true := by
  induction n, hmn using Nat.le_induction generalizing q' with
  | base =>
    cases hq.symm.trans hq'
    exact hc
  | succ n hmn ih =>
    obtain ⟨q₁, hq₁⟩ := x.exists_call_of_le hmn hq
    cases Deployment.goes_of_perform hq' with
    | begins q' hnone => cases hnone.symm.trans hq₁
    | cancel => rfl
    | stays q' hold | giveUp q' hold | heeds q' hold | steps q' now draw hold =>
      have hbefore := ih hold
      exact hbefore

/-- **The call asks outside a pause**: it takes the step with which it asks, and the delay after the
last failure has passed, if there was one. -/
def AsksOutsidePause (x : ClientRun) (i n : Nat) : Prop :=
  ∃ q now draw, (x.state n).calls[i]? = some q ∧ q.phase = .asking
    ∧ x.events n = .advance i now draw
    ∧ ∀ error retryAt, (x.state n).client.provider.slot = .failed error retryAt →
      retryAt ≤ now

/-- **The call is answered** between two instants: it asks outside a pause and is given the result.
It was not told to stop. -/
structure IsAnswered (x : ClientRun) (i m n : Nat) (result : Except Error Connection) : Prop where
  asks : ∃ k, m ≤ k ∧ k < n ∧ x.AsksOutsidePause i k
  answer : ∃ q, (x.state n).calls[i]? = some q ∧ q.phase = .done result
    ∧ q.isCancelled = false

theorem IsAnswered.le {i : Nat} {result : Except Error Connection} (h : x.IsAnswered i m n result) :
    m ≤ n := by
  obtain ⟨k, hmk, hkn, -⟩ := h.asks
  exact hmk.trans (Nat.le_of_lt hkn)

/-- **Who asks outside a pause is given the connection, or waits for a run.** -/
theorem phase_of_asks (hd : (x.state n).client.provider.isDisposed = false) {i : Nat}
    (h : x.AsksOutsidePause i n) {q : ConnectionCall} (hq : (x.state n).calls[i]? = some q)
    (hc : q.isCancelled = false) : ∃ q', (x.state (n + 1)).calls[i]? = some q'
      ∧ ((∃ c, q'.phase = .done (.ok c))
        ∨ ∃ run,
          q'.phase = .waiting run ∧ (x.state (n + 1)).client.provider.slot = .pending run) := by
  obtain ⟨q₀, now, draw, hq₀, hphase, hevent, hpause⟩ := h
  cases hq.symm.trans hq₀
  have hlt := (List.getElem?_eq_some_iff.1 hq).1
  have hstate : x.state (n + 1) = (x.state n).stepCall i now draw := by
    rw [state, hevent]
    rfl
  rw [hstate, Deployment.stepCall, hq]
  dsimp only
  rw [if_neg (by simp [hc]), hphase]
  refine ⟨_, List.getElem?_set_self hlt, ?_⟩
  show (∃ c, ((x.state n).client.provider.current now).1.phase = .done (.ok c))
    ∨ ∃ run, ((x.state n).client.provider.current now).1.phase = .waiting run
      ∧ ((x.state n).client.provider.current now).2.slot = .pending run
  rw [Provider.current, if_neg (by simp [hd])]
  cases hslot : (x.state n).client.provider.slot with
  | ready c => exact .inl ⟨c, rfl⟩
  | pending run => exact .inr ⟨run, rfl, hslot⟩
  | failed error retryAt =>
    dsimp only
    rw [if_neg (Nat.not_lt.2 (hpause error retryAt hslot))]
    exact .inr ⟨_, rfl, rfl⟩
  | empty => exact .inr ⟨_, rfl, rfl⟩

/-- **The call waits for the run, or was told what came of it**, unless its caller gave up or its
token is cancelled. -/
def IsTold (x : ClientRun) (run n : Nat) (q : ConnectionCall) : Prop :=
  q.phase = .waiting run ∨ q.phase = .gone ∨ q.isCancelled = true
    ∨ ∃ result, q.phase = .done result
      ∧ ∃ r, (x.state n).client.provider.runs[run]? = some r ∧ r.phase = .ended (some result)

/-- A run of the generation tells its result to whoever waits for it. -/
theorem IsTold.succ (hn : (Client.settingsOf x.config).CanNegotiate)
    (hquiet : x.IsUndisturbed generation n) {r : Run}
    (hr : (x.state n).client.provider.runs[run]? = some r) (hg : r.generation = generation)
    {i : Nat} {q q' : ConnectionCall} (hq : (x.state n).calls[i]? = some q)
    (hq' : (x.state (n + 1)).calls[i]? = some q') (h : x.IsTold run n q) :
    x.IsTold run (n + 1) q' := by
  rcases h with hwaits | hgone | hc | ⟨result, hdone, hended⟩
  · cases Deployment.goes_of_perform hq' with
    | begins q' hnone => cases hnone.symm.trans hq
    | stays q' hold =>
      cases hq.symm.trans hold
      exact .inl hwaits
    | cancel q' hold => exact .inr (.inr (.inl rfl))
    | giveUp q' hold =>
      cases hq.symm.trans hold
      refine .inr (.inl ?_)
      show q.phase.giveUp = .gone
      rw [hwaits]
      rfl
    | heeds q' hold hc => exact .inr (.inr (.inl hc))
    | steps q' now draw hold hevent hc hprovider =>
      cases hq.symm.trans hold
      rw [hwaits, Provider.advanceCall, Provider.poll, hr] at hprovider
      unfold IsTold
      rw [hwaits, Provider.advanceCall, Provider.poll, hr]
      dsimp only at hprovider ⊢
      rcases (yields_of_canNegotiate hn hquiet).phase run r hr
        (hg.trans hquiet.generation_eq.symm) (Nat.zero_le _) with hw | ⟨result, hended, -⟩
      · rw [hw]
        exact .inl rfl
      · rw [hended] at hprovider ⊢
        refine .inr (.inr (.inr ⟨result, rfl, r, ?_, hended⟩))
        exact (congrArg (·.runs[run]?) hprovider).trans hr
  · refine .inr (.inl ?_)
    rw [Deployment.phase_of_isLive_eq_false hq (by rw [hgone]; rfl) hq', hgone]
  · exact .inr (.inr (.inl (isCancelled_call_of_le (Nat.le_succ n) hq hc hq')))
  · refine .inr (.inr (.inr ⟨result, ?_, (x.change_provider n).ended_persists hended⟩))
    rw [Deployment.phase_of_isLive_eq_false hq (by rw [hdone]; rfl) hq', hdone]

/-- **Who waits for a run is told what comes of it**, unless it gives up or its token is
cancelled. -/
theorem isTold_of_waiting (hn : (Client.settingsOf x.config).CanNegotiate) (hmn : m ≤ n)
    (hquiet : ∀ k, m ≤ k → k ≤ n → x.IsUndisturbed generation k)
    (hslot : (x.state m).client.provider.slot = .pending run) {i : Nat} {q q' : ConnectionCall}
    (hq : (x.state m).calls[i]? = some q) (hphase : q.phase = .waiting run)
    (hq' : (x.state n).calls[i]? = some q') : x.IsTold run n q' := by
  obtain ⟨r₀, hr₀, hg, -⟩ := (x.coherent_state m).isOpen_of_pending run hslot
  have hg₀ := hg.trans (hquiet m (Nat.le_refl m) hmn).generation_eq
  clear hslot hg
  induction n, hmn using Nat.le_induction generalizing q' with
  | base =>
    cases hq.symm.trans hq'
    exact .inl hphase
  | succ n hmn ih =>
    obtain ⟨q₁, hq₁⟩ := x.exists_call_of_le hmn hq
    obtain ⟨r, hr, hsame⟩ := exists_run_of_le hmn hr₀
    exact (ih (fun k hmk hkn => hquiet k hmk (Nat.le_succ_of_le hkn)) hq₁).succ hn
      (hquiet n hmn (Nat.le_succ n)) hr (hsame.trans hg₀) hq₁ hq'

namespace IsWell

/-- **A call that is answered with an error has waited for a run that has failed.** -/
theorem exists_failed (h : x.IsWell seeds generation m) (hmk : m ≤ k)
    (hquiet : x.IsUndisturbed generation n) {i : Nat} {error : Error}
    (hcall : x.IsAnswered i k n (.error error)) :
    ∃ j run, k < j ∧ j ≤ n ∧ (x.state j).client.provider.slot = .pending run
      ∧ x.HasFailed run n := by
  obtain ⟨⟨j, hkj, hjn, hasks⟩, q', hq', hdone, hopen⟩ := hcall
  have hmj := hmk.trans hkj
  have hquiets : ∀ l, m ≤ l → l ≤ n → x.IsUndisturbed generation l :=
    fun l hml hln => h.quiet_of_le hml hln hquiet
  obtain ⟨q, -, -, hq, -⟩ := id hasks
  have hc : q.isCancelled = false := Bool.eq_false_iff.2 fun hc => by
    cases hopen.symm.trans (isCancelled_call_of_le (Nat.le_of_lt hjn) hq hc hq')
  obtain ⟨q₁, hq₁, ⟨c, hready⟩ | ⟨run, hwaits, hslot⟩⟩ :=
    phase_of_asks (hquiets j hmj (Nat.le_of_lt hjn)).provider hasks hq hc
  · have hsame := x.phase_of_le hjn hq₁ (by rw [hready]; rfl) hq'
    cases (hdone.symm.trans hsame).trans hready
  · refine ⟨j + 1, run, Nat.lt_succ_of_le hkj, hjn, hslot, ?_⟩
    rcases isTold_of_waiting h.canNegotiate hjn
      (fun l hjl => hquiets l (hmj.trans ((Nat.le_succ j).trans hjl))) hslot hq₁ hwaits hq'
      with hstill | hgone | hcancelled | ⟨result, htold, r, hr, hended⟩
    · cases hdone.symm.trans hstill
    · cases hdone.symm.trans hgone
    · cases hopen.symm.trans hcancelled
    · cases hdone.symm.trans htold
      obtain ⟨r₀, hr₀, hg, -⟩ := (x.coherent_state (j + 1)).isOpen_of_pending run hslot
      obtain ⟨r', hr', hsame⟩ := exists_run_of_le hjn hr₀
      cases hr.symm.trans hr'
      have hrg :=
        (hsame.trans hg).trans (hquiets (j + 1) (hmj.trans (Nat.le_succ j)) hjn).generation_eq
      obtain ⟨told, hattempt, herror⟩ := attempt_of_ended h.canNegotiate hquiet hr hrg hended
      exact ⟨error, herror error rfl ▸ hattempt⟩

/-- **The run that is waited for once another one has failed is started later** than that was waited
for. -/
theorem le_of_pending (h : x.IsWell seeds generation m) (hmk : m ≤ k) (hkn : k ≤ n)
    (hquiet : x.IsUndisturbed generation n)
    (hslot : (x.state k).client.provider.slot = .pending run)
    (hslot' : (x.state n).client.provider.slot = .pending run') (hfailed : x.HasFailed run n) :
    (x.state k).client.provider.runs.length ≤ run' := by
  refine Nat.not_lt.1 fun hlt => ?_
  have hquietₖ := h.quiet_of_le hmk hkn hquiet
  obtain ⟨r', hr', hg', hopen⟩ := (x.coherent_state n).isOpen_of_pending run' hslot'
  have hworking :=
    ((yields_of_canNegotiate h.canNegotiate hquiet).working_of_isOpen hr' hg' hopen).2
  -- it was open then, so it is the same run, and that is over
  have hrun : run' = run := by
    obtain ⟨r, hr, hw⟩ := Option.map_eq_some_iff.1
      (working_of_le hkn hlt (by rw [Provider.phase?, hr', Option.map_some, hworking]))
    obtain ⟨r'', hr'', hsame⟩ := exists_run_of_le hkn hr
    cases hr'.symm.trans hr''
    have hg : r.generation = (x.state k).client.provider.generation := by
      rw [← hsame, hg', hquiet.generation_eq, hquietₖ.generation_eq]
    have hpending := (x.coherent_state k).pending_of_isOpen hquietₖ.provider run'
      ⟨r, hr, hg, by rw [hw]; rfl⟩
    cases hslot.symm.trans hpending
    rfl
  rw [hrun] at hr'
  cases hfailed.isOver.symm.trans ((x.runsFit_state n).working run r' hr' hworking)

end IsWell

/-! ## The result -/

/-- **Three calls do not fail one after the other**, if each of them asks outside a pause. -/
theorem IsWell.not_three_errors (h : x.IsWell seeds generation m)
    (ht : (x.state m).client.provider.trigger = .rediscover)
    {i₁ i₂ i₃ n₀ n₁ n₂ n₃ : Nat} {e₁ e₂ e₃ : Error} (hm : m ≤ n₀)
    (hquiet : x.IsUndisturbed generation n₃) (h₁ : x.IsAnswered i₁ n₀ n₁ (.error e₁))
    (h₂ : x.IsAnswered i₂ n₁ n₂ (.error e₂)) :
    ¬x.IsAnswered i₃ n₂ n₃ (.error e₃) := by
  intro h₃
  have hm₁ := hm.trans h₁.le
  have hm₂ := hm₁.trans h₂.le
  have hquiet₂ := h.quiet_of_le hm₂ h₃.le hquiet
  have hquiet₁ := h.quiet_of_le hm₁ h₂.le hquiet₂
  obtain ⟨k₁, run₁, hk₁, hn₁, hslot₁, hfailed₁⟩ := h.exists_failed hm hquiet₁ h₁
  obtain ⟨k₂, run₂, hk₂, hn₂, hslot₂, hfailed₂⟩ :=
    h.exists_failed hm₁ hquiet₂ h₂
  obtain ⟨k₃, run₃, hk₃, hn₃, hslot₃, hfailed₃⟩ := h.exists_failed hm₂ hquiet h₃
  have hmk₁ := hm.trans (Nat.le_of_lt hk₁)
  have hmk₂ := hm₁.trans (Nat.le_of_lt hk₂)
  have hmk₃ := hm₂.trans (Nat.le_of_lt hk₃)
  -- each run is started after the one before, as that was over by then
  have hlater₁ := h.le_of_pending hmk₁ (hn₁.trans (Nat.le_of_lt hk₂))
    (h.quiet_of_le hmk₂ hn₂ hquiet₂) hslot₁ hslot₂ (hfailed₁.of_le (Nat.le_of_lt hk₂))
  have hlater₂ := h.le_of_pending hmk₂ (hn₂.trans (Nat.le_of_lt hk₃))
    (h.quiet_of_le hmk₃ hn₃ hquiet) hslot₂ hslot₃ (hfailed₂.of_le (Nat.le_of_lt hk₃))
  obtain ⟨r₂, hr₂, -⟩ := (x.coherent_state k₂).isOpen_of_pending run₂ hslot₂
  exact h.not_failed_again ht (hm₂.trans h₃.le) hquiet
    ((length_runs_mono hmk₁).trans hlater₁)
      (Nat.lt_of_lt_of_le (List.getElem?_eq_some_iff.1 hr₂).1 hlater₂) hfailed₂ hfailed₃

/-- **Who asks is answered**, if the client keeps going, unless the caller gives up or its token is
cancelled. -/
theorem IsWell.exists_isAnswered (h : x.IsWell seeds generation m) (hgoing : x.KeepsGoing m)
    (hmn : m ≤ n) (hquiet : ∀ k, n ≤ k → x.IsUndisturbed generation k) {i : Nat}
    (hasks : x.AsksOutsidePause i n) : ∃ k q, (x.state k).calls[i]? = some q
      ∧ (q.phase = .gone ∨ q.isCancelled = true ∨ ∃ result, x.IsAnswered i n k result) := by
  have hyields : x.YieldsFrom (fun _ => True) 0 generation n :=
    ⟨(hquiet n (Nat.le_refl n)).generation_eq,
      fun k _ hquietₖ => yields_of_canNegotiate h.canNegotiate hquietₖ⟩
  obtain ⟨q, -, -, hq, hphase, -⟩ := id hasks
  have hawaits : (x.state n).Awaits (fun _ => True) 0 q := .inl (by rw [hphase]; trivial)
  obtain ⟨k, q', hnk, hq', hover⟩ := hgoing.isLive_eq_false hyields hmn hquiet hq hawaits
  have hlt : n < k := Nat.lt_of_le_of_ne hnk fun heq => by
    subst heq
    cases hq.symm.trans hq'
    rw [hphase] at hover
    cases hover
  refine ⟨k, q', hq', ?_⟩
  cases hc : q'.isCancelled with
  | true => exact .inr (.inl rfl)
  | false =>
    rcases hyields.awaits hnk (hquiet k hnk)
      (fun q₀ hq₀ => by cases hq.symm.trans hq₀; exact hawaits) hq' with
      hcomes | ⟨hcancelled, -⟩
    · cases hphase' : q'.phase with
      | done result =>
        exact .inr (.inr ⟨result, ⟨n, Nat.le_refl n, hlt, hasks⟩, q', hq', hphase', hc⟩)
      | gone => exact .inl rfl
      | brokenDown =>
        rw [hphase'] at hcomes
        exact hcomes.elim
      | forcing | asking | waiting =>
        rw [hphase'] at hover
        cases hover
    · cases hc.symm.trans hcancelled

/-- **The client recovers**, from `m` on and as long as nobody interferes. -/
structure Recovers (x : ClientRun) (generation m : Nat) : Prop where
  /-- Of three calls that come one after the other, each of them outside a pause, one is given a
  connection. -/
  succeeds : ∀ i₁ i₂ i₃ n₀ n₁ n₂ n₃ result₁ result₂ result₃, m ≤ n₀ →
    x.IsUndisturbed generation n₃ → x.IsAnswered i₁ n₀ n₁ result₁ →
    x.IsAnswered i₂ n₁ n₂ result₂ → x.IsAnswered i₃ n₂ n₃ result₃ →
    result₁.isOk = true ∨ result₂.isOk = true ∨ result₃.isOk = true
  /-- Every call is answered, if the client keeps going, unless the caller gives up or its token is
  cancelled. -/
  returns : x.KeepsGoing m → ∀ i n, m ≤ n →
    (∀ k, n ≤ k → x.IsUndisturbed generation k) → x.AsksOutsidePause i n →
    ∃ k q, (x.state k).calls[i]? = some q
      ∧ (q.phase = .gone ∨ q.isCancelled = true ∨ ∃ result, x.IsAnswered i n k result)

/-- **A client that is well recovers**, unless it was told where to go. -/
theorem IsWell.recovers (h : x.IsWell seeds generation m)
    (ht : (x.state m).client.provider.trigger = .rediscover) : x.Recovers generation m where
  succeeds := by
    intro i₁ i₂ i₃ n₀ n₁ n₂ n₃ result₁ result₂ result₃ hm hquiet h₁ h₂ h₃
    cases result₁ with
    | ok c => exact .inl rfl
    | error e₁ =>
      cases result₂ with
      | ok c => exact .inr (.inl rfl)
      | error e₂ =>
        cases result₃ with
        | ok c => exact .inr (.inr rfl)
        | error e₃ => exact (h.not_three_errors ht hm hquiet h₁ h₂ h₃).elim
  returns := fun hgoing _ _ hmn hquiet hasks => h.exists_isAnswered hgoing hmn hquiet hasks

/-- **Only a leader that the factory refuses keeps a client from coming back.** A generation that
names such a leader is stuck. One that names a leader for which a channel can be made leads on to
the leader. And one that asks for the members recovers, if the client is well. -/
theorem comes_back_unless_stuck (x : ClientRun) :
    (∀ (m : Nat) (leader : EndPoint), (x.state m).client.provider.trigger = .newLeader leader →
      x.factory.AlwaysRefuses leader →
      x.StuckOn leader (x.state m).client.provider.generation m)
    ∧ (∀ (m : Nat) (leader : EndPoint),
      (x.state m).client.provider.trigger = .newLeader leader →
      (∀ request, x.factory.refusal? request leader = none) →
      (Client.settingsOf x.config).CanNegotiate →
      x.LeadsOn leader (x.state m).client.provider.generation m)
    ∧ ∀ (m : Nat) (seeds : List EndPoint), (x.state m).client.provider.trigger = .rediscover →
      x.IsWell seeds (x.state m).client.provider.generation m →
      x.Recovers (x.state m).client.provider.generation m :=
  ⟨(hint_leads_on_or_sticks x).1, (hint_leads_on_or_sticks x).2, fun _ _ ht hwell =>
    hwell.recovers ht⟩

/-! ### A client that is served -/

/-- What happens to a client until its first caller is given a connection; nothing happens after
that. -/
def servedRun : ClientRun where
  options := { gossipSeeds := ["s:1"], negotiate := some false }
  config := seedConfig
  built := build_seedConfig
  factory := .refusing ["bad"]
  client := seedClient
  made := new_seedClient
  events := fun n => if n < 13 then hintedEvents.getD n (.cancel 1) else .cancel 1

/-- Once the caller has its connection everything is at rest. -/
theorem state_servedRun (k : Nat) : servedRun.state (13 + k) = servedRun.state 13 := by
  induction k with
  | zero => rfl
  | succ k ih =>
    have hevent : servedRun.events (13 + k) = .cancel 1 := if_neg (by omega)
    show (servedRun.state (13 + k)).perform (servedRun.events (13 + k)) = _
    rw [hevent, ih]
    rfl

/-- Channels can be made for its seed. -/
theorem builds_servedRun : servedRun.factory.Builds ⟨"s", 1⟩ := fun _ => rfl

/-- The seed answers with a table that lists the seed itself. -/
theorem isGood_servedRun (asked : EndPoint) :
    (GossipOutcome.success [⟨"n", ⟨"s", 1⟩, .leader, true⟩]).IsGood servedRun.factory
      [⟨"s", 1⟩] asked where
  serves := by
    intro members hmembers
    cases hmembers
    exact
      { ne_nil := List.cons_ne_nil _ _
        isEligible := by decide
        builds := fun member hmember => List.mem_singleton.1 hmember ▸ builds_servedRun }
  exists_success := fun _ => ⟨_, rfl⟩

theorem isBenign_hintedEvents (d : Deployment) :
    ∀ event ∈ hintedEvents, event.IsBenign servedRun.factory [⟨"s", 1⟩] d := by
  have hshuffle : ∀ members : List Member, (id members).Perm members := fun _ => .refl _
  have harrange : ∀ contacts : List Contact, (id contacts).Perm contacts := fun _ => .refl _
  simp only [hintedEvents, List.forall_mem_cons]
  exact ⟨trivial, trivial, hshuffle, hshuffle, hshuffle, hshuffle, harrange, harrange,
    fun _ asked _ _ _ => isGood_servedRun asked.1, hshuffle, hshuffle, hshuffle, trivial, trivial,
    List.forall_mem_nil _⟩

theorem isWell_servedRun : servedRun.IsWell [⟨"s", 1⟩] 0 0 where
  generation_eq := rfl
  topology_eq := rfl
  builds := fun seed hseed => List.mem_singleton.1 hseed ▸ builds_servedRun
  attempts := by decide
  canNegotiate := nofun
  resolver := by
    intro r hr
    cases hr
    exact ⟨rfl, nofun⟩
  benign := by
    intro n _
    show (if n < 13 then hintedEvents.getD n (.cancel 1) else .cancel 1).IsBenign _ _ _
    split
    · rename_i hn
      have hlt : n < hintedEvents.length := hn.trans (by decide)
      rw [List.getD_eq_getElem _ _ hlt]
      exact isBenign_hintedEvents _ _ (List.getElem_mem hlt)
    · trivial

/-- Nothing is left to be done once the caller is served. -/
theorem keepsGoing_servedRun : servedRun.KeepsGoing 0 where
  calls := by
    refine fun n i _ => ⟨13 + n, Nat.le_add_left n 13, fun q hq hlive => ?_⟩
    have hover : ∀ q ∈ (servedRun.state 13).calls, q.phase.isLive = false := by decide +kernel
    rw [state_servedRun] at hq
    cases (hover q (List.mem_of_getElem? hq)).symm.trans hlive
  runs := by
    refine fun n run _ => ⟨13 + n, Nat.le_add_left n 13, fun hw => ?_⟩
    have hover : ∀ r ∈ (servedRun.state 13).client.provider.runs, r.phase.isEnded = true := by
      decide +kernel
    rw [state_servedRun] at hw
    obtain ⟨r, hr, hphase⟩ := Option.map_eq_some_iff.1 hw
    have hended := hover r (List.mem_of_getElem? hr)
    rw [hphase] at hended
    cases hended
  resolutions := by
    refine fun n id _ => ⟨13 + n, Nat.le_add_left n 13, fun phase hphase hopen => ?_⟩
    have hover : ∀ r ∈ (servedRun.state 13).client.site.resolver, ∀ t ∈ r.tasks,
        t.phase.isOver = true := by decide +kernel
    rw [state_servedRun] at hphase
    obtain ⟨r, hr, htask⟩ := Option.bind_eq_some_iff.1 hphase
    obtain ⟨t, ht, rfl⟩ := Option.map_eq_some_iff.1 htask
    cases (hover r hr t (List.mem_of_getElem? ht)).symm.trans hopen

/-- Nobody interferes with it. -/
theorem isUndisturbed_servedRun (n : Nat) : servedRun.IsUndisturbed 0 n := by
  have hserved : servedRun.IsUndisturbed 0 13 :=
    ⟨by decide +kernel, by decide +kernel, by decide +kernel, by decide +kernel⟩
  rcases Nat.le_total n 13 with hle | hle
  · exact hserved.of_le hle (Nat.zero_le _)
  · obtain ⟨k, rfl⟩ := Nat.exists_eq_add_of_le hle
    obtain ⟨hgeneration, hprovider, hclient, hcache⟩ := hserved
    constructor <;> rw [state_servedRun] <;> assumption

/-- **There are clients that recover**: the caller of this one asks outside a pause and is
answered. -/
theorem servedRun_recovers : servedRun.Recovers 0 0 ∧ servedRun.AsksOutsidePause 0 1
    ∧ ∃ k q, (servedRun.state k).calls[0]? = some q
      ∧ (q.phase = .gone ∨ q.isCancelled = true ∨ ∃ result,
        servedRun.IsAnswered 0 1 k result) := by
  have hrecovers : servedRun.Recovers 0 0 :=
    (comes_back_unless_stuck servedRun).2.2 0 [⟨"s", 1⟩] rfl isWell_servedRun
  have hasks : servedRun.AsksOutsidePause 0 1 :=
    ⟨⟨.asking, false⟩, 0, 0, rfl, rfl, rfl, nofun⟩
  exact ⟨hrecovers, hasks, hrecovers.returns keepsGoing_servedRun 0 1 (Nat.zero_le 1)
    (fun k _ => isUndisturbed_servedRun k) hasks⟩

end ClientRun

end ClusterLink
