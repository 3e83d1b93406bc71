import ClusterLink.Proofs.Client.Dismissal
import ClusterLink.Proofs.Client.Hints

/-!
# Shutting a client down

What is on its way comes to an end when a client has gone down. A resolution is over with its next
step. A run is over after three steps of its own, since it is cancelled, the cache is closed, and
the resolver turns it away. Then its waiters are told so in two steps, and the waiters of a
resolution as well. Together with what callers are told this makes a shutdown final
(`ClientRun.shutdown_is_final`).

Whether a client was shut down is told by its token, and a shutdown that finds the token cancelled
does nothing. The token can be had by anybody. So a client whose token was cancelled by hand counts
as shut down while its parts work on, and cannot be shut down any more; it goes down only if its
parts are taken down one by one.
-/

namespace ClusterLink

/-! ## Runs on their way -/

/-- How many more steps a cancelled attempt takes at most, once the parts refuse work. -/
def ConnectPhase.stepsLeft : ConnectPhase → Nat
  | .resolving .joining => 3
  | .waiting | .resolving (.waiting _) | .resolving (.leaving _ (.ok _)) => 2
  | .resolving _ | .chosen _ | .linked .. | .negotiating _ => 1
  | .brokenDown | .ended _ => 0

theorem ConnectPhase.stepsLeft_le_three (phase : ConnectPhase) : phase.stepsLeft ≤ 3 := by
  unfold stepsLeft
  split <;> decide

theorem ConnectPhase.isOver_of_stepsLeft {phase : ConnectPhase} (h : phase.stepsLeft = 0) :
    phase.isOver = true := by
  unfold stepsLeft at h
  split at h <;> first | rfl | cases h

theorem ConnectPhase.stepsLeft_of_isOver {phase : ConnectPhase} (h : phase.isOver = true) :
    phase.stepsLeft = 0 := by
  cases phase with
  | brokenDown | ended => rfl
  | _ => cases h

theorem ConnectPhase.stepsLeft_takeIn_le (phase : ConnectPhase)
    (answer : Option (Except Status MethodTable)) :
    (phase.takeIn answer).stepsLeft ≤ phase.stepsLeft := by
  unfold takeIn
  split
  · exact Nat.zero_le 1
  · exact Nat.le_refl _

/-- **A step brings a cancelled attempt nearer to its end**, once the parts refuse work. -/
theorem ConnectPhase.Moves.stepsLeft_lt {settings : ConnectSettings} {trigger : Trigger}
    {shuffle : List Member → List Member} {s s' : Site} {phase phase' : ConnectPhase}
    (h : Moves settings trigger true shuffle s phase phase' s')
    (hcache : s.cache.isDisposed = true)
    (hresolver : ∀ r, s.resolver = some r → r.isShutDown = true) (hproper : phase.IsProper) :
    phase.stepsLeft = 0 ∨ phase'.stepsLeft < phase.stepsLeft := by
  have hrefused : ∀ node handle cache, s.cache.getOrCreate node ≠ (.ok handle, cache) := by
    intro node handle cache hlink
    rw [Cache.getOrCreate, if_pos hcache] at hlink
    cases hlink
  cases h with
  | stays phase hstays =>
    rcases hstays with hover | ⟨call, r, rfl, hr, hnone⟩ | ⟨hc, -⟩
    · exact .inl (stepsLeft_of_isOver hover)
    · -- a cancelled call always has a step to take
      cases call with
      | admitted =>
        rw [Resolver.advanceCall] at hnone
        split at hnone <;> cases hnone
      | done | gone => exact hproper.elim
      | _ => cases hnone
    · cases hc
  | follows | visits | resolves => exact .inr (Nat.lt_succ_self 1)
  | calls call call' r r' hr hcall hproper' =>
    cases Resolver.callStep_of_advanceCall hcall with
    | refused | disposed | left => exact hproper'.elim
    | entered hc | heard _ _ hc => cases hc
    | passed hs => cases hs.symm.trans (hresolver r hr)
    | joined => exact .inr (Nat.lt_succ_self 2)
    | gaveUp => exact .inr (Nat.lt_succ_self 1)
  | hears call result r r' hr hcall =>
    cases Resolver.callStep_of_advanceCall hcall with
    | refused | disposed => exact .inr Nat.zero_lt_one
    | left id =>
      cases result with
      | error e => exact .inr Nat.zero_lt_one
      | ok resolution =>
        refine .inr ?_
        rcases ofResolution_cases settings.selector shuffle (.ok resolution) with
          ⟨error, h⟩ | ⟨node, h⟩
        · rw [h]
          exact Nat.succ_pos 1
        · rw [h]
          exact Nat.lt_succ_self 1
  | lost call =>
    refine .inr ?_
    show 0 < stepsLeft (.resolving call)
    unfold stepsLeft
    split <;> first | decide | contradiction
  | links node handle cache hlink => exact absurd hlink (hrefused node handle cache)
  | prepares node handle cache timeout hlink => exact absurd hlink (hrefused node handle cache)
  | refused | breaks => exact .inr Nat.zero_lt_one
  | queries handle timeout deadline hd hc => cases hc
  | heeds phase hc hphase =>
    rcases hphase with ⟨handle, timeout, rfl⟩ | ⟨handle, rfl⟩ <;> exact .inr Nat.zero_lt_one

/-! ## Calls on their way -/

/-- How many more steps a call for the connection takes at most, once the provider is disposed of
and the run that it waits for is over. -/
def CallPhase.stepsLeft : CallPhase → Nat
  | .forcing _ | .waiting _ => 2
  | .asking => 1
  | .done _ | .brokenDown | .gone => 0

/-- How many more steps a call for a refresh takes at most, once the resolver was shut down and the
resolution that it waits for is over. -/
def RefreshCall.stepsLeft : RefreshCall → Nat
  | .joining => 3
  | .fresh | .waiting _ => 2
  | .admitted | .leaving .. => 1
  | .done _ | .gone => 0

/-- Whether the call is over. -/
def RefreshCall.isOver : RefreshCall → Bool
  | .done _ | .gone => true
  | _ => false

theorem RefreshCall.isOver_of_stepsLeft {call : RefreshCall} (h : call.stepsLeft = 0) :
    call.isOver = true := by
  cases call <;> first | rfl | cases h

namespace Provider

end Provider

namespace ClientRun

variable {x : ClientRun} {m n : Nat}

/-- **An attempt comes nearer to its end** with every step of its run once the client is down, and
nothing takes it away from there. -/
theorem stepsLeft_attempt_succ (h : (x.state n).client.IsDown) {run : Nat} {r : Run}
    (hr : (x.state n).client.provider.runs[run]? = some r) (hw : r.phase = .working) :
    ((x.state (n + 1)).client.attempt run).stepsLeft
        ≤ ((x.state n).client.attempt run).stepsLeft
      ∧ ((x.events n).stepsRun? = some run → ((x.state (n + 1)).client.attempt run).stepsLeft
        < ((x.state n).client.attempt run).stepsLeft) := by
  have hopen := (x.runsFit_state n).working run r hr hw
  have hattempted := x.attempted n run
  generalize (x.state (n + 1)).client.attempt run = phase' at hattempted ⊢
  cases hattempted with
  | stays hother =>
    refine ⟨Nat.le_refl _, fun hstep => ?_⟩
    generalize x.events n = event at hother hstep
    cases event with
    | stepRun k shuffle now draw =>
      cases hstep
      exact absurd rfl (hother run shuffle now draw rfl (by rw [hr]; nofun))
    | _ => cases hstep
  | steps r' shuffle now draw phase' hevent hr' hmoves =>
    rw [isRunCancelled_of_isDown h] at hmoves
    have hlt :=
      (hmoves.stepsLeft_lt h.cache h.resolver ((x.runsFit_state n).proper run)).resolve_left
        fun hzero => by cases (ConnectPhase.isOver_of_stepsLeft hzero).symm.trans hopen
    exact ⟨Nat.le_of_lt hlt, fun _ => hlt⟩
  | answers answer now draw hevent =>
    refine ⟨ConnectPhase.stepsLeft_takeIn_le _ answer, fun hstep => ?_⟩
    rw [hevent] at hstep
    cases hstep

/-- **A run is over after three steps of its own** once the client is down. -/
theorem ne_working_of_count (h : (x.state m).client.IsDown) (run : Nat)
    (hsteps : 3 ≤ Nat.count (fun k => (x.events (m + k)).stepsRun? = some run) n) :
    (x.state (m + n)).client.provider.phase? run ≠ some .working := by
  rcases Nat.lt_or_ge run (x.state m).client.provider.runs.length with hrun | hnone
  · exact stops_of_count ConnectPhase.stepsLeft hrun
      (fun k _ r hr hw => stepsLeft_attempt_succ (isDown_of_le h (Nat.le_add_right m k)) hr hw)
      ((ConnectPhase.stepsLeft_le_three _).trans hsteps) ConnectPhase.isOver_of_stepsLeft
  · -- there is no such run, and none starts any more
    rw [← (ClientRun.isAtRest h (Nat.le_add_right m n)).length_runs_eq] at hnone
    rw [Provider.phase?, List.getElem?_eq_none hnone]
    simp

/-- A client keeps its resolver. -/
theorem exists_resolver (hmn : m ≤ n) {r : Resolver}
    (hr : (x.state m).client.site.resolver = some r) :
    ∃ r', (x.state n).client.site.resolver = some r' := by
  rw [← Option.isSome_iff_exists]
  induction n, hmn using Nat.le_induction with
  | base => rw [hr]; rfl
  | succ n hmn ih => rw [(x.change_site n).isSome_resolver, ih]

end ClientRun

end ClusterLink
