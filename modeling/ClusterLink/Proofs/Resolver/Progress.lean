import ClusterLink.Proofs.Connection.Refusals
import ClusterLink.Resolver.Refresh
import ClusterLink.Resolver.Steps

/-!
# What the work on a resolution changes

A resolution that goes on leaves most of the resolver as it is (`Resolver.Progress`): it starts
nothing, calls nothing off, and may at most make room for the next resolution. A resolution that is
over stays as it is, and one that ends in `Error.cancelled` was cancelled – unless the channel
factory refuses endpoints with that very error.
-/

namespace ClusterLink

/-- Whether the resolution is over, with a result for its waiters. -/
def ResolutionPhase.isOver : ResolutionPhase → Bool
  | .brokenDown | .ended _ => true
  | _ => false

namespace Resolver

/-- A resolution may end in `Error.cancelled`: it was cancelled, or the factory answers so. -/
def MayEndCancelled (r : Resolver) (cache : Cache) (id : Nat) : Prop :=
  r.isCancelled id = true ∨ cache.channels.factory.MayRefuse .cancelled

/-- **How one resolution goes on**: it is called off by nobody, and is over at most once. -/
structure TaskProgress (r : Resolver) (cache : Cache) (id : Nat) (t t' : ResolutionTask) :
    Prop where
  isCalledOff_eq : t'.isCalledOff = t.isCalledOff
  phase_eq : t.phase.isOver = true → t'.phase = t.phase
  cancelled : t'.phase = .ended (.error .cancelled) →
    t.phase = .ended (.error .cancelled) ∨ r.MayEndCancelled cache id

/-- **How a resolver goes on** with its resolutions. -/
structure Progress (cache : Cache) (r r' : Resolver) : Prop where
  refresh_eq : r'.refresh = r.refresh
  isShutDown_eq : r'.isShutDown = r.isShutDown
  inFlight_eq : r'.inFlight = r.inFlight ∨ r'.inFlight = none
    ∧ ∀ (f : InFlight) (t : ResolutionTask), r.inFlight = some f →
      r'.tasks[f.id]? = some t → t.phase.isOver = true
  length_eq : r'.tasks.length = r.tasks.length
  task : ∀ (id : Nat) (t : ResolutionTask), r.tasks[id]? = some t →
    ∃ t', r'.tasks[id]? = some t' ∧ TaskProgress r cache id t t'

namespace Progress

variable {cache : Cache} {r r' r'' : Resolver}

theorem refl (cache : Cache) (r : Resolver) : Progress cache r r where
  refresh_eq := rfl
  isShutDown_eq := rfl
  inFlight_eq := .inl rfl
  length_eq := rfl
  task := fun _ t ht => ⟨t, ht, rfl, fun _ => rfl, .inl⟩

/-- A resolution is cancelled before the progress if it is so after it. -/
theorem isCancelled_eq (h : Progress cache r r') {id : Nat} {t : ResolutionTask}
    (ht : r.tasks[id]? = some t) : r'.isCancelled id = r.isCancelled id := by
  obtain ⟨t', ht', htask⟩ := h.task id t ht
  simp [isCancelled, h.isShutDown_eq, ht, ht', htask.isCalledOff_eq]

theorem trans (h : Progress cache r r') (h' : Progress cache r' r'') : Progress cache r r'' where
  refresh_eq := h'.refresh_eq.trans h.refresh_eq
  isShutDown_eq := h'.isShutDown_eq.trans h.isShutDown_eq
  inFlight_eq := by
    have hstays : (∀ (f : InFlight) (t : ResolutionTask), r.inFlight = some f →
          r'.tasks[f.id]? = some t → t.phase.isOver = true) →
        ∀ (f : InFlight) (t : ResolutionTask), r.inFlight = some f →
        r''.tasks[f.id]? = some t →
          t.phase.isOver = true := by
      intro hover f t hf ht
      have hlt : f.id < r'.tasks.length := h'.length_eq ▸ (List.getElem?_eq_some_iff.1 ht).1
      obtain ⟨s, hs, htask⟩ := h'.task f.id _ (List.getElem?_eq_getElem hlt)
      cases ht.symm.trans hs
      have hbefore := hover f _ hf (List.getElem?_eq_getElem hlt)
      rw [htask.phase_eq hbefore]
      exact hbefore
    rcases h.inFlight_eq with hsame | ⟨hnone, hover⟩
    · rcases h'.inFlight_eq with hsame' | ⟨hnone', hover'⟩
      · exact .inl (hsame'.trans hsame)
      · exact .inr ⟨hnone', fun f t hf => hover' f t (hsame.trans hf)⟩
    · refine .inr ⟨?_, hstays hover⟩
      rcases h'.inFlight_eq with hsame' | ⟨hnone', -⟩
      · exact hsame'.trans hnone
      · exact hnone'
  length_eq := h'.length_eq.trans h.length_eq
  task := by
    intro id t ht
    obtain ⟨t', ht', htask⟩ := h.task id t ht
    obtain ⟨t'', ht'', htask'⟩ := h'.task id t' ht'
    refine ⟨t'', ht'', htask'.isCalledOff_eq.trans htask.isCalledOff_eq, fun hover => ?_,
      fun hcancelled => ?_⟩
    · have hphase := htask.phase_eq hover
      exact (htask'.phase_eq (hphase ▸ hover)).trans hphase
    · rcases htask'.cancelled hcancelled with hcancelled | hmay
      · exact htask.cancelled hcancelled
      · exact .inr (hmay.imp_left fun hc => (h.isCancelled_eq ht).symm.trans hc)

/-- What the resolver keeps beside its resolutions may change with them. -/
theorem of_tasks_eq (h : Progress cache r r') (htasks : r''.tasks = r'.tasks)
    (hrefresh : r''.refresh = r'.refresh) (hshut : r''.isShutDown = r'.isShutDown)
    (hflight : r''.inFlight = r'.inFlight ∨ r''.inFlight = none
      ∧ ∀ (f : InFlight) (t : ResolutionTask), r.inFlight = some f →
        r'.tasks[f.id]? = some t → t.phase.isOver = true) : Progress cache r r'' where
  refresh_eq := hrefresh.trans h.refresh_eq
  isShutDown_eq := hshut.trans h.isShutDown_eq
  inFlight_eq := by
    rcases hflight with hflight | hflight
    · rw [hflight, htasks]
      exact h.inFlight_eq
    · exact .inr (htasks ▸ hflight)
  length_eq := (congrArg List.length htasks).trans h.length_eq
  task := htasks ▸ h.task

end Progress

/-! ## Each step makes progress -/

section

variable (cache : Cache) (r : Resolver) {id : Nat}

theorem progress_modify (f : ResolutionTask → ResolutionTask)
    (h : ∀ t, r.tasks[id]? = some t → TaskProgress r cache id t (f t)) :
    Progress cache r { r with tasks := r.tasks.modify id f } where
  refresh_eq := rfl
  isShutDown_eq := rfl
  inFlight_eq := .inl rfl
  length_eq := List.length_modify ..
  task := by
    intro k t ht
    refine ⟨if id = k then f t else t, by simp [List.getElem?_modify, ht], ?_⟩
    split
    · rename_i hk
      subst hk
      exact h t ht
    · exact ⟨rfl, fun _ => rfl, .inl⟩

theorem progress_setStarted (id : Nat) (now : Instant) :
    Progress cache r (r.setStarted id now) :=
  progress_modify cache r _ fun _ _ => ⟨rfl, fun _ => rfl, .inl⟩

variable {cache r} {phase : ResolutionPhase} (hphase : r.phase? id = some phase)
  (hover : phase.isOver = false)

include hphase hover

theorem progress_setPhase {phase' : ResolutionPhase}
    (hcancelled : phase' = .ended (.error .cancelled) → r.MayEndCancelled cache id) :
    Progress cache r (r.setPhase id phase') := by
  refine progress_modify cache r _ fun t ht =>
    ⟨rfl, fun hover' => ?_, fun h => .inr (hcancelled h)⟩
  rw [phase?, ht] at hphase
  cases hphase
  cases hover.symm.trans hover'

theorem progress_finish (attempts : Nat) {result : Except Error Resolution} (now : Instant)
    (hcancelled : result = .error .cancelled → r.MayEndCancelled cache id) :
    Progress cache r (r.finish id attempts result now) := by
  have hset : Progress cache r (r.setPhase id (.ended result)) :=
    progress_setPhase hphase hover fun h => hcancelled (ResolutionPhase.ended.inj h)
  have hflight : (if r.inFlight.any (·.id == id) then none else r.inFlight) = r.inFlight
      ∨ (if r.inFlight.any (·.id == id) then none else r.inFlight) = none
        ∧ ∀ (f : InFlight) (t : ResolutionTask), r.inFlight = some f →
          (r.setPhase id (.ended result)).tasks[f.id]? = some t → t.phase.isOver = true := by
    split
    · rename_i hany
      refine .inr ⟨rfl, fun f t hf ht => ?_⟩
      rw [hf] at hany
      have hid : f.id = id := eq_of_beq hany
      rw [hid, setPhase, List.getElem?_modify_eq] at ht
      obtain ⟨t₀, -, rfl⟩ := Option.map_eq_some_iff.1 ht
      rfl
    · exact .inl rfl
  unfold finish
  split
  · exact .refl cache r
  · dsimp only
    split <;> split <;> exact hset.of_tasks_eq rfl rfl rfl hflight

theorem progress_cancel (attempts : Nat) (now : Instant) (hc : r.isCancelled id = true) :
    Progress cache r (r.finish id attempts (.error .cancelled) now) :=
  progress_finish hphase hover attempts now fun _ => .inl hc

theorem progress_beginAttempt (attempt : Nat) (arrange : List Contact → List Contact)
    (now : Instant) : Progress cache r (r.beginAttempt cache id attempt arrange now) := by
  unfold beginAttempt
  split
  · rename_i error he
    refine progress_finish hphase hover attempt now fun h => ?_
    cases h
    cases Cache.error_of_snapshot he
  · exact progress_setPhase hphase hover nofun

theorem progress_failAttempt (attempt : Nat) (failures : List String) (now : Instant)
    (draw : Float) : Progress cache r (r.failAttempt cache id attempt failures now draw).1 := by
  unfold failAttempt
  split
  · rename_i error cache' he
    refine progress_finish hphase hover attempt now fun h => ?_
    cases h
    -- the cache itself answers that it is disposed of, the factory may answer anything
    rcases Cache.error_of_reconcile he with h | h
    · cases h
    · exact .inr h
  · split
    · cases ht : r.tasks[id]? with
      | none => exact .refl cache r
      | some task =>
        refine progress_modify cache r _ fun t ht' => ⟨rfl, fun hover' => ?_, nofun⟩
        rw [phase?, ht'] at hphase
        cases hphase
        cases hover.symm.trans hover'
    · show Progress cache r (r.finish id attempt (.error (exhausted attempt failures)) now)
      exact progress_finish hphase hover attempt now (fun h => nomatch h)

theorem progress_succeed (attempt : Nat) (source : EndPoint) (members : List Member)
    (now : Instant) : Progress cache r (r.succeed cache id attempt source members now).1 := by
  unfold succeed
  split
  · rename_i error cache' he
    refine progress_finish hphase hover attempt now fun h => ?_
    cases h
    rcases Cache.error_of_reconcile he with h | h
    · cases h
    · exact .inr h
  · split
    · exact .refl cache r
    · show Progress cache r (r.finish id attempt (.ok _) now)
      exact progress_finish hphase hover attempt now (fun h => nomatch h)

end

/-- **A step of a resolution is progress.** -/
theorem progress_step (cache : Cache) (r : Resolver) (id : Nat) (resumed : Bool)
    (arrange : List Contact → List Contact) (now : Instant) (draw : Float) :
    Progress cache r (r.step cache id resumed arrange now draw).2.1 := by
  unfold step
  cases hphase : r.phase? id with
  | none => exact .refl cache r
  | some phase =>
    cases phase with
    | waiting =>
      have hphase' : (r.setStarted id now).phase? id = some .waiting := by
        simpa [phase?, setStarted, List.getElem?_modify, Option.map_map, Function.comp_def]
          using hphase
      exact (progress_setStarted cache r id now).trans
        (progress_beginAttempt hphase' rfl 1 arrange now)
    | ready attempt left failures =>
      cases left with
      | nil => exact progress_failAttempt hphase rfl attempt failures now draw
      | cons contact left =>
        dsimp only
        split
        · rename_i hc
          exact progress_cancel hphase rfl attempt now hc
        · exact progress_setPhase hphase rfl nofun
    | asking attempt asked left failures =>
      dsimp only
      split
      · rename_i hc
        exact progress_cancel hphase rfl attempt now hc
      · exact .refl cache r
    | pausing attempt delay =>
      dsimp only
      split
      · rename_i hc
        exact progress_cancel hphase rfl attempt now hc
      · split
        · exact progress_beginAttempt hphase rfl (attempt + 1) arrange now
        · exact .refl cache r
    | brokenDown | ended => exact .refl cache r

/-- **Taking in an answer is progress.** -/
theorem progress_takeIn (cache : Cache) (r : Resolver) (id : Nat) (outcome : GossipOutcome)
    (now : Instant) : Progress cache r (r.takeIn cache id outcome now).1 := by
  unfold takeIn
  split
  · rename_i attempt asked left failures hphase
    split
    · rename_i hc
      exact progress_cancel hphase rfl attempt now hc
    · have hlog : Progress cache r { r with log := r.log ++ [askedReport asked.1 outcome] } :=
        (Progress.refl cache r).of_tasks_eq rfl rfl rfl (.inl rfl)
      have hphase' : { r with log := r.log ++ [askedReport asked.1 outcome] }.phase? id
          = some (.asking attempt asked left failures) := hphase
      dsimp only
      split
      · exact hlog.trans (progress_succeed hphase' rfl attempt asked.1 _ now)
      · exact hlog.trans (progress_setPhase hphase' rfl (fun h => nomatch h))
  · exact .refl cache r

/-- **A breakdown is progress.** -/
theorem progress_breakDown (cache : Cache) (r : Resolver) (id : Nat) :
    Progress cache r (r.breakDown id) := by
  unfold breakDown
  split
  · rename_i hphase
    split
    · exact .refl cache r
    · exact progress_setPhase hphase rfl nofun
  · exact .refl cache r

/-! ## What becomes of the cache -/

theorem cache_failAttempt (r : Resolver) (cache : Cache) (id attempt : Nat)
    (failures : List String) (now : Instant) (draw : Float) :
    (r.failAttempt cache id attempt failures now draw).2 = (cache.reconcile r.seeds).2 := by
  unfold failAttempt
  split
  · rename_i hc
    rw [hc]
  · rename_i hc
    rw [hc]
    split
    · split <;> rfl
    · rfl

theorem cache_succeed (r : Resolver) (cache : Cache) (id attempt : Nat) (source : EndPoint)
    (members : List Member) (now : Instant) :
    (r.succeed cache id attempt source members now).2
      = (cache.reconcile (EndPoint.distinct (members.map (·.endpoint)))).2 := by
  unfold succeed
  split
  · rename_i hc
    rw [hc]
  · rename_i hc
    rw [hc]
    split <;> rfl

/-- **A step of a resolution** leaves the cache as it is, or puts the seeds into it. -/
theorem cache_step (cache : Cache) (r : Resolver) (id : Nat) (resumed : Bool)
    (arrange : List Contact → List Contact) (now : Instant) (draw : Float) :
    (r.step cache id resumed arrange now draw).2.2 = cache
      ∨ (r.step cache id resumed arrange now draw).2.2 = (cache.reconcile r.seeds).2 := by
  unfold step
  split
  · exact .inl rfl
  · exact .inr (cache_failAttempt r cache id _ _ now draw)
  · split <;> exact .inl rfl
  · split <;> exact .inl rfl
  · split
    · exact .inl rfl
    · split <;> exact .inl rfl
  · exact .inl rfl

/-- **Taking in an answer** leaves the cache as it is, or puts the members into it. -/
theorem cache_takeIn (cache : Cache) (r : Resolver) (id : Nat) (outcome : GossipOutcome)
    (now : Instant) :
    (r.takeIn cache id outcome now).2 = cache
      ∨ ∃ members, outcome = .success members ∧ (r.takeIn cache id outcome now).2
        = (cache.reconcile (EndPoint.distinct (members.map (·.endpoint)))).2 := by
  unfold takeIn
  split
  · split
    · exact .inl rfl
    · dsimp only
      split
      · rename_i members
        exact .inr ⟨members, rfl, cache_succeed _ cache id _ _ members now⟩
      · exact .inl rfl
  · exact .inl rfl

end Resolver

end ClusterLink
