import ClusterLink.Proofs.Resolver.Turns

/-!
# The resolution in flight

A resolution that goes on and was not called off is the one in flight (`Resolver.WorksInFlight`), so
that there is one of them at most, however many others are still about to notice that they were
called off. A resolution that has ended is in flight no more (`Resolver.MakesRoom`); one whose task
broke down stays in flight until its last waiter has left.
-/

namespace ClusterLink

namespace Resolver

/-- **Only the resolution in flight goes on**, apart from those that were called off. -/
def WorksInFlight (r : Resolver) : Prop :=
  ∀ (id : Nat) (t : ResolutionTask), r.tasks[id]? = some t → t.phase.isOver = false →
    t.isCalledOff = false → ∃ f, r.inFlight = some f ∧ f.id = id

namespace WorksInFlight

variable {cache : Cache} {r r' : Resolver}

/-- What else a resolver keeps does not matter. -/
theorem of_eq (h : r.WorksInFlight) (hflight : r'.inFlight = r.inFlight)
    (htasks : r'.tasks = r.tasks) : r'.WorksInFlight := by
  rw [WorksInFlight, hflight, htasks]
  exact h

/-- **A resolution that makes room for the next one is over.** -/
theorem progress (h : r.WorksInFlight) (hp : Progress cache r r') : r'.WorksInFlight := by
  intro id t' ht' hover hoff
  have hlt : id < r.tasks.length := hp.length_eq ▸ (List.getElem?_eq_some_iff.1 ht').1
  obtain ⟨s, hs, htask⟩ := hp.task id _ (List.getElem?_eq_getElem hlt)
  cases ht'.symm.trans hs
  have hbefore : (r.tasks[id]).phase.isOver = false := Bool.eq_false_iff.2 fun hended => by
    rw [htask.phase_eq hended] at hover
    cases hended.symm.trans hover
  obtain ⟨f, hf, hid⟩ := h id _ (List.getElem?_eq_getElem hlt) hbefore
    (htask.isCalledOff_eq.symm.trans hoff)
  rcases hp.inFlight_eq with hsame | ⟨-, hended⟩
  · exact ⟨f, hsame.trans hf, hid⟩
  · cases hover.symm.trans (hended f t' hf (hid ▸ ht'))

/-- A resolution is started only if none is in flight. -/
theorem join (h : r.WorksInFlight) : r.join.2.WorksInFlight := by
  unfold Resolver.join
  cases hf : r.inFlight with
  | some f =>
    intro id t ht hover hoff
    obtain ⟨f', hf', hid⟩ := h id t ht hover hoff
    cases hf.symm.trans hf'
    exact ⟨_, rfl, hid⟩
  | none =>
    intro id t ht hover hoff
    have ht' : (r.tasks ++ [{ backoff := .start r.settings.backoff }])[id]? = some t := ht
    rw [List.getElem?_append] at ht'
    split at ht'
    · obtain ⟨f, hf', -⟩ := h id t ht' hover hoff
      cases hf.symm.trans hf'
    · rename_i hle
      have hlt := (List.getElem?_eq_some_iff.1 ht').1
      rw [List.length_singleton] at hlt
      exact ⟨_, rfl, (show r.tasks.length = id by omega)⟩

/-- The resolution that the last waiter leaves is called off. -/
theorem leave (h : r.WorksInFlight) (id : Nat) : (r.leave id).WorksInFlight := by
  unfold Resolver.leave
  cases hf : r.inFlight with
  | none => exact h
  | some f =>
    dsimp only
    split
    · exact h
    · rename_i hid
      split
      · intro k t ht hover hoff
        obtain ⟨f', hf', hk⟩ := h k t ht hover hoff
        cases hf.symm.trans hf'
        exact ⟨_, rfl, hk⟩
      · intro k t ht hover hoff
        have ht' : (r.tasks.modify id fun t => { t with isCalledOff := true })[k]? = some t := ht
        rw [List.getElem?_modify] at ht'
        obtain ⟨t₀, ht₀, rfl⟩ := Option.map_eq_some_iff.1 ht'
        by_cases hk : id = k
        · rw [if_pos hk] at hoff
          cases hoff
        · rw [if_neg hk] at hover hoff
          obtain ⟨f', hf', hk'⟩ := h k t₀ ht₀ hover hoff
          cases hf.symm.trans hf'
          exact absurd ((Decidable.not_not.1 hid).symm.trans hk') hk

theorem quit (h : r.WorksInFlight) (call : RefreshCall) : (r.quit call).WorksInFlight := by
  unfold Resolver.quit
  split
  · exact h
  · exact h.leave _

theorem advanceCall (h : r.WorksInFlight) {call call' : RefreshCall} {isCancelled : Bool}
    (hcall : r.advanceCall call isCancelled = some (call', r')) : r'.WorksInFlight := by
  cases callStep_of_advanceCall hcall with
  | joined => exact h.join
  | left id => exact h.leave id
  | _ => exact h

end WorksInFlight

/-- **A resolution that has ended makes room for the next one.** -/
structure MakesRoom (r : Resolver) : Prop where
  phase?_ne : ∀ f, r.inFlight = some f → ∀ result, r.phase? f.id ≠ some (.ended result)

namespace MakesRoom

variable {r r' : Resolver} {cache : Cache}

theorem of_eq (h : r.MakesRoom) (hflight : r'.inFlight = r.inFlight) (htasks : r'.tasks = r.tasks) :
    r'.MakesRoom where
  phase?_ne := by
    simp only [phase?, hflight, htasks]
    exact h.phase?_ne

/-- A resolution that does not end takes no room away. -/
theorem modify (h : r.MakesRoom) (id : Nat) {f : ResolutionTask → ResolutionTask}
    (hf : ∀ t result, (f t).phase = .ended result → t.phase = .ended result) :
    MakesRoom { r with tasks := r.tasks.modify id f } := by
  refine ⟨fun g hg result hphase => ?_⟩
  rw [phase?_modify] at hphase
  obtain ⟨t, ht, hended⟩ := Option.map_eq_some_iff.1 hphase
  refine h.phase?_ne g hg result ?_
  rw [phase?, ht, Option.map_some]
  split at hended
  · rw [hf t result hended]
  · rw [hended]

theorem setPhase (h : r.MakesRoom) (id : Nat) {phase : ResolutionPhase}
    (hphase : ∀ result, phase ≠ .ended result) : (r.setPhase id phase).MakesRoom :=
  h.modify id fun _ result hended => absurd hended (hphase result)

theorem finish (h : r.MakesRoom) (id attempts : Nat) (result : Except Error Resolution)
    (now : Instant) : (r.finish id attempts result now).MakesRoom := by
  have hroom : MakesRoom { r.setPhase id (.ended result) with
      inFlight := if r.inFlight.any (·.id == id) then none else r.inFlight } := by
    refine ⟨fun f hf result' hphase => ?_⟩
    have hflight : (if r.inFlight.any (·.id == id) then none else r.inFlight) = some f := hf
    split at hflight
    · cases hflight
    · rename_i hnot
      have hne : f.id ≠ id := fun hid =>
        hnot (by rw [hflight, ← hid]; exact beq_self_eq_true f.id)
      exact h.phase?_ne f hflight result' ((phase?_modify_ne r hne _).symm.trans hphase)
  unfold Resolver.finish
  split
  · exact h
  · dsimp only
    split
    · exact hroom
    · exact hroom.of_eq rfl rfl

theorem beginAttempt (h : r.MakesRoom) (id attempt : Nat) (arrange : List Contact → List Contact)
    (now : Instant) : (r.beginAttempt cache id attempt arrange now).MakesRoom := by
  unfold Resolver.beginAttempt
  split
  · exact h.finish id attempt _ now
  · exact h.setPhase id nofun

theorem failAttempt (h : r.MakesRoom) (id attempt : Nat) (failures : List String) (now : Instant)
    (draw : Float) : (r.failAttempt cache id attempt failures now draw).1.MakesRoom := by
  unfold Resolver.failAttempt
  split
  · exact h.finish id attempt _ now
  · split
    · split
      · exact h
      · exact h.modify id fun _ _ hended => (nomatch hended)
    · exact h.finish id attempt (.error (exhausted attempt failures)) now

theorem succeed (h : r.MakesRoom) (id attempt : Nat) (source : EndPoint) (members : List Member)
    (now : Instant) : (r.succeed cache id attempt source members now).1.MakesRoom := by
  unfold Resolver.succeed
  split
  · exact h.finish id attempt _ now
  · split
    · exact h
    · exact h.finish id attempt (.ok _) now

theorem step (h : r.MakesRoom) (id : Nat) (resumed : Bool) (arrange : List Contact → List Contact)
    (now : Instant) (draw : Float) :
    (r.step cache id resumed arrange now draw).2.1.MakesRoom := by
  have hstarted : (r.setStarted id now).MakesRoom := h.modify id fun _ _ hended => hended
  have hcancel : ∀ attempt, (r.finish id attempt (.error .cancelled) now).MakesRoom :=
    fun attempt => h.finish id attempt _ now
  unfold Resolver.step
  cases r.phase? id with
  | none => exact h
  | some phase =>
    cases phase with
    | waiting => exact hstarted.beginAttempt id 1 arrange now
    | ready attempt left failures =>
      cases left with
      | nil => exact h.failAttempt id attempt failures now draw
      | cons contact left =>
        dsimp only
        split
        · exact hcancel attempt
        · exact h.setPhase id nofun
    | asking attempt =>
      dsimp only
      split
      · exact hcancel attempt
      · exact h
    | pausing attempt =>
      dsimp only
      split
      · exact hcancel attempt
      · split
        · exact h.beginAttempt id (attempt + 1) arrange now
        · exact h
    | brokenDown | ended => exact h

theorem takeIn (h : r.MakesRoom) (id : Nat) (outcome : GossipOutcome) (now : Instant) :
    (r.takeIn cache id outcome now).1.MakesRoom := by
  unfold Resolver.takeIn
  split
  · rename_i attempt asked left failures _
    split
    · exact h.finish id attempt (.error .cancelled) now
    · have hlog : MakesRoom { r with log := r.log ++ [askedReport asked.1 outcome] } :=
        h.of_eq rfl rfl
      dsimp only
      split
      · exact hlog.succeed id attempt asked.1 _ now
      · exact hlog.setPhase id nofun
  · exact h

theorem breakDown (h : r.MakesRoom) (id : Nat) : (r.breakDown id).MakesRoom := by
  unfold Resolver.breakDown
  split
  · split
    · exact h
    · exact h.setPhase id nofun
  · exact h

/-- A resolution that was just started has not ended. -/
theorem join (h : r.MakesRoom) : r.join.2.MakesRoom := by
  unfold Resolver.join
  split
  · rename_i f hf
    refine ⟨fun f' hf' => ?_⟩
    cases hf'
    exact h.phase?_ne f hf
  · refine ⟨fun f' hf' result hphase => ?_⟩
    cases hf'
    rw [phase?, List.getElem?_append_right (Nat.le_refl _), Nat.sub_self] at hphase
    cases hphase

theorem leave (h : r.MakesRoom) (id : Nat) : (r.leave id).MakesRoom := by
  unfold Resolver.leave
  split
  · exact h
  · rename_i f hf
    split
    · exact h
    · split
      · refine ⟨fun f' hf' => ?_⟩
        cases hf'
        exact h.phase?_ne f hf
      · exact ⟨fun f' hf' => nomatch hf'⟩

theorem quit (h : r.MakesRoom) (call : RefreshCall) : (r.quit call).MakesRoom := by
  unfold Resolver.quit
  split
  · exact h
  · exact h.leave _

theorem advanceCall (h : r.MakesRoom) {call call' : RefreshCall} {isCancelled : Bool}
    (hcall : r.advanceCall call isCancelled = some (call', r')) : r'.MakesRoom := by
  cases callStep_of_advanceCall hcall with
  | joined => exact h.join
  | left id => exact h.leave id
  | _ => exact h

end MakesRoom

end Resolver

namespace Discovery

variable {d d' : Discovery} {event : DiscoveryEvent}

/-- **Every event keeps to one resolution in flight.** -/
theorem Change.worksInFlight (h : Change d event d') (hw : d.resolver.WorksInFlight) :
    d'.resolver.WorksInFlight := by
  cases h with
  | stay | come | cancel => exact hw
  | advance i q call r hq hcall => exact hw.advanceCall hcall
  | drop i q hq => exact hw.quit q.call
  | progress event he r cache hp hf => exact hw.progress hp
  | tick => exact hw.of_eq rfl rfl
  | refresh now call call' due r phase hr hcall => exact (hw.advanceCall hcall).of_eq rfl rfl
  | shutdown => exact hw.of_eq rfl rfl
  | cutOff call due hr =>
    have hshut : Resolver.WorksInFlight { d.resolver with isShutDown := true } := hw.of_eq rfl rfl
    exact (hshut.quit call).of_eq rfl rfl

/-- A resolver is shut down on purpose only. -/
theorem Change.isShutDown_eq (h : Change d event d') (hne : event ≠ .shutdown) :
    d'.resolver.isShutDown = d.resolver.isShutDown := by
  cases h with
  | stay | come | cancel | tick => rfl
  | advance i q call r hq hcall => exact (Resolver.Spares.advanceCall hcall).isShutDown_eq
  | drop i q hq => exact (Resolver.Spares.quit d.resolver q.call).isShutDown_eq
  | progress event he r cache hp hf => exact hp.isShutDown_eq
  | refresh now call call' due r phase hr hcall =>
    exact (Resolver.Spares.advanceCall hcall).isShutDown_eq
  | shutdown | cutOff => exact absurd rfl hne

/-- **Whatever happens, a resolution that has ended makes room.** -/
theorem makesRoom_perform (h : d.resolver.MakesRoom) (event : DiscoveryEvent) :
    (d.perform event).resolver.MakesRoom := by
  cases event with
  | come | use => exact h
  | cancel i =>
    show (d.cancelRequest i).resolver.MakesRoom
    unfold cancelRequest
    split <;> exact h
  | advance i =>
    show (d.stepRequest i).resolver.MakesRoom
    unfold stepRequest
    split
    · exact h
    · split
      · exact h
      · exact h.advanceCall ‹_›
  | drop i =>
    show (d.dropRequest i).resolver.MakesRoom
    unfold dropRequest
    split
    · exact h
    · exact h.quit _
  | step id resumed arrange now draw => exact h.step id resumed arrange now draw
  | answer id outcome now => exact h.takeIn id outcome now
  | breakDown id => exact h.breakDown id
  | startRefresh =>
    show d.resolver.startRefresh.2.MakesRoom
    unfold Resolver.startRefresh
    split
    · exact h
    · exact h.of_eq rfl rfl
  | refreshStep now =>
    show ((d.resolver.refreshStep now).getD d.resolver).MakesRoom
    cases hstep : d.resolver.refreshStep now with
    | none => exact h
    | some r =>
      rcases Resolver.refreshStep_cases hstep with ⟨phase, -, -, rfl⟩
        | ⟨call, due, call', r₀, phase, -, hcall, -, rfl⟩
      · exact h.of_eq rfl rfl
      · exact (h.advanceCall hcall).of_eq rfl rfl
  | shutdown =>
    have hshut : Resolver.MakesRoom { d.resolver with isShutDown := true } := h.of_eq rfl rfl
    show (Resolver.stopRefresh { d.resolver with isShutDown := true }).MakesRoom
    unfold Resolver.stopRefresh
    split
    · exact (hshut.quit _).of_eq rfl rfl
    · exact hshut.of_eq rfl rfl

end Discovery

end ClusterLink
