import ClusterLink.Proofs.Resolver.Progress

/-!
# The waiters of a resolution

The resolution in flight keeps a count of its waiters, and is called off when the count has come
down to nothing. The count is right (`Resolver.Counts`): it is the number of the calls that hold on
to that resolution, however many calls still hold on to earlier ones. So a resolution that was
called off has nobody waiting for it.

Whatever happens to a resolver, its resolutions only ever go on (`Resolver.Grows`).
-/

namespace ClusterLink

/-- Whether the call counts among the waiters of a resolution. -/
def RefreshCall.holds (call : RefreshCall) (id : Nat) : Bool := call.guard? == some id

/-- How often the call counts among the waiters of a resolution. -/
def RefreshCall.weight (call : RefreshCall) (id : Nat) : Nat := if call.holds id then 1 else 0

theorem RefreshCall.weight_of_some {call : RefreshCall} {id : Nat} (h : call.guard? = some id)
    (k : Nat) : call.weight k = if k = id then 1 else 0 := by
  unfold weight holds
  rw [h]
  by_cases hk : k = id
  · subst hk
    simp
  · have hb : (some id == some k) = false :=
      beq_eq_false_iff_ne.2 fun he => hk (Option.some.inj he).symm
    rw [hb, if_neg hk, if_neg Bool.false_ne_true]

theorem RefreshCall.weight_of_none {call : RefreshCall} (h : call.guard? = none) (k : Nat) :
    call.weight k = 0 := by
  unfold weight holds
  rw [h]
  rfl

namespace Resolver

/-! ## The steps of a call -/

/-- **What a step of a call does**, to the call and to the resolver. -/
inductive CallStep (r : Resolver) (isCancelled : Bool) :
    RefreshCall → RefreshCall → Resolver → Prop where
  | refused (hc : isCancelled = true) :
      CallStep r isCancelled .fresh (.done (.error .cancelled)) r
  | entered (hc : isCancelled = false) : CallStep r isCancelled .fresh .admitted r
  | disposed (hs : r.isShutDown = true) :
      CallStep r isCancelled .admitted (.done (.error disposedError)) r
  | passed (hs : r.isShutDown = false) : CallStep r isCancelled .admitted .joining r
  | joined : CallStep r isCancelled .joining (.waiting r.join.1) r.join.2
  | gaveUp (id : Nat) (hc : isCancelled = true) :
      CallStep r isCancelled (.waiting id) (.leaving id (.error .cancelled)) r
  | heard (id : Nat) (result : Except Error Resolution) (hc : isCancelled = false)
      (hr : r.result? id = some result) :
      CallStep r isCancelled (.waiting id) (.leaving id result) r
  | left (id : Nat) (result : Except Error Resolution) :
      CallStep r isCancelled (.leaving id result) (.done result) (r.leave id)

theorem callStep_of_advanceCall {r r' : Resolver} {call call' : RefreshCall} {isCancelled : Bool}
    (h : r.advanceCall call isCancelled = some (call', r')) :
    CallStep r isCancelled call call' r' := by
  cases call with
  | fresh =>
    cases isCancelled with
    | true =>
      cases h
      exact .refused rfl
    | false =>
      cases h
      exact .entered rfl
  | admitted =>
    rw [advanceCall] at h
    cases hs : r.isShutDown with
    | true =>
      rw [hs] at h
      cases h
      exact .disposed hs
    | false =>
      rw [hs] at h
      cases h
      exact .passed hs
  | joining =>
    cases h
    exact .joined
  | waiting id =>
    cases isCancelled with
    | true =>
      cases h
      exact .gaveUp id rfl
    | false =>
      obtain ⟨result, hr, h⟩ := Option.map_eq_some_iff.1 h
      cases h
      exact .heard id result rfl hr
  | leaving id result =>
    cases h
    exact .left id result
  | done | gone => cases h

/-! ## The resolutions go on -/

/-- **What may become of the resolutions** of a resolver. -/
structure Grows (cache : Cache) (r r' : Resolver) : Prop where
  isShutDown : r.isShutDown = true → r'.isShutDown = true
  length_le : r.tasks.length ≤ r'.tasks.length
  inFlight : ∀ f', r'.inFlight = some f' →
    (∃ f, r.inFlight = some f ∧ f.id = f'.id) ∨ r.tasks.length ≤ f'.id
  old : ∀ (id : Nat) (t : ResolutionTask), r.tasks[id]? = some t →
    ∃ t', r'.tasks[id]? = some t' ∧ (t.isCalledOff = true → t'.isCalledOff = true)
      ∧ (t.phase.isOver = true → t'.phase = t.phase)
  cancelled : ∀ id, r'.phase? id = some (.ended (.error .cancelled)) →
    r.phase? id = some (.ended (.error .cancelled)) ∨ r'.MayEndCancelled cache id

namespace Grows

variable {cache : Cache} {r r' r'' : Resolver}

theorem of_tasks_eq (htasks : r'.tasks = r.tasks)
    (hflight : ∀ f', r'.inFlight = some f' → ∃ f, r.inFlight = some f ∧ f.id = f'.id)
    (hshut : r.isShutDown = true → r'.isShutDown = true) : Grows cache r r' where
  isShutDown := hshut
  length_le := Nat.le_of_eq (congrArg List.length htasks).symm
  inFlight := fun f' hf' => .inl (hflight f' hf')
  old := fun _ t ht => ⟨t, htasks ▸ ht, fun h => h, fun _ => rfl⟩
  cancelled := fun id h => .inl (by rwa [phase?, htasks] at h)

/-- What is cancelled stays cancelled. -/
theorem isCancelled (h : Grows cache r r') {id : Nat} (hc : r.isCancelled id = true) :
    r'.isCancelled id = true := by
  rw [Resolver.isCancelled, Bool.or_eq_true] at hc ⊢
  refine hc.imp h.isShutDown fun hoff => ?_
  obtain ⟨t, ht, hoff⟩ := Option.any_eq_true _ _ |>.1 hoff
  obtain ⟨t', ht', hoff', -⟩ := h.old id t ht
  rw [ht']
  exact hoff' hoff

/-- What may end cancelled may still do so later. -/
theorem mayEndCancelled (h : Grows cache r r') {id : Nat} (hmay : r.MayEndCancelled cache id) :
    r'.MayEndCancelled cache id :=
  hmay.imp_left h.isCancelled

theorem refl (cache : Cache) (r : Resolver) : Grows cache r r :=
  of_tasks_eq rfl (fun f hf => ⟨f, hf, rfl⟩) fun h => h

/-- What a resolver keeps beside its resolutions does not matter. -/
theorem of_eq (h : Grows cache r r') (htasks : r''.tasks = r'.tasks)
    (hflight : r''.inFlight = r'.inFlight) (hshut : r''.isShutDown = r'.isShutDown) :
    Grows cache r r'' where
  isShutDown := hshut ▸ h.isShutDown
  length_le := htasks ▸ h.length_le
  inFlight := hflight ▸ h.inFlight
  old := htasks ▸ h.old
  cancelled := by
    simp only [phase?, MayEndCancelled, Resolver.isCancelled, htasks, hshut]
    exact h.cancelled

theorem trans (h : Grows cache r r') (h' : Grows cache r' r'') : Grows cache r r'' where
  isShutDown := fun hshut => h'.isShutDown (h.isShutDown hshut)
  length_le := Nat.le_trans h.length_le h'.length_le
  inFlight := by
    intro f'' hf''
    rcases h'.inFlight f'' hf'' with ⟨f', hf', hid⟩ | hle
    · exact hid ▸ h.inFlight f' hf'
    · exact .inr (Nat.le_trans h.length_le hle)
  old := by
    intro id t ht
    obtain ⟨t', ht', hoff, hphase⟩ := h.old id t ht
    obtain ⟨t'', ht'', hoff', hphase'⟩ := h'.old id t' ht'
    refine ⟨t'', ht'', fun hc => hoff' (hoff hc), fun hover => ?_⟩
    have heq := hphase hover
    exact (hphase' (heq ▸ hover)).trans heq
  cancelled := by
    intro id hended
    rcases h'.cancelled id hended with hended | hmay
    · exact (h.cancelled id hended).imp_right h'.mayEndCancelled
    · exact .inr hmay

theorem of_progress (h : Progress cache r r') : Grows cache r r' where
  isShutDown := fun hshut => h.isShutDown_eq.trans hshut
  length_le := Nat.le_of_eq h.length_eq.symm
  inFlight := by
    intro f hf
    rcases h.inFlight_eq with heq | ⟨heq, -⟩
    · exact .inl ⟨f, heq.symm.trans hf, rfl⟩
    · cases heq.symm.trans hf
  old := by
    intro id t ht
    obtain ⟨t', ht', htask⟩ := h.task id t ht
    exact ⟨t', ht', fun hoff => htask.isCalledOff_eq.trans hoff, htask.phase_eq⟩
  cancelled := by
    intro id hended
    obtain ⟨t', ht', hphase⟩ := Option.map_eq_some_iff.1 hended
    have hlt : id < r.tasks.length := h.length_eq ▸ (List.getElem?_eq_some_iff.1 ht').1
    obtain ⟨s, hs, htask⟩ := h.task id _ (List.getElem?_eq_getElem hlt)
    cases ht'.symm.trans hs
    rcases htask.cancelled hphase with hphase | hmay
    · exact .inl (by rw [phase?, List.getElem?_eq_getElem hlt, Option.map_some, hphase])
    · exact .inr (hmay.imp_left (h.isCancelled_eq (List.getElem?_eq_getElem hlt)).trans)

theorem join (cache : Cache) (r : Resolver) : Grows cache r r.join.2 := by
  unfold Resolver.join
  split
  · rename_i f hf
    refine of_tasks_eq rfl (fun f' hf' => ⟨f, hf, ?_⟩) fun h => h
    cases hf'
    rfl
  · refine ⟨fun h => h, ?_, fun f' hf' => ?_,
      fun id t ht => ⟨t, ?_, fun h => h, fun _ => rfl⟩, fun id hended => ?_⟩
    · rw [List.length_append]
      exact Nat.le_add_right _ _
    · cases hf'
      exact .inr (Nat.le_refl _)
    · rw [List.getElem?_append_left (List.getElem?_eq_some_iff.1 ht).1]
      exact ht
    · obtain ⟨t, ht, hphase⟩ := Option.map_eq_some_iff.1 hended
      rw [List.getElem?_append] at ht
      split at ht
      · exact .inl (by rw [phase?, ht, Option.map_some, hphase])
      · rw [List.mem_singleton.1 (List.mem_of_getElem? ht)] at hphase
        cases hphase

theorem leave (cache : Cache) (r : Resolver) (id : Nat) : Grows cache r (r.leave id) := by
  unfold Resolver.leave
  split
  · exact refl cache r
  · rename_i f hf
    split
    · exact refl cache r
    · split
      · refine of_tasks_eq rfl (fun f' hf' => ⟨f, hf, ?_⟩) fun h => h
        cases hf'
        rfl
      · refine ⟨fun h => h, Nat.le_of_eq (List.length_modify ..).symm, nofun, fun k t ht => ?_,
          fun k hended => .inl ?_⟩
        · refine ⟨_, by rw [List.getElem?_modify, ht]; rfl, ?_, ?_⟩ <;> split <;> simp_all
        · rw [← hended, phase?, phase?, List.getElem?_modify]
          cases r.tasks[k]? with
          | none => rfl
          | some t =>
            show _ = some (if id = k then _ else _ : ResolutionTask).phase
            split <;> rfl

theorem quit (cache : Cache) (r : Resolver) (call : RefreshCall) :
    Grows cache r (r.quit call) := by
  unfold Resolver.quit
  split
  · exact refl cache r
  · exact leave cache r _

theorem advanceCall {call call' : RefreshCall} {isCancelled : Bool}
    (h : r.advanceCall call isCancelled = some (call', r')) : Grows cache r r' := by
  cases callStep_of_advanceCall h with
  | joined => exact join cache r
  | left id => exact leave cache r id
  | _ => exact refl cache r

/-- Of the cache only the factory matters. -/
theorem of_factory_eq {cache' : Cache} (h : Grows cache r r')
    (hf : cache'.channels.factory = cache.channels.factory) : Grows cache' r r' where
  isShutDown := h.isShutDown
  length_le := h.length_le
  inFlight := h.inFlight
  old := h.old
  cancelled := by
    simp only [MayEndCancelled, hf]
    exact h.cancelled

/-- The result of a resolution is for good. -/
theorem result?_eq (h : Grows cache r r') {id : Nat} {result : Except Error Resolution}
    (hr : r.result? id = some result) : r'.result? id = some result := by
  have hphase : ∀ phase, r.phase? id = some phase → phase.isOver = true →
      r'.phase? id = some phase := by
    intro phase hphase hover
    obtain ⟨t, ht, rfl⟩ := Option.map_eq_some_iff.1 hphase
    obtain ⟨t', ht', -, heq⟩ := h.old id t ht
    rw [phase?, ht', Option.map_some, heq hover]
  unfold result? at hr ⊢
  split at hr
  · rename_i hended
    rw [hphase _ hended rfl]
    exact hr
  · rename_i hbroken
    rw [hphase _ hbroken rfl]
    exact hr
  · cases hr

end Grows

/-! ## The count is right -/

/-- **The count of waiters is right**: `guards` tells how many calls hold on to each resolution. -/
structure Counts (r : Resolver) (guards : Nat → Nat) : Prop where
  waiters_eq : ∀ f, r.inFlight = some f → f.waiters = guards f.id ∧ 0 < f.waiters
  length_eq : ∀ f, r.inFlight = some f → r.tasks.length = f.id + 1
  lt_length : ∀ id, 0 < guards id → id < r.tasks.length
  calledOff : ∀ (id : Nat) (t : ResolutionTask), r.tasks[id]? = some t →
    t.isCalledOff = true → guards id = 0 ∧ ∀ f, r.inFlight = some f → f.id ≠ id

namespace Counts

variable {cache : Cache} {r r' : Resolver} {guards guards' : Nat → Nat}

/-- The count does not depend on what else a resolver keeps. -/
theorem of_eq (h : Counts r guards) (hflight : r'.inFlight = r.inFlight)
    (htasks : r'.tasks = r.tasks) : Counts r' guards where
  waiters_eq := hflight ▸ h.waiters_eq
  length_eq := by rw [hflight, htasks]; exact h.length_eq
  lt_length := by rw [htasks]; exact h.lt_length
  calledOff := by rw [hflight, htasks]; exact h.calledOff

/-- A resolution that goes on leaves the count as it is, or ends it. -/
theorem progress (h : Counts r guards) (hp : Progress cache r r') : Counts r' guards := by
  have hflight : ∀ f, r'.inFlight = some f → r.inFlight = some f := by
    intro f hf
    rcases hp.inFlight_eq with heq | ⟨heq, -⟩
    · exact heq.symm.trans hf
    · cases heq.symm.trans hf
  refine ⟨fun f hf => h.waiters_eq f (hflight f hf), fun f hf => ?_, fun id hid => ?_,
    fun id t' ht' hoff => ?_⟩
  · rw [hp.length_eq]
    exact h.length_eq f (hflight f hf)
  · rw [hp.length_eq]
    exact h.lt_length id hid
  · have hlt : id < r.tasks.length := hp.length_eq ▸ (List.getElem?_eq_some_iff.1 ht').1
    obtain ⟨s, hs, htask⟩ := hp.task id _ (List.getElem?_eq_getElem hlt)
    cases ht'.symm.trans hs
    obtain ⟨hzero, hne⟩ := h.calledOff id _ (List.getElem?_eq_getElem hlt)
      (htask.isCalledOff_eq.symm.trans hoff)
    exact ⟨hzero, fun f hf => hne f (hflight f hf)⟩

/-- **Who joins is counted.** -/
theorem join (h : Counts r guards)
    (hg : ∀ k, guards' k = guards k + if k = r.join.1 then 1 else 0) :
    Counts r.join.2 guards' := by
  unfold Resolver.join at hg ⊢
  split at hg
  · -- one more waiter for the resolution in flight
    rename_i f hf
    obtain ⟨hwaiters, hpos⟩ := h.waiters_eq f hf
    dsimp only at hg ⊢
    refine ⟨fun f' hf' => ?_, fun f' hf' => ?_, fun id hid => ?_, fun id t ht hoff => ?_⟩
    · cases hf'
      exact ⟨by rw [hg, if_pos rfl, ← hwaiters], Nat.succ_pos _⟩
    · cases hf'
      exact h.length_eq f hf
    · by_cases hid' : id = f.id
      · have hlen : r.tasks.length = f.id + 1 := h.length_eq f hf
        show id < r.tasks.length
        omega
      · exact h.lt_length id (by rwa [hg, if_neg hid', Nat.add_zero] at hid)
    · obtain ⟨hzero, hne⟩ := h.calledOff id t ht hoff
      have hne' : f.id ≠ id := hne f hf
      refine ⟨by rw [hg, if_neg hne'.symm, hzero], fun f' hf' => ?_⟩
      cases hf'
      exact hne'
  · -- a new resolution, whose number nobody holds on to yet
    rename_i hf
    dsimp only at hg ⊢
    have hnew : guards r.tasks.length = 0 :=
      Nat.eq_zero_of_not_pos fun hpos => absurd (h.lt_length _ hpos) (Nat.lt_irrefl _)
    refine ⟨fun f' hf' => ?_, fun f' hf' => ?_, fun id hid => ?_, fun id t ht hoff => ?_⟩
    · cases hf'
      exact ⟨by rw [hg, if_pos rfl, hnew], Nat.zero_lt_one⟩
    · cases hf'
      simp
    · rw [List.length_append, List.length_singleton]
      by_cases hid' : id = r.tasks.length
      · omega
      · exact Nat.lt_succ_of_lt (h.lt_length id (by rwa [hg, if_neg hid', Nat.add_zero] at hid))
    · rw [List.getElem?_append] at ht
      split at ht
      · rename_i hlt
        have hne : id ≠ r.tasks.length := Nat.ne_of_lt hlt
        refine ⟨by rw [hg, if_neg hne, (h.calledOff id t ht hoff).1], fun f' hf' => ?_⟩
        cases hf'
        exact hne.symm
      · rw [List.mem_singleton.1 (List.mem_of_getElem? ht)] at hoff
        cases hoff

/-- **Who leaves is no longer counted**, and the last one to leave calls the resolution off. -/
theorem leave (h : Counts r guards) {id : Nat}
    (hg : ∀ k, guards' k + (if k = id then 1 else 0) = guards k) :
    Counts (r.leave id) guards' := by
  have hle : ∀ k, guards' k ≤ guards k := fun k => by
    have := hg k
    omega
  have hlt : ∀ k, 0 < guards' k → k < r.tasks.length := fun k hk =>
    h.lt_length k (Nat.lt_of_lt_of_le hk (hle k))
  have hzero : ∀ k, guards k = 0 → guards' k = 0 := fun k hk => Nat.le_zero.1 (hk ▸ hle k)
  have hne : ∀ k, k ≠ id → guards' k = guards k := fun k hk => by
    have := hg k
    rwa [if_neg hk, Nat.add_zero] at this
  unfold Resolver.leave
  cases hf : r.inFlight with
  | none =>
    refine ⟨fun f hf' => ?_, fun f hf' => ?_, hlt, fun k t ht hoff => ?_⟩
    · cases hf.symm.trans hf'
    · cases hf.symm.trans hf'
    · exact ⟨hzero k (h.calledOff k t ht hoff).1, fun f hf' => by cases hf.symm.trans hf'⟩
  | some f =>
    obtain ⟨hwaiters, hpos⟩ := h.waiters_eq f hf
    have hlen : r.tasks.length = f.id + 1 := h.length_eq f hf
    dsimp only
    split
    · -- the resolution in flight is a later one
      rename_i hid
      refine ⟨fun f' hf' => ?_, h.length_eq, hlt, fun k t ht hoff => ?_⟩
      · cases hf.symm.trans hf'
        exact ⟨hwaiters.trans (hne f.id hid).symm, hpos⟩
      · exact ⟨hzero k (h.calledOff k t ht hoff).1, (h.calledOff k t ht hoff).2⟩
    · rename_i hid
      have hid' : f.id = id := Decidable.not_not.1 hid
      subst hid'
      have hgid : guards' f.id + 1 = guards f.id := by
        have := hg f.id
        rwa [if_pos rfl] at this
      split
      · rename_i hmore
        refine ⟨fun f' hf' => ?_, fun f' hf' => ?_, hlt, fun k t ht hoff => ?_⟩
        · cases hf'
          exact ⟨by dsimp only; omega, by dsimp only; omega⟩
        · cases hf'
          exact hlen
        · refine ⟨hzero k (h.calledOff k t ht hoff).1, fun f' hf' => ?_⟩
          cases hf'
          exact (h.calledOff k t ht hoff).2 f hf
      · -- the last waiter leaves
        refine ⟨nofun, nofun, fun k hk => ?_, fun k t ht hoff => ⟨?_, nofun⟩⟩
        · rw [List.length_modify]
          exact hlt k hk
        · by_cases hk : k = f.id
          · subst hk
            omega
          · rw [List.getElem?_modify_ne _ _ (Ne.symm hk)] at ht
            exact hzero k (h.calledOff k t ht hoff).1

theorem quit (h : Counts r guards) {call : RefreshCall}
    (hg : ∀ k, guards' k + call.weight k = guards k) : Counts (r.quit call) guards' := by
  unfold Resolver.quit
  cases hcall : call.guard? with
  | none =>
    have heq : guards' = guards := funext fun k => by
      rw [← hg k, RefreshCall.weight_of_none hcall, Nat.add_zero]
    exact heq ▸ h
  | some id =>
    refine h.leave fun k => ?_
    rw [← hg k, RefreshCall.weight_of_some hcall]

/-- **A step of a call keeps the count right.** -/
theorem advanceCall (h : Counts r guards) {call call' : RefreshCall} {isCancelled : Bool}
    (hcall : r.advanceCall call isCancelled = some (call', r'))
    (hg : ∀ k, guards' k + call.weight k = guards k + call'.weight k) : Counts r' guards' := by
  -- a call that goes on holding what it held does not change the count
  have hsame : call'.guard? = call.guard? → guards' = guards := fun heq => funext fun k => by
    have hweight : call'.weight k = call.weight k := by
      rw [RefreshCall.weight, RefreshCall.weight, RefreshCall.holds, RefreshCall.holds, heq]
    have := hg k
    omega
  cases callStep_of_advanceCall hcall with
  | joined =>
    refine h.join fun k => ?_
    have := hg k
    rwa [RefreshCall.weight_of_none rfl, RefreshCall.weight_of_some rfl] at this
  | left id result =>
    refine h.leave fun k => ?_
    have := hg k
    rwa [RefreshCall.weight_of_some rfl, RefreshCall.weight_of_none rfl] at this
  | _ => exact hsame rfl ▸ h

/-- A resolution that somebody waits for is cancelled by a shutdown only. -/
theorem not_isCancelled (h : r.Counts guards) {id : Nat} (hid : 0 < guards id)
    (hshut : r.isShutDown = false) :
    r.isCancelled id = false := by
  rw [isCancelled, hshut, Bool.false_or, Option.any_eq_false]
  intro t ht
  refine Bool.eq_false_iff.2 fun hoff => ?_
  obtain ⟨hzero, -⟩ := h.calledOff id t ht hoff
  omega

end Counts

end Resolver

end ClusterLink
