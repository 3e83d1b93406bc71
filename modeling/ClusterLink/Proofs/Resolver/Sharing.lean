import ClusterLink.Proofs.Resolver.History

/-!
# Callers share resolutions

Many callers wait for one resolution, each may leave at any time, and some leave late, when the next
resolution is in flight already. None of this hurts the others: the count of waiters is right, so
that a resolution is called off only when nobody waits for it any more. A caller is told
`Error.cancelled` only if its own token was cancelled or the resolver was shut down, and everybody
who waited for one resolution to the end gets the one result of it.
-/

namespace ClusterLink

/-- The result that a call has. -/
def RefreshCall.result? : RefreshCall → Option (Except Error Resolution)
  | .leaving _ result | .done result => some result
  | _ => none

/-! ## Who is cancelled -/

namespace Resolver

/-- **Who may be told that it was cancelled**: a call whose token is cancelled, or every call once
the resolver was shut down. -/
theorem cancelled_of_advanceCall {r r' : Resolver} {cache : Cache} {guards : Nat → Nat}
    {call call' : RefreshCall} {isCancelled : Bool} (hcounts : r.Counts guards)
    (hended : ∀ id, r.phase? id = some (.ended (.error .cancelled)) →
      r.MayEndCancelled cache id)
    (hfactory : ¬cache.channels.factory.MayRefuse .cancelled)
    (hguard : ∀ id, call.guard? = some id → 0 < guards id) (hshut : r.isShutDown = false)
    (hcall : r.advanceCall call isCancelled = some (call', r'))
    (hresult : call'.result? = some (.error .cancelled)) :
    isCancelled = true ∨ call.result? = some (.error .cancelled) := by
  cases callStep_of_advanceCall hcall with
  | refused hc => exact .inl hc
  | gaveUp id hc => exact .inl hc
  | entered | disposed | passed | joined => cases hresult
  | left id result => exact .inr hresult
  | heard id result hc hr =>
    cases hresult
    -- the resolution ended as cancelled, though this call waits for it
    have hphase : r.phase? id = some (.ended (.error .cancelled)) := by
      unfold result? at hr
      split at hr
      · rename_i hphase
        cases hr
        exact hphase
      · cases hr
      · cases hr
    rcases hended id hphase with hc | hmay
    · cases hc.symm.trans (hcounts.not_isCancelled (hguard id rfl) hshut)
    · exact absurd hmay hfactory

end Resolver

namespace DiscoveryRun

variable {x : DiscoveryRun} {n : Nat}

theorem isShutDown_of_succ (h : (x.state (n + 1)).resolver.isShutDown = false) :
    (x.state n).resolver.isShutDown = false :=
  Bool.eq_false_iff.2 fun hshut => by
    cases h.symm.trans ((x.grows (Nat.le_succ n)).isShutDown hshut)

/-- A resolution that has ended as cancelled was cancelled, or the factory answers so. -/
theorem mayEndCancelled_of_ended {id : Nat}
    (h : (x.state n).resolver.phase? id = some (.ended (.error .cancelled))) :
    (x.state n).resolver.MayEndCancelled x.cache id := by
  rcases (x.grows (Nat.zero_le n)).cancelled id h with h | h
  · cases h
  · exact h

/-- A call that waits for a resolution is counted among its waiters. -/
theorem guards_pos {i id : Nat} {q : Request} (hq : (x.state n).requests[i]? = some q)
    (hguard : q.call.guard? = some id) : 0 < (x.state n).guards id := by
  refine Nat.lt_of_lt_of_le ?_ (Nat.le_add_right _ _)
  refine List.countP_pos_iff.2 ⟨q, List.mem_of_getElem? hq, ?_⟩
  rw [RefreshCall.holds, hguard, beq_self_eq_true]

/-- The call of the refresh in the background is counted among the waiters. -/
theorem guards_pos_of_refresh {id : Nat} {call : RefreshCall} {due : Instant}
    (hr : (x.state n).resolver.refresh = .refreshing call due) (hguard : call.guard? = some id) :
    0 < (x.state n).guards id := by
  have hweight : (x.state n).resolver.refresh.weight id = 1 := by
    rw [hr, RefreshPhase.weight]
    exact (RefreshCall.weight_of_some hguard id).trans (if_pos rfl)
  rw [Discovery.guards, hweight]
  exact Nat.succ_pos _

/-- **A call whose token is not cancelled is not told so** before the resolver was shut down. -/
theorem not_cancelled (hfactory : ¬x.cache.channels.factory.MayRefuse .cancelled) {i : Nat}
    {q : Request} (hq : (x.state n).requests[i]? = some q)
    (hshut : (x.state n).resolver.isShutDown = false) (hown : q.isCancelled = false) :
    q.call.result? ≠ some (.error .cancelled) := by
  induction n generalizing q with
  | zero => cases hq
  | succ n ih =>
    have hshut' := isShutDown_of_succ hshut
    intro hresult
    rcases (Discovery.change_perform _ _).request_cases hq with
      ⟨-, rfl⟩ | ⟨q₀, hq₀, rfl | rfl | rfl | ⟨call, -, rfl, hcall⟩⟩
    · cases hresult
    · exact ih hq₀ hshut' hown hresult
    · cases hown
    · refine ih hq₀ hshut' hown ?_
      cases hc : q₀.call <;> simp_all [RefreshCall.drop, RefreshCall.result?]
    · rcases Resolver.cancelled_of_advanceCall (x.counts n) (fun id => mayEndCancelled_of_ended)
        hfactory (fun id hguard => guards_pos hq₀ hguard) hshut' hcall hresult with hc | hc
      · cases hown.symm.trans hc
      · exact ih hq₀ hshut' hown hc

/-- The refresh in the background is not told that it was cancelled before the resolver was shut
down. -/
theorem not_cancelled_refresh (hfactory : ¬x.cache.channels.factory.MayRefuse .cancelled)
    {call : RefreshCall} {due : Instant}
    (hr : (x.state n).resolver.refresh = .refreshing call due)
    (hshut : (x.state n).resolver.isShutDown = false) :
    call.result? ≠ some (.error .cancelled) := by
  induction n generalizing call due with
  | zero => cases hr
  | succ n ih =>
    have hshut' := isShutDown_of_succ hshut
    intro hresult
    rcases (Discovery.change_perform _ _).refresh_cases hr with
      hr | rfl | ⟨old, due', r, hr, hcall⟩
    · exact ih hr hshut' hresult
    · cases hresult
    · rcases Resolver.cancelled_of_advanceCall (x.counts n) (fun id => mayEndCancelled_of_ended)
        hfactory (fun id hguard => guards_pos_of_refresh hr hguard) hshut' hcall hresult
        with hc | hc
      · -- its token is the resolver itself
        cases hshut'.symm.trans hc
      · exact ih hr hshut' hc

/-! ## What the callers of one resolution get -/

/-- **The call waits for the resolution with this number**, or it has the result of that resolution,
unless its own token was cancelled. -/
def Hears (r : Resolver) (id : Nat) (q : Request) : Prop :=
  match q.call with
  | .waiting k => k = id
  | .leaving k result => k = id ∧ (r.result? id = some result ∨ q.isCancelled = true)
  | .done result => r.result? id = some result ∨ q.isCancelled = true
  | .gone => True
  | _ => False

theorem Hears.grows {r r' : Resolver} {cache : Cache} {id : Nat} {q : Request}
    (h : Hears r id q) (hr : Resolver.Grows cache r r') : Hears r' id q := by
  unfold Hears at h ⊢
  split at h
  · exact h
  · exact h.imp_right (Or.imp_left hr.result?_eq)
  · exact h.imp_left hr.result?_eq
  · exact h
  · exact h

/-- A step of a call keeps to the resolution that it waits for. -/
theorem Hears.advanceCall {r r' : Resolver} {id : Nat} {q : Request} {call : RefreshCall}
    (h : Hears r id q) (hcall : r.advanceCall q.call q.isCancelled = some (call, r')) :
    Hears r id { q with call := call } := by
  have hstep := Resolver.callStep_of_advanceCall hcall
  unfold Hears at h
  generalize q.call = old at h hstep
  cases hstep with
  | gaveUp k hc => exact ⟨h, .inr hc⟩
  | heard k result hc hr => exact ⟨h, .inl (h ▸ hr)⟩
  | left k result => exact h.2
  | refused | entered | disposed | passed | joined => exact h.elim

theorem Hears.cancel {r : Resolver} {id : Nat} {q : Request} (h : Hears r id q) :
    Hears r id { q with isCancelled := true } := by
  cases hq : q.call with
  | waiting k => simpa [Hears, hq] using h
  | leaving k result =>
    simp only [Hears, hq] at h
    simp [Hears, h.1]
  | done result => simp [Hears]
  | gone => trivial
  | fresh | admitted | joining => simp [Hears, hq] at h

theorem Hears.drop {r : Resolver} {id : Nat} {q : Request} (h : Hears r id q) :
    Hears r id { q with call := q.call.drop } := by
  cases hq : q.call with
  | done result => simpa [Hears, hq, RefreshCall.drop] using h
  | _ => trivial

/-- No call is forgotten. -/
theorem length_requests_le (x : DiscoveryRun) {m : Nat} (h : m ≤ n) :
    (x.state m).requests.length ≤ (x.state n).requests.length := by
  induction h with
  | refl => exact Nat.le_refl _
  | step h ih => exact Nat.le_trans ih (Discovery.change_perform _ _).length_requests_le

/-- **A call that waits for a resolution hears of no other.** -/
theorem hears {m i id : Nat} {q₀ : Request} (hm : (x.state m).requests[i]? = some q₀)
    (hwait : q₀.call = .waiting id) (hmn : m ≤ n) {q : Request}
    (hq : (x.state n).requests[i]? = some q) : Hears (x.state n).resolver id q := by
  induction hmn generalizing q with
  | refl =>
    cases hm.symm.trans hq
    rw [Hears, hwait]
  | @step n hmn ih =>
    have hgrows := x.grows (Nat.le_succ n)
    rcases (Discovery.change_perform _ _).request_cases hq with
      ⟨hnone, -⟩ | ⟨q₁, hq₁, rfl | rfl | rfl | ⟨call, -, rfl, hcall⟩⟩
    · -- the call was there already, so it is not one that comes
      have hlt : i < (x.state n).requests.length :=
        Nat.lt_of_lt_of_le (List.getElem?_eq_some_iff.1 hm).1 (x.length_requests_le hmn)
      exact absurd hlt (Nat.not_lt.2 (List.getElem?_eq_none_iff.1 hnone))
    · exact (ih hq₁).grows hgrows
    · exact (ih hq₁).cancel.grows hgrows
    · exact (ih hq₁).drop.grows hgrows
    · exact ((ih hq₁).advanceCall hcall).grows hgrows

/-- The call whose turn it is takes its step. -/
theorem requests_of_advance {i : Nat} {q : Request} {call : RefreshCall} {r : Resolver}
    (hq : (x.state n).requests[i]? = some q) (hevent : x.events n = .advance i)
    (hcall : (x.state n).resolver.advanceCall q.call q.isCancelled = some (call, r)) :
    (x.state (n + 1)).requests[i]? = some { q with call := call } := by
  rw [state, hevent, show (x.state n).perform (.advance i) = (x.state n).stepRequest i from rfl,
    Discovery.stepRequest, hq]
  dsimp only
  rw [hcall]
  exact List.getElem?_set_self (List.getElem?_eq_some_iff.1 hq).1

/-- A call that waits for an earlier resolution leaves without a trace. -/
theorem leave_eq {f : InFlight} {id : Nat} (hf : (x.state n).resolver.inFlight = some f)
    (hid : 0 < (x.state n).guards id) (hne : id ≠ f.id) :
    id < f.id ∧ (x.state n).resolver.leave id = (x.state n).resolver := by
  have hlen := (x.counts n).length_eq f hf
  have hlt := (x.counts n).lt_length id hid
  refine ⟨by omega, ?_⟩
  rw [Resolver.leave, hf]
  exact if_pos (Ne.symm hne)

/-- **The numbers of resolutions never come back**: what is in flight later is the same resolution
all along, or has a greater number. -/
theorem inFlight_le {m : Nat} {f f' : InFlight} (hmn : m ≤ n)
    (hf : (x.state m).resolver.inFlight = some f)
    (hf' : (x.state n).resolver.inFlight = some f') :
    f.id < f'.id ∨ f.id = f'.id
      ∧ ∀ k, m ≤ k → k ≤ n → ∃ g, (x.state k).resolver.inFlight = some g
      ∧ g.id = f.id := by
  induction hmn generalizing f' with
  | refl =>
    cases hf.symm.trans hf'
    refine .inr ⟨rfl, fun k hmk hkm => ?_⟩
    cases Nat.le_antisymm hmk hkm
    exact ⟨f, hf, rfl⟩
  | @step n hmn ih =>
    rcases (x.grows (Nat.le_succ n)).inFlight f' hf' with ⟨g, hg, hid⟩ | hle
    · rcases ih hg with hlt | ⟨heq, hall⟩
      · exact .inl (hid ▸ hlt)
      · refine .inr ⟨heq.trans hid, fun k hmk hkn => ?_⟩
        rcases Nat.lt_or_eq_of_le hkn with hkn | rfl
        · exact hall k hmk (Nat.le_of_lt_succ hkn)
        · exact ⟨f', hf', (heq.trans hid).symm⟩
    · -- a new resolution gets a number that none has had, and `f` was the last one at `m`
      have hlen := (x.counts m).length_eq f hf
      have hgrow := (x.grows hmn).length_le
      exact .inl (by omega)

/-! ## The result -/

/-- **Callers share resolutions and do not hurt each other.** The count of the resolution in flight
is the number of the calls that hold on to it and is not zero, and a call that holds on to another
one leaves without a trace. The numbers of resolutions increase.

Unless the channel factory itself answers that something was cancelled, no call is told so before
the resolver is shut down, except those whose own token is cancelled. The others get the result of
the resolution that they wait for as soon as they come back to it, and that result never changes. -/
theorem refreshes_share_resolution (x : DiscoveryRun) :
    (∀ (n : Nat) (f : InFlight), (x.state n).resolver.inFlight = some f →
      f.waiters = (x.state n).guards f.id ∧ 1 ≤ f.waiters)
    ∧ (∀ (m n : Nat) (f f' : InFlight), m ≤ n → (x.state m).resolver.inFlight = some f →
      (x.state n).resolver.inFlight = some f' →
      f.id < f'.id ∨ f.id = f'.id
        ∧ ∀ k, m ≤ k → k ≤ n → ∃ g, (x.state k).resolver.inFlight = some g
        ∧ g.id = f.id)
    ∧ (∀ (n id : Nat) (f : InFlight), (x.state n).resolver.inFlight = some f →
      0 < (x.state n).guards id → id ≠ f.id →
      id < f.id ∧ (x.state n).resolver.leave id = (x.state n).resolver)
    ∧ (¬x.cache.channels.factory.MayRefuse .cancelled →
      (∀ (n i : Nat) (q : Request), (x.state n).requests[i]? = some q →
        (x.state n).resolver.isShutDown = false →
        q.isCancelled = false → q.call ≠ .done (.error .cancelled))
      ∧ ∀ (n : Nat) (call : RefreshCall) (due : Instant),
        (x.state n).resolver.refresh = .refreshing call due →
        (x.state n).resolver.isShutDown = false → call.result? ≠ some (.error .cancelled))
    ∧ (∀ (m n i id : Nat) (q₀ q : Request) (result : Except Error Resolution),
      (x.state m).requests[i]? = some q₀ → q₀.call = .waiting id → m ≤ n →
      (x.state n).requests[i]? = some q → q.call = .done result → q.isCancelled = false →
      (x.state n).resolver.result? id = some result)
    ∧ (∀ (n i id : Nat) (q : Request) (result : Except Error Resolution),
      (x.state n).requests[i]? = some q → q.call = .waiting id →
      q.isCancelled = false → (x.state n).resolver.result? id = some result →
      x.events n = .advance i →
      (x.state (n + 1)).requests[i]? = some { q with call := .leaving id result })
    ∧ ∀ (m n id : Nat) (result : Except Error Resolution), m ≤ n →
      (x.state m).resolver.result? id = some result →
      (x.state n).resolver.result? id = some result := by
  refine ⟨fun n f hf => (x.counts n).waiters_eq f hf, fun m n f f' => inFlight_le,
    fun n id f hf => leave_eq hf, fun hfactory => ⟨?_, ?_⟩, ?_, ?_, ?_⟩
  · intro n i q hq hshut hown hdone
    exact not_cancelled hfactory hq hshut hown (by rw [hdone]; rfl)
  · intro n call due hr hshut
    exact not_cancelled_refresh hfactory hr hshut
  · intro m n i id q₀ q result hm hwait hmn hq hdone hown
    have hhears := hears hm hwait hmn hq
    simp only [Hears, hdone] at hhears
    rcases hhears with h | h
    · exact h
    · cases hown.symm.trans h
  · intro n i id q result hq hwait hown hresult hevent
    refine requests_of_advance hq hevent (r := (x.state n).resolver) ?_
    rw [hwait, Resolver.advanceCall, hown, if_neg Bool.false_ne_true, hresult]
    rfl
  · intro m n id result hmn hr
    exact (x.grows hmn).result?_eq hr

/-- Two callers join, and the first one is cancelled. Then the resolution breaks down. -/
def twoCallers : DiscoveryRun where
  seeds := [⟨"a", 1⟩]
  settings := {}
  cache := (({ channels := { factory := .lazy false } } : Cache).reconcile [⟨"a", 1⟩]).2
  events := fun n => [.come, .come, .advance 0, .advance 0, .advance 0, .advance 1, .advance 1,
    .advance 1, .cancel 0, .advance 0, .advance 0, .step 0 false id 5 0.5, .step 0 false id 5 0.5,
    .breakDown 0, .advance 1, .advance 1].getD n .come

/-- The second of two callers hears that the resolution broke down, whatever the first one does. -/
theorem refreshes_share_resolution_of_two :
    ¬twoCallers.cache.channels.factory.MayRefuse .cancelled
      ∧ (twoCallers.state 11).requests[0]? = some ⟨.done (.error .cancelled), true⟩
      ∧ (twoCallers.state 16).requests[1]?
        = some ⟨.done (.error Resolver.breakdownError), false⟩
      ∧ (twoCallers.state 16).resolver.result? 0 = some (.error Resolver.breakdownError) := by
  have hfactory : ¬twoCallers.cache.channels.factory.MayRefuse .cancelled := fun h => by
    have hlazy : twoCallers.cache.channels.factory = .lazy false := Cache.factory_reconcile _ _
    rw [hlazy] at h
    cases ChannelFactory.eq_of_mayRefuse_lazy h
  have hjoined : (twoCallers.state 8).requests[1]? = some ⟨.waiting 0, false⟩ := rfl
  have hdone : (twoCallers.state 16).requests[1]?
      = some ⟨.done (.error Resolver.breakdownError), false⟩ := rfl
  obtain ⟨-, -, -, -, hresult, -⟩ := refreshes_share_resolution twoCallers
  exact ⟨hfactory, rfl, hdone, hresult 8 16 1 0 _ _ _ hjoined rfl (by decide) hdone rfl rfl⟩

end DiscoveryRun

end ClusterLink
