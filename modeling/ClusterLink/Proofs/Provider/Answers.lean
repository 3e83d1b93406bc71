import ClusterLink.Proofs.Provider.History

/-!
# What callers are told

A caller may be told at once, or after it has waited for several runs, and others may replace the
connection between the end of a run and the moment at which its waiters come back. Still the caller
is told what the provider would have said at some instant of the call (`Provider.Answers`).

A caller that waits has seen its run in the slot during the call, and one that is done has been
answered during the call: `Follows` says so for a call under way since an instant `start`, and
`follows_callAt` that it stays so. It rests on `exists_answers_of_ended`: a run that was
in the slot ends with an outcome only if the provider gives that answer at the end of the run.
-/

namespace ClusterLink

namespace Provider

/-- **The provider gives this answer to a caller that asks now**: what it shows, or that it is
disposed of. -/
def Answers (p : Provider) (result : Except Error Connection) : Prop :=
  p.Shows result ∨ p.isDisposed = true ∧ result = .error disposedError

/-- Who is answered at once is told what the provider has for its callers. -/
theorem answers_of_current {p : Provider} {now : Instant} {result : Except Error Connection}
    (h : (p.current now).1 = .answer result) : p.Answers result := by
  unfold current at h
  split at h
  · rename_i hd
    cases h
    exact .inr ⟨hd, rfl⟩
  · split at h
    · rename_i c hs
      cases h
      exact .inl hs
    · cases h
    · rename_i e retryAt hs
      split at h
      · cases h
        exact .inl ⟨retryAt, hs⟩
      · cases h
    · cases h

/-- Who has to wait finds its run in the slot. -/
theorem slot_of_current {p : Provider} {now : Instant} {run : Nat}
    (h : (p.current now).1 = .wait run) : (p.current now).2.slot = .pending run := by
  unfold current at h ⊢
  split at h
  · cases h
  · rename_i hd
    rw [if_neg hd]
    cases hs : p.slot with
    | ready c => simp [hs] at h
    | pending k =>
      simp only [hs, Demand.wait.injEq] at h ⊢
      rw [h]
    | failed e retryAt =>
      simp only [hs] at h ⊢
      split at h
      · cases h
      · rename_i hnow
        cases h
        rw [if_neg hnow]
        rfl
    | empty =>
      simp only [hs] at h ⊢
      cases h
      rfl

/-- Who comes back and finds how its run has ended leaves a run that has ended so. -/
theorem ended_of_poll {p : Provider} {run : Nat} {now : Instant} {draw : Float}
    {outcome : Option (Except Error Connection)}
    (h : (p.poll run now draw).1 = .ofOutcome outcome) :
    ∃ r, (p.poll run now draw).2.runs[run]? = some r ∧ r.phase = .ended outcome := by
  have houtcome : ∀ {o : Option (Except Error Connection)},
      Finding.ofOutcome o = .ofOutcome outcome → o = outcome := by
    intro o ho
    cases o <;> cases outcome <;> cases ho <;> rfl
  have hset : ∀ (q : Provider) (r : Run) (o : Option (Except Error Connection)),
      q.runs = p.runs → p.runs[run]? = some r → Finding.ofOutcome o = .ofOutcome outcome →
      ∃ r, (q.setPhase run (.ended o)).runs[run]? = some r ∧ r.phase = .ended outcome := by
    intro q r o hq hr ho
    exact ⟨{ r with phase := .ended o }, by simp [hq, hr], congrArg _ (houtcome ho)⟩
  have hunsettled : ∀ f, f = Finding.working ∨ f = .breakdown → f ≠ .ofOutcome outcome := by
    rintro f (rfl | rfl) <;> cases outcome <;> exact Finding.noConfusion
  unfold poll at h ⊢
  cases hr : p.runs[run]? with
  | none => exact absurd (by simpa [hr] using h) (hunsettled .working (.inl rfl))
  | some r =>
    cases hw : r.phase with
    | working => exact absurd (by simpa [hr, hw] using h) (hunsettled .working (.inl rfl))
    | poisoned => exact absurd (by simpa [hr, hw] using h) (hunsettled .breakdown (.inr rfl))
    | ended o =>
      simp only [hr, hw] at h
      exact ⟨r, by simp [hr, hw], hw.trans (congrArg _ (houtcome h))⟩
    | brokenDown =>
      -- a run that broke down is settled by the first waiter that comes back
      simp only [hr, hw] at h ⊢
      split at h
      · rename_i ha
        rw [if_pos ha]
        exact hset p r (some (.error breakdownError)) rfl hr h
      · rename_i ha
        rw [if_neg ha]
        split at h
        · exact absurd h (hunsettled .breakdown (.inr rfl))
        · rename_i hc
          rw [if_neg hc]
          exact hset _ r _ (runs_complete p r _ now draw) hr h

/-- Who comes back and finds an outcome leaves a run that ended with it. -/
theorem phase_of_poll {p : Provider} {run : Nat} {now : Instant} {draw : Float}
    {result : Except Error Connection} (h : (p.poll run now draw).1 = .outcome result) :
    ∃ r, (p.poll run now draw).2.runs[run]? = some r ∧ r.phase = .ended (some result) :=
  ended_of_poll h

end Provider

/-! ## Callers over one event -/

/-- **What becomes of a caller**: it comes, it stays as it is or gives up, or it takes a step. -/
theorem Service.caller_cases {s : Service} {event : ProviderEvent} {i : Nat} {call : CallPhase}
    (h : (s.perform event).callers[i]? = some call) :
    (∃ force, call = .ofForce? force)
      ∨ (∃ old, s.callers[i]? = some old ∧ (call = old ∨ call = old.giveUp))
      ∨ ∃ old now draw, s.callers[i]? = some old ∧ event = .advance i now draw
        ∧ call = (s.provider.advanceCall old now draw).1
        ∧ (s.perform event).provider = (s.provider.advanceCall old now draw).2 := by
  cases event with
  | come force =>
    rw [show (s.perform (.come force)).callers = s.callers ++ [.ofForce? force] from rfl,
      List.getElem?_append] at h
    split at h
    · exact .inr (.inl ⟨call, h, .inl rfl⟩)
    · exact .inl ⟨force, (List.mem_singleton.1 (List.mem_of_getElem? h))⟩
  | advance caller now draw =>
    have hperform : s.perform (.advance caller now draw) = s.stepCaller caller now draw := rfl
    rw [hperform, stepCaller] at h ⊢
    cases hold : s.callers[caller]? with
    | none =>
      rw [hold] at h
      exact .inr (.inl ⟨call, h, .inl rfl⟩)
    | some old =>
      simp only [hold, List.getElem?_set] at h ⊢
      split at h
      · rename_i hi
        subst hi
        split at h
        · cases h
          exact .inr (.inr ⟨old, now, draw, hold, rfl, rfl, rfl⟩)
        · cases h
      · exact .inr (.inl ⟨call, h, .inl rfl⟩)
  | giveUp caller =>
    rw [show (s.perform (.giveUp caller)).callers
        = s.callers.modify caller CallPhase.giveUp from rfl,
      List.getElem?_modify] at h
    obtain ⟨old, hold, rfl⟩ := Option.map_eq_some_iff.1 h
    refine .inr (.inl ⟨old, hold, ?_⟩)
    split
    · exact .inr rfl
    · exact .inl rfl
  | _ => exact .inr (.inl ⟨call, h, .inl rfl⟩)

/-- A caller whose turn it is not stays as it is, or gives up. -/
theorem Service.callers_of_not_advance {s : Service} {event : ProviderEvent} {i : Nat}
    {call : CallPhase} (h : s.callers[i]? = some call)
    (hother : ∀ now draw, event ≠ .advance i now draw) :
    (s.perform event).callers[i]? = some call
      ∨ (s.perform event).callers[i]? = some call.giveUp := by
  cases event with
  | come force =>
    have hi : i < s.callers.length := (List.getElem?_eq_some_iff.1 h).1
    exact .inl ((List.getElem?_append_left hi).trans h)
  | advance caller now draw =>
    have hne : caller ≠ i := fun heq => hother now draw (heq ▸ rfl)
    refine .inl ?_
    rw [show s.perform (.advance caller now draw) = s.stepCaller caller now draw
      from rfl, stepCaller]
    cases s.callers[caller]? with
    | none => exact h
    | some old => exact (List.getElem?_set_ne hne).trans h
  | giveUp caller =>
    rw [show (s.perform (.giveUp caller)).callers = s.callers.modify caller CallPhase.giveUp
      from rfl, List.getElem?_modify, h]
    show some (if caller = i then call.giveUp else call) = _
      ∨ some (if caller = i then call.giveUp else call) = _
    split
    · exact .inr rfl
    · exact .inl rfl
  | _ => exact .inl h

/-! ## Whole histories -/

section

variable {config : BackoffConfig} {events : Nat → ProviderEvent}

/-- **A run that was in the slot ends with what the provider answers then.** -/
theorem exists_answers_of_ended {start n run : Nat} {r : Run} {result : Except Error Connection}
    (hstart : (providerAt config events start).slot = .pending run)
    (hn : start ≤ n) (hr : (providerAt config events n).runs[run]? = some r)
    (hphase : r.phase = .ended (some result)) :
    ∃ k, start ≤ k ∧ k ≤ n ∧ (providerAt config events k).Answers result := by
  -- by induction on the instant: the run ends in one of the changes since `start`, and there the
  -- provider answers with its outcome
  induction hn generalizing r with
  | refl =>
    obtain ⟨r', hr', -, hw⟩ :=
      (coherent_providerAt config events start).isOpen_of_pending run hstart
    rw [hr] at hr'
    cases hr'
    rw [hphase] at hw
    cases hw
  | @step m hm ih =>
    rcases (change_providerAt config events m).run_cases hr with ⟨r', hr', -, hp⟩ | hs
    · cases hp with
      | stays h =>
        obtain ⟨k, hk, hkm, ha⟩ := ih hr' (h.symm.trans hphase)
        exact ⟨k, hk, Nat.le_succ_of_le hkm, ha⟩
      | breaks hw hw' =>
        rw [hphase] at hw'
        cases hw'
      | ends outcome hw h he =>
        cases h.symm.trans hphase
        cases he with
        | disposed hd => exact ⟨m, hm, Nat.le_succ m, .inr ⟨hd, rfl⟩⟩
        | applied _ hd hg hshows hdq hgq =>
          exact ⟨m + 1, Nat.le_succ_of_le hm, Nat.le_refl _, .inl hshows⟩
    · cases hs.phase_eq.symm.trans hphase

variable (config events) in
/-- **The call is under way since the given instant**: its run has been in the slot since, or it
has been answered since. -/
def Follows (start n : Nat) : CallPhase → Prop
  | .waiting run => ∃ k, start ≤ k ∧ k ≤ n
      ∧ (providerAt config events k).slot = .pending run
  | .done result => ∃ k, start ≤ k ∧ k ≤ n
      ∧ (providerAt config events k).Answers result
  | _ => True

theorem Follows.mono {start m n : Nat} {call : CallPhase} (h : Follows config events start m call)
    (hmn : m ≤ n) : Follows config events start n call := by
  cases call with
  | waiting run | done result =>
    obtain ⟨k, hk, hkm, hs⟩ := h
    exact ⟨k, hk, Nat.le_trans hkm hmn, hs⟩
  | _ => trivial

theorem Follows.giveUp {start n : Nat} {call : CallPhase} (h : Follows config events start n call) :
    Follows config events start n call.giveUp := by
  cases call with
  | done result => exact h
  | _ => trivial

/-- A step of the call keeps it under way. -/
theorem Follows.advanceCall {start n : Nat} {call : CallPhase}
    (h : Follows config events start n call) (hn : start ≤ n) {now : Instant} {draw : Float}
    (hnext : (providerAt config events (n + 1))
      = ((providerAt config events n).advanceCall call now draw).2) :
    Follows config events start (n + 1)
      ((providerAt config events n).advanceCall call now draw).1 := by
  cases call with
  | forcing trigger => trivial
  | asking =>
    show Follows config events start (n + 1)
      ((providerAt config events n).current now).1.phase
    cases hd : ((providerAt config events n).current now).1 with
    | answer result => exact ⟨n, hn, Nat.le_succ n, Provider.answers_of_current hd⟩
    | wait run =>
      refine ⟨n + 1, Nat.le_succ_of_le hn, Nat.le_refl _, ?_⟩
      rw [hnext]
      exact Provider.slot_of_current hd
  | waiting run =>
    obtain ⟨k, hk, hkn, hs⟩ := h
    show Follows config events start (n + 1)
      (((providerAt config events n).poll run now draw).1.phase run)
    cases hf : ((providerAt config events n).poll run now draw).1 with
    | working => exact ⟨k, hk, Nat.le_succ_of_le hkn, hs⟩
    | replaced | breakdown => trivial
    | outcome result =>
      -- the run may have ended long ago, but not before it was in the slot
      obtain ⟨r, hr, hphase⟩ := Provider.phase_of_poll hf
      have hr' : (providerAt config events (n + 1)).runs[run]? = some r := by
        rw [hnext]
        exact hr
      obtain ⟨k', hk', hkn', ha⟩ :=
        exists_answers_of_ended hs (Nat.le_succ_of_le hkn) hr' hphase
      exact ⟨k', Nat.le_trans hk hk', hkn', ha⟩
  | done result => exact h.mono (Nat.le_succ n)
  | brokenDown | gone => trivial

/-- **A call that has begun stays under way.** -/
theorem follows_callAt {start n i : Nat} (hn : start ≤ n)
    (hstart : ∀ call, callAt config events start i = some call →
      Follows config events start start call)
    {call : CallPhase} (hcall : callAt config events n i = some call) :
    Follows config events start n call := by
  induction hn generalizing call with
  | refl => exact hstart call hcall
  | @step m hm ih =>
    rcases Service.caller_cases hcall with ⟨force, rfl⟩ | ⟨old, hold, rfl | rfl⟩
      | ⟨old, now, draw, hold, -, rfl, hnext⟩
    · cases force <;> trivial
    · exact (ih hold).mono (Nat.le_succ m)
    · exact (ih hold).giveUp.mono (Nat.le_succ m)
    · exact (ih hold).advanceCall hm hnext

end

end ClusterLink
