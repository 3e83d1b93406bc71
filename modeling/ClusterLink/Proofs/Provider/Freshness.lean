import ClusterLink.Proofs.Provider.Sharing

/-!
# Calls are answered in time

A caller is never told of something that was over when it asked, nor of something that had not
come yet when it returned: whatever it is told held of the provider at an instant in between. So the
generations that it sees never go back, and a caller that replaced the connection gets one that is
no older than its own reset.
-/

namespace ClusterLink

variable {config : BackoffConfig} {events : Nat → ProviderEvent}

/-- A connection that was handed out is not of a later generation. -/
theorem HandedOut.generation_le {n : Nat} {c : Connection} (h : HandedOut config events n c) :
    c.generation ≤ (providerAt config events n).generation := by
  obtain ⟨k, hkn, hs⟩ := h.exists_ready
  rw [((coherent_providerAt config events k).ready c hs).1]
  exact generation_mono hkn

/-- A call that asks is answered by the provider as it is at some instant of the call. -/
theorem exists_answers_of_done {start n i : Nat} {result : Except Error Connection}
    (hstart : callAt config events start i = some .asking) (hn : start ≤ n)
    (hdone : callAt config events n i = some (.done result)) :
    ∃ k, start ≤ k ∧ k ≤ n ∧ (providerAt config events k).Answers result := by
  refine follows_callAt hn (fun call hcall => ?_) hdone
  cases hstart.symm.trans hcall
  trivial

/-- A call that asks gets a connection that was ready at some instant of the call. -/
theorem exists_ready_of_done {start n i : Nat} {c : Connection}
    (hstart : callAt config events start i = some .asking) (hn : start ≤ n)
    (hdone : callAt config events n i = some (.done (.ok c))) :
    ∃ k, start ≤ k ∧ k ≤ n ∧ (providerAt config events k).slot = .ready c := by
  obtain ⟨k, hk, hkn, hs | ⟨-, hok⟩⟩ := exists_answers_of_done hstart hn hdone
  · exact ⟨k, hk, hkn, hs⟩
  · cases hok

/-- A call that asks gets a connection that is not of an earlier generation. -/
theorem le_generation_of_done {start n i : Nat} {c : Connection}
    (hstart : callAt config events start i = some .asking) (hn : start ≤ n)
    (hdone : callAt config events n i = some (.done (.ok c))) :
    (providerAt config events start).generation ≤ c.generation := by
  obtain ⟨k, hk, -, hs⟩ := exists_ready_of_done hstart hn hdone
  rw [((coherent_providerAt config events k).ready c hs).1]
  exact generation_mono hk

/-- A call that replaces the connection does so in one step, and asks then. -/
theorem callAt_succ_of_forcing {m i : Nat} {trigger : Trigger} {now : Instant} {draw : Float}
    (hcall : callAt config events m i = some (.forcing trigger))
    (hevent : events m = .advance i now draw) :
    callAt config events (m + 1) i = some .asking
      ∧ providerAt config events (m + 1) = (providerAt config events m).reset now true trigger :=
  callAt_succ_of_advance hcall hevent

/-- **Every call is answered by the provider as it is at an instant of the call.** A connection was
ready then; an error was the one of the failed slot, or the provider was disposed of and says so.

The connection that a call gets is of a generation between those at its start and at its end, so
that a later call never gets an earlier one. A call that replaced the connection gets one whose
generation is at least the one it began, and with its own trigger if it is that one. -/
theorem calls_answered_in_time (config : BackoffConfig) (events : Nat → ProviderEvent) :
    (∀ (i start n : Nat) (result : Except Error Connection),
      callAt config events start i = some .asking → start ≤ n →
      callAt config events n i = some (.done result) →
      ∃ k, start ≤ k ∧ k ≤ n ∧
        match result with
        | .ok c => (providerAt config events k).slot = .ready c
        | .error error => (∃ retryAt, (providerAt config events k).slot = .failed error retryAt)
          ∨ (providerAt config events k).isDisposed = true ∧ error = Provider.disposedError)
    ∧ (∀ (i start n : Nat) (c : Connection),
      callAt config events start i = some .asking → start ≤ n →
      callAt config events n i = some (.done (.ok c)) →
      (providerAt config events start).generation ≤ c.generation
        ∧ c.generation ≤ (providerAt config events n).generation)
    ∧ (∀ (i i' n start' n' : Nat) (c c' : Connection),
      callAt config events n i = some (.done (.ok c)) → n ≤ start' →
      callAt config events start' i' = some .asking → start' ≤ n' →
      callAt config events n' i' = some (.done (.ok c')) →
      c.generation ≤ c'.generation)
    ∧ (∀ (i m n : Nat) (trigger : Trigger) (now : Instant) (draw : Float) (c : Connection),
      callAt config events m i = some (.forcing trigger) → events m = .advance i now draw →
      (providerAt config events m).isDisposed = false → m < n →
      callAt config events n i = some (.done (.ok c)) →
      (providerAt config events (m + 1)).generation = (providerAt config events m).generation + 1
        ∧ (providerAt config events (m + 1)).generation ≤ c.generation
        ∧ (c.generation = (providerAt config events (m + 1)).generation →
          c.trigger = trigger)) := by
  refine ⟨?_, ?_, ?_, ?_⟩
  · intro i start n result hstart hn hdone
    obtain ⟨k, hk, hkn, ha⟩ := exists_answers_of_done hstart hn hdone
    refine ⟨k, hk, hkn, ?_⟩
    cases result with
    | ok c =>
      rcases ha with hs | ⟨-, hok⟩
      · exact hs
      · cases hok
    | error error =>
      refine ha.imp_right fun ⟨hd, he⟩ => ⟨hd, ?_⟩
      cases he
      rfl
  · intro i start n c hstart hn hdone
    exact ⟨le_generation_of_done hstart hn hdone, HandedOut.generation_le (.inr ⟨i, hdone⟩)⟩
  · intro i i' n start' n' c c' hdone hn hstart' hn' hdone'
    calc c.generation
      _ ≤ (providerAt config events n).generation := HandedOut.generation_le (.inr ⟨i, hdone⟩)
      _ ≤ (providerAt config events start').generation := generation_mono hn
      _ ≤ c'.generation := le_generation_of_done hstart' hn' hdone'
  · intro i m n trigger now draw c hcall hevent hd hmn hdone
    obtain ⟨hstart, hreset⟩ := callAt_succ_of_forcing hcall hevent
    rw [Provider.reset, if_neg (by simp [hd])] at hreset
    have hg : (providerAt config events (m + 1)).generation
        = (providerAt config events m).generation + 1 := by
      rw [hreset, Provider.generation_advance]
    have ht : (providerAt config events (m + 1)).trigger = trigger := by
      rw [hreset, Provider.trigger_advance]
    refine ⟨hg, le_generation_of_done hstart hmn hdone, fun hsame => ?_⟩
    -- nobody else has replaced the connection, so the trigger is still that of the call
    obtain ⟨k, hk, -, hs⟩ := exists_ready_of_done hstart hmn hdone
    have hc := (coherent_providerAt config events k).ready c hs
    calc c.trigger
      _ = (providerAt config events k).trigger := hc.2
      _ = (providerAt config events (m + 1)).trigger :=
        trigger_eq_of_generation_eq hk (hc.1.symm.trans hsame)
      _ = trigger := ht

/-- A run may fail because something else was disposed of. Its waiter is told so, though the
provider has not been disposed of. -/
theorem disposed_error_of_run :
    let events : Nat → ProviderEvent := fun
      | 0 => .come none
      | 1 => .advance 0 0 0.5
      | 2 => .finish 0 (.error (.disposed .gossipResolver)) 0 0.5
      | _ => .advance 0 0 0.5
    callAt {} events 1 0 = some .asking
      ∧ callAt {} events 4 0 = some (.done (.error (.disposed .gossipResolver)))
      ∧ ∀ k ≤ 4, (providerAt {} events k).isDisposed = false :=
  ⟨rfl, rfl, by decide +kernel⟩

end ClusterLink
