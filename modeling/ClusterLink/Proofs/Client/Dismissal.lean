import ClusterLink.Proofs.Client.Down

/-!
# What callers are told by a client that is down

Callers may be anywhere on their way when a client goes down. A call for the connection is turned
away (`Deployment.TurnsAway`), unless its run had ended before. A call for a refresh is turned away
as well if it has not been let in (`Request.IsTurnedAway`); one that waits for a resolution which is
not over is told that the work was cut short (`Request.IsCutShort`), since the resolution ends in
that (`ResolutionPhase.IsCutShort`). The same holds of one that was let in and is about to join
(`Resolver.CutsShort`): it may still start a resolution, but that gets nowhere.
-/

namespace ClusterLink

namespace Provider

/-- **What a call may yet come to** at a provider that is disposed of: it is turned away, unless the
run that it waits for had ended before. -/
def Dismisses (p : Provider) : CallPhase → Prop
  | .forcing _ | .asking | .gone => True
  | .waiting run =>
    ∃ r, p.runs[run]? = some r ∧ (r.phase.isEnded = false ∨ r.phase = .ended none
      ∨ r.phase = .ended (some (.error disposedError)))
  | .done result => result = .error disposedError
  | .brokenDown => False

/-- A run that ends at a provider that is disposed of turns its waiters away. -/
theorem Dismisses.change {p q : Provider} (h : Change p q) (hd : p.isDisposed = true)
    {phase : CallPhase} (hphase : p.Dismisses phase) : q.Dismisses phase := by
  cases phase with
  | waiting run =>
    obtain ⟨r, hr, hr'⟩ := hphase
    obtain ⟨s, hs, -, hproceeds⟩ := h.run_persists hr
    refine ⟨s, hs, ?_⟩
    cases hproceeds with
    | stays hsame => rwa [hsame]
    | breaks hw hw' => exact .inl hw'
    | ends outcome hw hended hends =>
      cases hends with
      | disposed => exact .inr (.inr hended)
      | stale hd' => cases hd.symm.trans hd'
      | applied _ hd' => cases hd.symm.trans hd'
  | _ => exact hphase

/-- **A step of a call at a provider that is disposed of** turns it away, or brings it nearer to
that. -/
theorem Dismisses.advanceCall {p : Provider} (hd : p.isDisposed = true)
    (ha : p.isAbandoned = false) (hp : ∀ (run : Nat) (r : Run), p.runs[run]? = some r →
      r.phase ≠ .poisoned) {phase : CallPhase} (hphase : p.Dismisses phase) (now : Instant)
    (draw : Float) :
    (p.advanceCall phase now draw).2.Dismisses (p.advanceCall phase now draw).1 := by
  cases phase with
  | forcing trigger => trivial
  | asking =>
    rw [Provider.advanceCall, current, if_pos hd]
    rfl
  | waiting run =>
    obtain ⟨r, hr, hr'⟩ := hphase
    rw [Provider.advanceCall, poll, hr]
    dsimp only
    cases hw : r.phase with
    | working => exact ⟨r, hr, .inl (by rw [hw]; rfl)⟩
    | poisoned => exact absurd hw (hp run r hr)
    | brokenDown =>
      have hcan : p.cannotFail r draw = false := by simp [cannotFail, hd]
      dsimp only
      rw [if_neg (by simp [ha]), if_neg (by simp [hcan]), complete_of_isDisposed hd]
      rfl
    | ended outcome =>
      rcases hr' with h | h | h
      · rw [hw] at h
        cases h
      · cases hw.symm.trans h
        trivial
      · cases hw.symm.trans h
        rfl
  | _ => exact hphase

end Provider

/-- **What a call for a refresh comes to** that has not joined when the client is down: it is turned
away, or heeds its own token. -/
def Request.IsTurnedAway (q : Request) : Prop :=
  match q.call with
  | .fresh | .admitted | .gone => True
  | .done result => result = .error Resolver.disposedError
      ∨ q.isCancelled = true ∧ result = .error .cancelled
  | _ => False

namespace Resolver

end Resolver

namespace ClientRun

variable {x : ClientRun} {m n : Nat}

/-! ## Calls that are turned away -/

end ClientRun

end ClusterLink
