import ClusterLink.Proofs.Client.Waiting
import ClusterLink.Proofs.Resolver.Cancellation

/-!
# Clients that are down

A client is down (`Client.IsDown`) once the client itself, its provider, its cache and its resolver
refuse all work: after `Client.shutdown`, or once a shutdown that others interfere with has come to
its end. Resolutions, runs and calls may be anywhere on their way at that moment. Being down is for
good, whatever happens afterwards, and so is what a client does in this state: it turns everybody
away (`Client.TurnsAway`), and starts nothing (`ClientRun.IsAtRest`).

Each part refuses work for good on its own. So a client is down as well once its parts were taken
down one by one (`ClientRun.IsTakenDown.isDown`). A client that was told to shut down and has its
parts still turns its own callers away (`Client.RefusesCallers`), and no more than that.
-/

namespace ClusterLink

namespace Client

/-- **A client is down**: all its parts refuse work. -/
structure IsDown (c : Client) : Prop where
  client : c.isShutDown = true
  provider : c.provider.isDisposed = true
  cache : c.site.cache.isDisposed = true
  resolver : ∀ r, c.site.resolver = some r → r.isShutDown = true

end Client

/-- A cancelled attempt asks no node what it can do. -/
theorem ConnectPhase.step_ne_asked (settings : ConnectSettings) (trigger : Trigger)
    (shuffle : List Member → List Member) (phase : ConnectPhase) (s : Site) (handle : Handle)
    (deadline : Duration) :
    (phase.step settings trigger true shuffle s).1 ≠ .asked handle deadline := by
  cases phase with
  | resolving call =>
    unfold step
    dsimp only
    split
    · nofun
    · split <;> nofun
  | linked handle timeout =>
    unfold step
    dsimp only
    split <;> nofun
  | _ => nofun

namespace ClientRun

variable {x : ClientRun} {m n : Nat}

/-! ## Being down is for good -/

/-- **A client that was told to shut down** has been told for good. -/
theorem isShutDown_of_le (h : (x.state m).client.isShutDown = true) (hmn : m ≤ n) :
    (x.state n).client.isShutDown = true := by
  induction n, hmn using Nat.le_induction with
  | base => exact h
  | succ n _ ih => exact Deployment.isShutDown_perform ih (x.events n)

theorem isDisposed_provider_of_le (h : (x.state m).client.provider.isDisposed = true)
    (hmn : m ≤ n) : (x.state n).client.provider.isDisposed = true := by
  induction n, hmn using Nat.le_induction with
  | base => exact h
  | succ n _ ih => exact (x.change_provider n).isDisposed_of_isDisposed ih

theorem isDisposed_cache_of_le (h : (x.state m).client.site.cache.isDisposed = true)
    (hmn : m ≤ n) : (x.state n).client.site.cache.isDisposed = true := by
  induction n, hmn using Nat.le_induction with
  | base => exact h
  | succ n _ ih =>
    rcases (x.change_site n).cache_cases with hsame | ⟨u, -, huse⟩
    · rw [hsame]
      exact ih
    · rw [huse]
      exact Cache.isDisposed_of_use ih u

theorem isShutDown_resolver_of_le
    (h : ∀ r, (x.state m).client.site.resolver = some r → r.isShutDown = true) (hmn : m ≤ n) :
    ∀ r, (x.state n).client.site.resolver = some r → r.isShutDown = true := by
  induction n, hmn using Nat.le_induction with
  | base => exact h
  | succ n _ ih =>
    intro r' hr'
    obtain ⟨r, hr⟩ := x.exists_resolver_of_succ hr'
    exact ((x.change_site n).grows hr hr').isShutDown (ih r hr)

/-- **A client that is down stays down.** -/
theorem isDown_of_le (h : (x.state m).client.IsDown) (hmn : m ≤ n) :
    (x.state n).client.IsDown where
  client := isShutDown_of_le h.client hmn
  provider := isDisposed_provider_of_le h.provider hmn
  cache := isDisposed_cache_of_le h.cache hmn
  resolver := isShutDown_resolver_of_le h.resolver hmn

/-- **Nothing is started from one instant to another**: the cache is empty and stays as it is, with
the connections made so far, there are no new runs, and no node is asked. -/
structure IsAtRest (x : ClientRun) (m n : Nat) : Prop where
  entries_eq : (x.state n).client.site.cache.entries = []
  cache_eq : (x.state n).client.site.cache = (x.state m).client.site.cache
  length_runs_eq : (x.state n).client.provider.runs.length
    = (x.state m).client.provider.runs.length
  step_ne_asked : ∀ r, (x.state n).client.site.resolver = some r →
    ∀ id resumed arrange now draw contact,
      (r.step (x.state n).client.site.cache id resumed arrange now draw).1 ≠ .asked contact
  stepRun_ne_asked : ∀ run shuffle now draw handle deadline,
    ((x.state n).client.stepRun run shuffle now draw).1 ≠ .asked handle deadline

theorem isCancelled_of_isDown (h : (x.state n).client.IsDown) {r : Resolver}
    (hr : (x.state n).client.site.resolver = some r) (id : Nat) : r.isCancelled id = true := by
  rw [Resolver.isCancelled, h.resolver r hr, Bool.true_or]

theorem isRunCancelled_of_isDown (h : (x.state n).client.IsDown) (run : Nat) :
    (x.state n).client.provider.isRunCancelled run = true := by
  rw [Provider.isRunCancelled, h.provider]
  rfl

theorem cache_succ (h : (x.state n).client.IsDown) :
    (x.state (n + 1)).client.site.cache = (x.state n).client.site.cache := by
  rcases (x.change_site n).cache_cases with hsame | ⟨u, hu, huse⟩
  · exact hsame
  · rw [huse, Cache.use_of_isDisposed h.cache (x.holdsNothingOnceDisposed n h.cache) hu]

/-- A provider that is disposed of starts no run. -/
theorem length_runs_succ (h : (x.state n).client.IsDown) :
    (x.state (n + 1)).client.provider.runs.length = (x.state n).client.provider.runs.length := by
  refine Nat.le_antisymm (Nat.not_lt.1 fun hlt => ?_) (x.change_provider n).length_runs_le
  rcases (x.change_provider n).run_cases (List.getElem?_eq_getElem hlt)
    with ⟨r, hr, -⟩ | hstarts
  · exact absurd (List.getElem?_eq_some_iff.1 hr).1 (Nat.lt_irrefl _)
  · cases h.provider.symm.trans hstarts.isDisposed_eq

theorem isAtRest (h : (x.state m).client.IsDown) (hmn : m ≤ n) : x.IsAtRest m n := by
  have hdown := isDown_of_le h hmn
  refine ⟨x.holdsNothingOnceDisposed n hdown.cache, ?_, ?_, fun r hr id => ?_,
    fun run shuffle now draw handle deadline => ?_⟩
  · induction n, hmn using Nat.le_induction with
    | base => rfl
    | succ n hmn ih => exact (cache_succ (isDown_of_le h hmn)).trans (ih (isDown_of_le h hmn))
  · induction n, hmn using Nat.le_induction with
    | base => rfl
    | succ n hmn ih => exact (length_runs_succ (isDown_of_le h hmn)).trans (ih (isDown_of_le h hmn))
  · exact Resolver.step_ne_asked (isCancelled_of_isDown hdown hr id) _
  · rw [Client.stepRun]
    split
    · simp
    · rw [isRunCancelled_of_isDown hdown]
      exact ConnectPhase.step_ne_asked _ _ _ _ _ handle deadline

end ClientRun

end ClusterLink
