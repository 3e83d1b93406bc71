import ClusterLink.Proofs.Connection.Replacement
import ClusterLink.Proofs.Resolver.Turns
import Mathlib.Data.Nat.Count

/-!
# Cancelled resolutions

A resolution that was cancelled asks no more nodes. It is over after three steps of its own at the
latest, and after one if it is about to ask, waits for an answer, or pauses. Then it ends in
`Error.cancelled` and leaves the cache and all that is published as it is
(`DiscoveryRun.Obeys`).

There are two moments at which a resolution does not look at its token (`Discovery.Overlooks`): when
it begins, where it finds the cache disposed of, and when no node is left to be asked. A resolution
that is cancelled before it has begun may come to either, and then ends in an error that is
published, or puts the seeds into the cache.

What counts as published goes by the result alone: the last result is the one of the resolution that
ended last in anything else than `Error.cancelled`.
-/

namespace ClusterLink

namespace ResolutionPhase

/-- How many more steps a cancelled resolution takes at most. -/
def stepsLeft : ResolutionPhase → Nat
  | .waiting => 3
  | .ready _ [] _ => 2
  | .ready _ (_ :: _) _ | .asking .. | .pausing .. => 1
  | .brokenDown | .ended _ => 0

theorem stepsLeft_le_three (phase : ResolutionPhase) : phase.stepsLeft ≤ 3 := by
  cases phase with
  | ready attempt left failures => cases left <;> simp [stepsLeft]
  | _ => simp [stepsLeft]

theorem isOver_of_stepsLeft {phase : ResolutionPhase} (h : phase.stepsLeft = 0) :
    phase.isOver = true := by
  cases phase with
  | ready attempt left failures => cases left <;> cases h
  | brokenDown | ended => rfl
  | _ => cases h

/-- **An attentive resolution heeds its token** at its next turn. -/
theorem Turn.eq_of_isAttentive {seeds : List EndPoint} {maxAttempts : Nat}
    {cause : TurnCause} {cache cache' : Cache} {phase phase' : ResolutionPhase}
    (h : Turn seeds maxAttempts true cause cache phase phase' cache')
    (hattentive : phase.isAttentive = true) : phase' = .ended (.error .cancelled) := by
  rcases h.of_cancelled with ⟨-, hended, -⟩ | ⟨rfl, -⟩ | ⟨attempt, failures, rfl⟩
  · exact hended
  · cases hattentive
  · cases hattentive

theorem stepsLeft_of_isAttentive {phase : ResolutionPhase} (h : phase.isAttentive = true) :
    phase.stepsLeft = 1 := by
  cases phase with
  | ready attempt left failures => cases left <;> first | rfl | cases h
  | _ => first | rfl | cases h

theorem stepsLeft_of_isOver {phase : ResolutionPhase} (h : phase.isOver = true) :
    phase.stepsLeft = 0 := by
  cases phase <;> first | rfl | cases h

/-- **A turn brings a cancelled resolution nearer to its end.** -/
theorem Turn.stepsLeft_lt {seeds : List EndPoint} {maxAttempts : Nat}
    {cause : TurnCause} {cache cache' : Cache} {phase phase' : ResolutionPhase}
    (h : Turn seeds maxAttempts true cause cache phase phase' cache') :
    phase'.stepsLeft < phase.stepsLeft := by
  rcases h.of_cancelled with ⟨hattentive, rfl, -⟩
    | ⟨rfl, -, ⟨-, contacts, rfl⟩ | ⟨-, rfl⟩⟩
    | ⟨attempt, failures, rfl⟩
  · rw [stepsLeft_of_isAttentive hattentive]
    exact Nat.one_pos
  · cases contacts <;> simp [stepsLeft]
  · exact Nat.succ_pos 2
  · rcases h.of_none_left with ⟨-, ⟨-, delay, rfl⟩ | ⟨-, rfl⟩⟩
      | ⟨error, -, rfl⟩ <;>
      simp [stepsLeft]

/-- A resolution whose result is published has not ended as cancelled. -/
theorem published?_eq_some_iff {phase : ResolutionPhase} {result : Except Error Resolution} :
    phase.published? = some result ↔ phase = .ended result ∧ result ≠ .error .cancelled := by
  unfold published?
  split
  · simp only [reduceCtorEq, ended.injEq, false_iff]
    rintro ⟨rfl, hne⟩
    exact hne rfl
  · rename_i result' hne
    simp only [Option.some.injEq, ended.injEq, iff_self_and]
    rintro rfl rfl
    exact hne rfl
  · rename_i hne
    simp only [reduceCtorEq, false_iff]
    rintro ⟨rfl, -⟩
    exact hne result rfl

end ResolutionPhase

namespace Resolver

/-! ## Steps of a cancelled resolution -/

/-- **A cancelled resolution asks no node.** -/
theorem step_ne_asked {r : Resolver} {id : Nat} (hc : r.isCancelled id = true) (cache : Cache)
    (resumed : Bool) (arrange : List Contact → List Contact) (now : Instant) (draw : Float)
    (contact : Contact) : (r.step cache id resumed arrange now draw).1 ≠ .asked contact := by
  unfold step
  split <;> simp [hc]

end Resolver

/-! ## Where a cancellation is overlooked -/

namespace Discovery

/-- **The next turn of the resolution does not look at its token**: the resolution is about to begin
though the cache was disposed of, or no node is left to be asked. -/
def Overlooks (d : Discovery) (id : Nat) : Prop :=
  d.resolver.phase? id = some .waiting ∧ d.cache.isDisposed = true
    ∨ ∃ attempt failures, d.resolver.phase? id = some (.ready attempt [] failures)

/-- The resolution is about to pause, and the cache holds the seeds already. -/
def Pauses (d : Discovery) (id : Nat) : Prop :=
  ∃ attempt failures, d.resolver.phase? id = some (.ready attempt [] failures)
    ∧ attempt < d.resolver.settings.maxAttempts
    ∧ d.cache.reconcile d.resolver.seeds = (.ok (), d.cache)

end Discovery

namespace DiscoveryRun

/-- **The resolution obeys its token** from an instant on: it leaves the cache and the last result
as they are, reports nothing, and ends in nothing else than `Error.cancelled`. -/
structure Obeys (x : DiscoveryRun) (m id : Nat) : Prop where
  cache_eq : ∀ n, m ≤ n → (x.events n).worksOn? = some id →
    (x.state (n + 1)).cache = (x.state n).cache
  lastResult_eq : ∀ n, m ≤ n → (x.events n).worksOn? = some id →
    (x.state (n + 1)).resolver.lastResult = (x.state n).resolver.lastResult
  discoveries_eq : ∀ n, m ≤ n → (x.events n).worksOn? = some id →
    (x.state (n + 1)).resolver.discoveries = (x.state n).resolver.discoveries
  ended : ∀ n, m ≤ n → ∀ phase result, x.Turns n id phase (.ended result) →
    result = .error .cancelled

/-- **A resolution completes** in the result from one instant to the next. -/
def Completes (x : DiscoveryRun) (n id : Nat) (result : Except Error Resolution) : Prop :=
  ∃ phase, x.Turns n id phase (.ended result)

variable {x : DiscoveryRun} {m n id : Nat} {phase phase' : ResolutionPhase}

theorem isCancelled_of_le (hmn : m ≤ n) (hc : (x.state m).resolver.isCancelled id = true) :
    (x.state n).resolver.isCancelled id = true :=
  (x.grows hmn).isCancelled hc

/-- **What a turn of a cancelled resolution does** that does not overlook its token, or is about to
pause. -/
theorem Turns.of_isCancelled (h : x.Turns n id phase phase')
    (hc : (x.state n).resolver.isCancelled id = true)
    (hpauses : (x.state n).Overlooks id → (x.state n).Pauses id) :
    (x.state (n + 1)).cache = (x.state n).cache ∧ phase'.published? = none
      ∧ ∀ result, phase' = .ended result → result = .error .cancelled := by
  have hphase := h.phase?_eq
  have hturn := h.turn
  rw [hc] at hturn
  generalize (x.state (n + 1)).cache = cache' at hturn ⊢
  rcases hturn.of_cancelled with ⟨-, rfl, hcache⟩
    | ⟨rfl, hcache, ⟨-, contacts, rfl⟩ | ⟨hd, rfl⟩⟩
    | ⟨attempt, failures, rfl⟩
  · refine ⟨hcache, rfl, fun result hresult => ?_⟩
    cases hresult
    rfl
  · exact ⟨hcache, rfl, nofun⟩
  · obtain ⟨attempt, failures, hready, -⟩ := hpauses (.inl ⟨hphase, hd⟩)
    cases hphase.symm.trans hready
  · obtain ⟨attempt', failures', hready, hlt, hsame⟩ :=
      hpauses (.inr ⟨attempt, failures, hphase⟩)
    cases hphase.symm.trans hready
    rcases hturn.of_none_left with ⟨hcache, ⟨-, delay, rfl⟩ | ⟨hle, -⟩⟩
      | ⟨error, hcache, -⟩
    · exact ⟨congrArg Prod.snd (hcache.symm.trans hsame), rfl, nofun⟩
    · exact absurd hlt (Nat.not_lt.2 hle)
    · cases hcache.symm.trans hsame

/-- **A cancelled resolution obeys its token** exactly if no turn of it overlooks that, other than
by pausing over a cache that holds the seeds. -/
theorem obeys_iff (hc : (x.state m).resolver.isCancelled id = true) :
    x.Obeys m id ↔ ∀ n, m ≤ n → ∀ phase phase', x.Turns n id phase phase' →
      (x.state n).Overlooks id → (x.state n).Pauses id := by
  constructor
  · intro hobeys n hmn phase phase' hturns hoverlooks
    have hphase := hturns.phase?_eq
    have hcache := hobeys.cache_eq n hmn hturns.worksOn?_eq
    have hended := fun result (h : phase' = .ended result) =>
      hobeys.ended n hmn phase result (h ▸ hturns)
    have hturn := hturns.turn
    rw [hcache, isCancelled_of_le hmn hc] at hturn
    rcases hoverlooks with ⟨hwaiting, hd⟩ | ⟨attempt, failures, hready⟩
    · -- a resolution that finds the cache disposed of says so
      cases hphase.symm.trans hwaiting
      rcases hturn.of_cancelled with ⟨hattentive, -⟩
        | ⟨-, -, ⟨hd', -⟩ | ⟨-, rfl⟩⟩ | ⟨_, _, h⟩
      · cases hattentive
      · cases hd.symm.trans hd'
      · cases hended _ rfl
      · cases h
    · cases hphase.symm.trans hready
      rcases hturn.of_none_left with ⟨hreconcile, ⟨hlt, -⟩ | ⟨-, rfl⟩⟩
        | ⟨error, hreconcile, rfl⟩
      · exact ⟨attempt, failures, hready, hlt, hreconcile⟩
      · cases hended _ rfl
      · cases hended _ rfl
        cases Cache.eq_disposedError_of_reconcile hreconcile
  · intro h
    have hturn : ∀ n, m ≤ n → (x.events n).worksOn? = some id →
        (x.state (n + 1)).cache = (x.state n).cache
          ∧ (x.state (n + 1)).resolver.lastResult = (x.state n).resolver.lastResult
          ∧ (x.state (n + 1)).resolver.discoveries = (x.state n).resolver.discoveries := by
      intro n hmn hworks
      rcases turns_or_rests x n with ⟨id', phase, phase', hturns⟩ | ⟨hrests, hcache⟩
      · cases hworks.symm.trans hturns.worksOn?_eq
        obtain ⟨hcache, hnone, -⟩ :=
          hturns.of_isCancelled (isCancelled_of_le hmn hc) (h n hmn phase phase' hturns)
        refine ⟨hcache, ?_, hturns.records.discoveries_of_none hnone⟩
        rw [hturns.records.lastResult_eq, hnone, Option.none_or]
      · refine ⟨hcache.resolve_left (by rw [hworks]; nofun), hrests.lastResult_eq, ?_⟩
        rw [Resolver.discoveries, hrests.log_eq]
        rfl
    refine ⟨fun n hmn hworks => (hturn n hmn hworks).1,
      fun n hmn hworks => (hturn n hmn hworks).2.1,
      fun n hmn hworks => (hturn n hmn hworks).2.2, fun n hmn phase result hturns => ?_⟩
    obtain ⟨-, -, hended⟩ :=
      hturns.of_isCancelled (isCancelled_of_le hmn hc) (h n hmn phase _ hturns)
    exact hended result rfl

/-! ## A cancelled resolution comes to its end -/

/-- Whether the event is a step of the resolution. -/
def IsStepOf (x : DiscoveryRun) (id n : Nat) : Prop :=
  (x.events n).worksOn? = some id ∧ (x.events n).cause = .step

instance (x : DiscoveryRun) (id : Nat) : DecidablePred (x.IsStepOf id) :=
  fun n => inferInstanceAs
    (Decidable ((x.events n).worksOn? = some id ∧ (x.events n).cause = .step))

/-- A step of its own is a turn of a cancelled resolution, unless that is over. -/
theorem turns_of_isStepOf (hstep : x.IsStepOf id n)
    (hphase : (x.state n).resolver.phase? id = some phase) (hover : phase.isOver = false)
    (hc : (x.state n).resolver.isCancelled id = true) :
    ∃ phase', x.Turns n id phase phase' := by
  rcases turns_or_idles hstep.1 with ⟨before, phase', hturns⟩ | ⟨-, -, hidle⟩
  · cases hphase.symm.trans hturns.phase?_eq
    exact ⟨phase', hturns⟩
  · cases hover.symm.trans (hidle hstep.2 phase hphase hc)

/-- **Each step uses up one of those that are left** to a cancelled resolution. -/
theorem stepsLeft_le (hc : (x.state m).resolver.isCancelled id = true)
    (hphase : (x.state m).resolver.phase? id = some phase) (n : Nat) :
    ∃ phase', (x.state (m + n)).resolver.phase? id = some phase'
      ∧ phase'.stepsLeft ≤ phase.stepsLeft - Nat.count (fun k => x.IsStepOf id (m + k)) n := by
  induction n with
  | zero => exact ⟨phase, hphase, Nat.le_refl _⟩
  | succ n ih =>
    obtain ⟨before, hbefore, hle⟩ := ih
    have hc' : (x.state (m + n)).resolver.isCancelled id = true :=
      isCancelled_of_le (Nat.le_add_right m n) hc
    rw [Nat.count_succ]
    rcases turns_or_rests x (m + n) with ⟨id', before', after, hturns⟩ | ⟨hrests, -⟩
    · by_cases hid : id = id'
      · subst hid
        cases hbefore.symm.trans hturns.phase?_eq
        have hlt := (hc' ▸ hturns.turn).stepsLeft_lt
        refine ⟨after, hturns.records.phase?_eq, ?_⟩
        split <;> omega
      · have hnot : ¬x.IsStepOf id (m + n) := fun hstep =>
          hid (Option.some.inj (hstep.1.symm.trans hturns.worksOn?_eq))
        rw [if_neg hnot]
        exact ⟨before, (hturns.records.phase?_ne id hid).trans hbefore, hle⟩
    · refine ⟨before, hrests.phase?_eq id before hbefore, ?_⟩
      split
      · rename_i hstep
        -- a step that is no turn finds the resolution over
        cases hover : before.isOver with
        | true => rw [ResolutionPhase.stepsLeft_of_isOver hover]; exact Nat.zero_le _
        | false =>
          obtain ⟨after, hturns⟩ := turns_of_isStepOf hstep hbefore hover hc'
          have hlt := (hc' ▸ hturns.turn).stepsLeft_lt
          cases (hrests.phase?_eq id before hbefore).symm.trans hturns.records.phase?_eq
          exact absurd hlt (Nat.lt_irrefl _)
      · exact hle

/-- **A cancelled resolution is over** after as many steps as are left to it, three at most. -/
theorem isOver_of_isCancelled (hc : (x.state m).resolver.isCancelled id = true)
    (hphase : (x.state m).resolver.phase? id = some phase)
    (hsteps : phase.stepsLeft ≤ Nat.count (fun k => x.IsStepOf id (m + k)) n) :
    ∃ phase', (x.state (m + n)).resolver.phase? id = some phase' ∧ phase'.isOver = true := by
  obtain ⟨phase', hphase', hle⟩ := stepsLeft_le hc hphase n
  exact ⟨phase', hphase', ResolutionPhase.isOver_of_stepsLeft (by omega)⟩

/-! ## The last result -/

/-- **A result is published** from one instant to the next: that of a resolution which completes in
anything else than `Error.cancelled`. -/
def Publishes (x : DiscoveryRun) (n id : Nat) (result : Except Error Resolution) : Prop :=
  x.Completes n id result ∧ result ≠ .error .cancelled

theorem Turns.publishes_iff (h : x.Turns n id phase phase') {id' : Nat}
    {result : Except Error Resolution} :
    x.Publishes n id' result ↔ id' = id ∧ phase'.published? = some result := by
  constructor
  · rintro ⟨⟨before, hturns⟩, hne⟩
    cases h.worksOn?_eq.symm.trans hturns.worksOn?_eq
    cases h.records.phase?_eq.symm.trans hturns.records.phase?_eq
    exact ⟨rfl, ResolutionPhase.published?_eq_some_iff.2 ⟨rfl, hne⟩⟩
  · rintro ⟨rfl, hpublished⟩
    obtain ⟨rfl, hne⟩ := ResolutionPhase.published?_eq_some_iff.1 hpublished
    exact ⟨⟨phase, h⟩, hne⟩

/-- While all resolutions rest, nothing is published. -/
theorem not_publishes (h : Resolver.Rests (x.state n).resolver (x.state (n + 1)).resolver)
    (result : Except Error Resolution) : ¬x.Publishes n id result := by
  rintro ⟨⟨before, hturns⟩, -⟩
  cases (h.phase?_eq id before hturns.phase?_eq).symm.trans hturns.records.phase?_eq
  cases hturns.turn.isOver_eq

/-- The result was the last one to be published before the instant. -/
def IsLastPublished (x : DiscoveryRun) (n : Nat) (result : Except Error Resolution) : Prop :=
  ∃ k < n, ∃ id, x.Publishes k id result ∧ ∀ j, k < j → j < n → ∀ id' result',
    ¬x.Publishes j id' result'

theorem isLastPublished_succ_iff {result : Except Error Resolution}
    (h : ∀ id result, ¬x.Publishes n id result) :
    x.IsLastPublished (n + 1) result ↔ x.IsLastPublished n result := by
  constructor
  · rintro ⟨k, hk, id, hpublishes, hlast⟩
    rcases Nat.lt_or_eq_of_le (Nat.le_of_lt_succ hk) with hk | rfl
    · exact ⟨k, hk, id, hpublishes, fun j hkj hjn => hlast j hkj (Nat.lt_succ_of_lt hjn)⟩
    · exact absurd hpublishes (h id result)
  · rintro ⟨k, hk, id, hpublishes, hlast⟩
    refine ⟨k, Nat.lt_succ_of_lt hk, id, hpublishes, fun j hkj hjn => ?_⟩
    rcases Nat.lt_or_eq_of_le (Nat.le_of_lt_succ hjn) with hjn | rfl
    · exact hlast j hkj hjn
    · exact h

/-- **The last result is the one that was published last.** -/
theorem lastResult_eq_iff (x : DiscoveryRun) (n : Nat) (result : Except Error Resolution) :
    (x.state n).resolver.lastResult = some result ↔ x.IsLastPublished n result := by
  induction n with
  | zero => exact ⟨nofun, fun ⟨k, hk, _⟩ => absurd hk (Nat.not_lt_zero k)⟩
  | succ n ih =>
    rcases turns_or_rests x n with ⟨id, before, after, hturns⟩ | ⟨hrests, -⟩
    · rw [hturns.records.lastResult_eq]
      cases hpublished : after.published? with
      | none =>
        rw [Option.none_or, isLastPublished_succ_iff fun id' result' h => ?_]
        · exact ih
        · cases hpublished.symm.trans (hturns.publishes_iff.1 h).2
      | some published =>
        have hnow : x.Publishes n id published := hturns.publishes_iff.2 ⟨rfl, hpublished⟩
        rw [Option.some_or, Option.some.injEq]
        constructor
        · rintro rfl
          exact ⟨n, Nat.lt_succ_self n, id, hnow, fun j hnj hj => absurd hj (by omega)⟩
        · rintro ⟨k, hk, id', hpublishes, hlast⟩
          rcases Nat.lt_or_eq_of_le (Nat.le_of_lt_succ hk) with hk | rfl
          · exact absurd hnow (hlast n hk (Nat.lt_succ_self n) id published)
          · exact Option.some.inj (hpublished.symm.trans (hturns.publishes_iff.1 hpublishes).2)
    · rw [hrests.lastResult_eq,
        isLastPublished_succ_iff fun id result => not_publishes hrests result]
      exact ih

/-! ## Who ends as cancelled -/

/-- A resolution that ends as cancelled was cancelled, unless the channel factory says so. -/
theorem isCancelled_of_completes (h : x.Completes n id (.error .cancelled)) :
    (x.state n).resolver.isCancelled id = true
      ∨ x.cache.channels.factory.MayRefuse .cancelled := by
  obtain ⟨before, hturns⟩ := h
  have hturn := hturns.turn
  have hrefuses : ∀ {wanted cache'}, (x.state n).cache.reconcile wanted
      = (.error .cancelled, cache') → x.cache.channels.factory.MayRefuse .cancelled := by
    intro wanted cache' hcache
    rcases Cache.error_of_reconcile hcache with h | h
    · cases h
    · exact x.factory_eq n ▸ h
  generalize (x.state (n + 1)).cache = cache' at hturn
  cases hturn with
  | heeds phase hc => exact .inl hc
  | refusesMembers _ _ _ _ _ _ _ _ _ hcache => exact .inr (hrefuses hcache)
  | refusesSeeds _ _ _ _ hcache => exact .inr (hrefuses hcache)

/-- A cancelled resolution that does not overlook its token completes as cancelled. -/
theorem eq_of_completes {result : Except Error Resolution} (h : x.Completes n id result)
    (hc : (x.state n).resolver.isCancelled id = true) (hlooks : ¬(x.state n).Overlooks id) :
    result = .error .cancelled := by
  obtain ⟨before, hturns⟩ := h
  obtain ⟨-, -, hended⟩ := hturns.of_isCancelled hc fun hoverlooks => absurd hoverlooks hlooks
  exact hended result rfl

/-! ## The result -/

/-- **A cancelled resolution** asks no more nodes, ends in `Error.cancelled` at its next turn if it
is about to ask, waits for an answer or pauses, and is over after three steps of its own at the
latest. It leaves the cache and what is published as they are, and completes as cancelled or not at
all, exactly if it never comes to a turn that overlooks its token, other than to pause over a cache
that holds the seeds already.

At every instant the last result is that of the resolution which was the last to complete in
anything else than `Error.cancelled`. A resolution completes in that error if it was cancelled and
does not overlook it, and, unless the channel factory itself answers so, only if it was
cancelled. -/
theorem cancelled_resolution_obeys (x : DiscoveryRun) :
    (∀ m id, (x.state m).resolver.isCancelled id = true →
      (∀ n, m ≤ n → ∀ resumed arrange now draw contact,
        ((x.state n).resolver.step (x.state n).cache id resumed arrange now draw).1
          ≠ .asked contact)
      ∧ (∀ n, m ≤ n → ∀ phase phase', phase.isAttentive = true →
        x.Turns n id phase phase' → phase' = .ended (.error .cancelled))
      ∧ (∀ n phase, (x.state m).resolver.phase? id = some phase →
        3 ≤ Nat.count (fun k => x.IsStepOf id (m + k)) n →
        ∃ phase', (x.state (m + n)).resolver.phase? id = some phase' ∧ phase'.isOver = true)
      ∧ (x.Obeys m id ↔ ∀ n, m ≤ n → ∀ phase phase', x.Turns n id phase phase' →
        (x.state n).Overlooks id → (x.state n).Pauses id))
    ∧ (∀ n result, (x.state n).resolver.lastResult = some result ↔ x.IsLastPublished n result)
    ∧ ∀ n id result, x.Completes n id result →
      ((x.state n).resolver.isCancelled id = true → ¬(x.state n).Overlooks id →
        result = .error .cancelled)
      ∧ (result = .error .cancelled → (x.state n).resolver.isCancelled id = true
        ∨ x.cache.channels.factory.MayRefuse .cancelled) := by
  refine ⟨fun m id hc => ⟨?_, ?_, ?_, obeys_iff hc⟩, lastResult_eq_iff x,
    fun n id result h => ⟨eq_of_completes h, ?_⟩⟩
  · intro n hmn
    exact Resolver.step_ne_asked (isCancelled_of_le hmn hc) _
  · intro n hmn phase phase' hattentive hturns
    have hturn := hturns.turn
    rw [isCancelled_of_le hmn hc] at hturn
    exact hturn.eq_of_isAttentive hattentive
  · intro n phase hphase hsteps
    exact isOver_of_isCancelled hc hphase (Nat.le_trans phase.stepsLeft_le_three hsteps)
  · rintro rfl
    exact isCancelled_of_completes h

/-- A resolver is shut down together with its cache, before the resolution has begun. -/
def shutDownAtOnce : DiscoveryRun where
  seeds := [⟨"a", 1⟩]
  settings := {}
  cache := (({ channels := { factory := .lazy false } } : Cache).reconcile [⟨"a", 1⟩]).2
  events := fun n => [.come, .advance 0, .advance 0, .advance 0, .shutdown, .use .dispose,
    .step 0 false (fun left => left) 5 0.5].getD n .come

/-- The only caller leaves before the resolution has begun, and the cache is empty. -/
def leftAtOnce : DiscoveryRun where
  seeds := [⟨"a", 1⟩]
  settings := { maxAttempts := 1 }
  cache := { channels := { factory := .lazy false } }
  events := fun n => [.come, .advance 0, .advance 0, .advance 0, .drop 0,
    .step 0 false (fun left => left) 5 0.5, .step 0 false (fun left => left) 5 0.5].getD n .come

/-- Two resolutions that are cancelled before they have begun: one says that the cache was disposed
of, the other puts the seeds into the cache and says that no node has answered. Both results are
published. -/
theorem publishes_of_cancelled_at_once :
    ((shutDownAtOnce.state 6).resolver.isCancelled 0 = true
      ∧ (shutDownAtOnce.state 6).resolver.phase? 0 = some .waiting
      ∧ (shutDownAtOnce.state 7).resolver.phase? 0 = some (.ended (.error Cache.disposedError))
      ∧ (shutDownAtOnce.state 7).resolver.lastResult = some (.error Cache.disposedError)
      ∧ (shutDownAtOnce.state 7).resolver.discoveries = [.discovery .zero 1 false])
    ∧ (leftAtOnce.state 5).resolver.isCancelled 0 = true
      ∧ (leftAtOnce.state 5).resolver.phase? 0 = some .waiting
      ∧ (leftAtOnce.state 5).cache.keys = []
      ∧ (leftAtOnce.state 7).resolver.phase? 0 = some (.ended (.error (Resolver.exhausted 1 [])))
      ∧ (leftAtOnce.state 7).resolver.lastResult = some (.error (Resolver.exhausted 1 []))
      ∧ (leftAtOnce.state 7).resolver.discoveries = [.discovery .zero 1 false]
      ∧ (leftAtOnce.state 7).cache.keys = EndPoint.keys leftAtOnce.seeds :=
  ⟨⟨rfl, rfl, rfl, rfl, rfl⟩, rfl, rfl, rfl, rfl, rfl, rfl, rfl⟩

end DiscoveryRun

end ClusterLink
