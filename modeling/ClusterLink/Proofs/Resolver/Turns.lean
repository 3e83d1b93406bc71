import ClusterLink.Proofs.Resolver.Solitude

/-!
# The turns of a resolution

A resolution goes on in turns: it takes a step of its own, what came of a question is taken in, or
its task breaks down. What a turn makes of the phase and of the cache is told by
`ResolutionPhase.Turn`, which knows no more of the resolver than its seeds, the number of attempts,
and whether the resolution is cancelled. What the resolver keeps otherwise follows from the new
phase (`Resolver.Records`): the result that is published, and the report of it.

Each event of a `Discovery` either gives one resolution a turn (`Discovery.work_perform`) or leaves
all of them as they are (`Discovery.rests_perform`). So the phase of a resolution goes back to the
turn that led to it (`DiscoveryRun.exists_turn`).
-/

namespace ClusterLink

/-- **What a turn comes from**: a step of the resolution, an answer, or a breakdown. -/
inductive TurnCause where
  | step
  | answer (outcome : GossipOutcome)
  | breakDown
  deriving DecidableEq

namespace ResolutionPhase

/-- The result that a resolution in this phase has published. -/
def published? : ResolutionPhase → Option (Except Error Resolution)
  | .ended (.error .cancelled) => none
  | .ended result => some result
  | _ => none

/-- Whether the next turn of the resolution looks at its token first. -/
def isAttentive : ResolutionPhase → Bool
  | .ready _ (_ :: _) _ | .asking .. | .pausing .. => true
  | _ => false

/-- Whether a step of the resolution moves it on. `resumed` tells whether the delay that it waits
for has passed. -/
def isDue (resumed : Bool) : ResolutionPhase → Bool
  | .waiting | .ready .. => true
  | .pausing .. => resumed
  | _ => false

/-- Whether the resolution waits for an answer. -/
def isAsking : ResolutionPhase → Bool
  | .asking .. => true
  | _ => false

/-- **What a turn makes of the phase of a resolution**, and of the cache. -/
inductive Turn (seeds : List EndPoint) (maxAttempts : Nat) (isCancelled : Bool) (cause : TurnCause)
    (cache : Cache) : ResolutionPhase → ResolutionPhase → Cache → Prop where
  | begins (arrange : List Contact → List Contact) (hd : cache.isDisposed = false) :
      Turn seeds maxAttempts isCancelled cause cache .waiting
        (.ready 1 (arrange cache.entries) []) cache
  | resumes (attempt : Nat) (delay : Duration) (arrange : List Contact → List Contact)
      (hc : isCancelled = false) (hd : cache.isDisposed = false) :
      Turn seeds maxAttempts isCancelled cause cache (.pausing attempt delay)
        (.ready (attempt + 1) (arrange cache.entries) []) cache
  | shutOut (phase : ResolutionPhase) (hd : cache.isDisposed = true)
      (hphase : phase = .waiting
        ∨ isCancelled = false ∧ ∃ attempt delay, phase = .pausing attempt delay) :
      Turn seeds maxAttempts isCancelled cause cache phase
        (.ended (.error Cache.disposedError)) cache
  | asks (attempt : Nat) (contact : Contact) (left : List Contact) (failures : List String)
      (hc : isCancelled = false) :
      Turn seeds maxAttempts isCancelled cause cache (.ready attempt (contact :: left) failures)
        (.asking attempt contact left failures) cache
  | heeds (phase : ResolutionPhase) (hc : isCancelled = true) (hphase : phase.isAttentive = true) :
      Turn seeds maxAttempts isCancelled cause cache phase (.ended (.error .cancelled)) cache
  | misses (attempt : Nat) (asked : Contact) (left : List Contact) (failures : List String)
      (outcome : GossipOutcome) (hc : isCancelled = false) (hcause : cause = .answer outcome)
      (hmisses : ∀ members, outcome ≠ .success members) :
      Turn seeds maxAttempts isCancelled cause cache (.asking attempt asked left failures)
        (.ready attempt left (failures ++ [Resolver.complaint asked.1 outcome])) cache
  | finds (asked : Contact) (left : List Contact) (failures : List String)
      (resolution : Resolution) (cache' : Cache) (hc : isCancelled = false)
      (hcause : cause = .answer (.success resolution.members))
      (hsource : resolution.source = asked.1)
      (hcache : cache.reconcile (EndPoint.distinct (resolution.members.map (·.endpoint)))
        = (.ok (), cache')) :
      Turn seeds maxAttempts isCancelled cause cache
        (.asking resolution.attempts asked left failures) (.ended (.ok resolution)) cache'
  | refusesMembers (attempt : Nat) (asked : Contact) (left : List Contact)
      (failures : List String) (members : List Member) (error : Error) (cache' : Cache)
      (hc : isCancelled = false) (hcause : cause = .answer (.success members))
      (hcache : cache.reconcile (EndPoint.distinct (members.map (·.endpoint)))
        = (.error error, cache')) :
      Turn seeds maxAttempts isCancelled cause cache (.asking attempt asked left failures)
        (.ended (.error error)) cache'
  | reseeds (attempt : Nat) (failures : List String) (delay : Duration) (cache' : Cache)
      (hlt : attempt < maxAttempts) (hcache : cache.reconcile seeds = (.ok (), cache')) :
      Turn seeds maxAttempts isCancelled cause cache (.ready attempt [] failures)
        (.pausing attempt delay) cache'
  | exhausts (attempt : Nat) (failures : List String) (cache' : Cache)
      (hle : maxAttempts ≤ attempt) (hcache : cache.reconcile seeds = (.ok (), cache')) :
      Turn seeds maxAttempts isCancelled cause cache (.ready attempt [] failures)
        (.ended (.error (Resolver.exhausted attempt failures))) cache'
  | refusesSeeds (attempt : Nat) (failures : List String) (error : Error) (cache' : Cache)
      (hcache : cache.reconcile seeds = (.error error, cache')) :
      Turn seeds maxAttempts isCancelled cause cache (.ready attempt [] failures)
        (.ended (.error error)) cache'
  | breaks (attempt : Nat) (asked : Contact) (left : List Contact) (failures : List String)
      (hc : isCancelled = false) (hcause : cause = .breakDown) :
      Turn seeds maxAttempts isCancelled cause cache (.asking attempt asked left failures)
        .brokenDown cache

/-- A resolution that is over has no more turns. -/
theorem Turn.isOver_eq {seeds : List EndPoint} {maxAttempts : Nat} {isCancelled : Bool}
    {cause : TurnCause} {cache cache' : Cache} {phase phase' : ResolutionPhase}
    (h : Turn seeds maxAttempts isCancelled cause cache phase phase' cache') :
    phase.isOver = false := by
  cases h with
  | shutOut phase hd hphase =>
    rcases hphase with rfl | ⟨-, attempt, delay, rfl⟩ <;> rfl
  | heeds phase hc hphase => cases phase <;> first | rfl | cases hphase
  | _ => rfl

/-- **A turn that finds no node left to ask** puts the seeds into the cache, and pauses or gives up,
or the cache refuses the seeds. -/
theorem Turn.of_none_left {seeds : List EndPoint} {maxAttempts : Nat} {isCancelled : Bool}
    {cause : TurnCause} {cache cache' : Cache} {attempt : Nat} {failures : List String}
    {phase' : ResolutionPhase}
    (h : Turn seeds maxAttempts isCancelled cause cache (.ready attempt [] failures) phase'
      cache') :
    cache.reconcile seeds = (.ok (), cache')
        ∧ (attempt < maxAttempts ∧ (∃ delay, phase' = .pausing attempt delay)
          ∨ maxAttempts ≤ attempt
            ∧ phase' = .ended (.error (Resolver.exhausted attempt failures)))
      ∨ ∃ error, cache.reconcile seeds = (.error error, cache')
        ∧ phase' = .ended (.error error) := by
  cases h with
  | shutOut phase hd hphase => rcases hphase with h | ⟨-, attempt', delay, h⟩ <;> cases h
  | heeds phase hc hattentive => cases hattentive
  | reseeds _ _ delay _ hlt hcache => exact .inl ⟨hcache, .inl ⟨hlt, delay, rfl⟩⟩
  | exhausts _ _ _ hle hcache => exact .inl ⟨hcache, .inr ⟨hle, rfl⟩⟩
  | refusesSeeds _ _ error _ hcache => exact .inr ⟨error, hcache, rfl⟩

/-- **A turn of a cancelled resolution**: it heeds its token, it begins, or there is no node left to
ask. -/
theorem Turn.of_cancelled {seeds : List EndPoint} {maxAttempts : Nat} {cause : TurnCause}
    {cache cache' : Cache} {phase phase' : ResolutionPhase}
    (h : Turn seeds maxAttempts true cause cache phase phase' cache') :
    phase.isAttentive = true ∧ phase' = .ended (.error .cancelled) ∧ cache' = cache
      ∨ phase = .waiting ∧ cache' = cache
        ∧ (cache.isDisposed = false ∧ (∃ contacts, phase' = .ready 1 contacts [])
          ∨ cache.isDisposed = true ∧ phase' = .ended (.error Cache.disposedError))
      ∨ ∃ attempt failures, phase = .ready attempt [] failures := by
  cases h with
  | heeds phase hc hattentive => exact .inl ⟨hattentive, rfl, rfl⟩
  | begins arrange hd => exact .inr (.inl ⟨rfl, rfl, .inl ⟨hd, _, rfl⟩⟩)
  | shutOut phase hd hphase =>
    rcases hphase with rfl | ⟨hc, -⟩
    · exact .inr (.inl ⟨rfl, rfl, .inr ⟨hd, rfl⟩⟩)
    · cases hc
  | reseeds attempt failures | exhausts attempt failures | refusesSeeds attempt failures =>
    exact .inr (.inr ⟨attempt, failures, rfl⟩)
  -- every other turn is one of a resolution that goes on
  | resumes _ _ _ hc | asks _ _ _ _ hc | misses _ _ _ _ _ hc | finds _ _ _ _ _ hc
  | refusesMembers _ _ _ _ _ _ _ hc | breaks _ _ _ _ hc => cases hc

end ResolutionPhase

/-- Whether the report is of a resolution that has ended. -/
def Metric.isDiscovery : Metric → Bool
  | .discovery .. => true
  | _ => false

namespace Resolver

/-- The reports of the resolutions that have ended. -/
def discoveries (r : Resolver) : List Metric := r.log.filter Metric.isDiscovery

/-! ## What a resolver records -/

/-- **The resolver records how far a resolution has come**, and publishes its result. -/
structure Records (r : Resolver) (id : Nat) (phase : ResolutionPhase) (r' : Resolver) : Prop where
  phase?_eq : r'.phase? id = some phase
  phase?_ne : ∀ k, k ≠ id → r'.phase? k = r.phase? k
  seeds_eq : r'.seeds = r.seeds
  settings_eq : r'.settings = r.settings
  lastResult_eq : r'.lastResult = phase.published?.or r.lastResult
  discoveries_of_none : phase.published? = none → r'.discoveries = r.discoveries
  discoveries_of_some : ∀ result, phase.published? = some result → ∃ duration attempts,
    r'.discoveries = r.discoveries ++ [.discovery duration attempts result.isOk]

theorem phase?_modify (r : Resolver) (id k : Nat) (f : ResolutionTask → ResolutionTask) :
    phase? { r with tasks := r.tasks.modify id f } k
      = (r.tasks[k]?).map fun t => (if id = k then f t else t).phase := by
  rw [phase?, List.getElem?_modify, Option.map_eq_map, Option.map_map]
  rfl

theorem phase?_modify_self {r : Resolver} {id : Nat} {phase phase' : ResolutionPhase}
    (hphase : r.phase? id = some phase) {f : ResolutionTask → ResolutionTask}
    (hf : ∀ t, (f t).phase = phase') :
    phase? { r with tasks := r.tasks.modify id f } id = some phase' := by
  obtain ⟨t, ht, -⟩ := Option.map_eq_some_iff.1 hphase
  rw [phase?_modify, ht, Option.map_some, if_pos rfl, hf]

theorem phase?_modify_ne (r : Resolver) {id k : Nat} (hk : k ≠ id)
    (f : ResolutionTask → ResolutionTask) :
    phase? { r with tasks := r.tasks.modify id f } k = r.phase? k := by
  rw [phase?_modify, phase?]
  congr 1
  funext t
  rw [if_neg (Ne.symm hk)]

/-- What else is known of a resolution does not matter. -/
theorem phase?_modify_of_phase_eq (r : Resolver) (id k : Nat)
    {f : ResolutionTask → ResolutionTask} (hf : ∀ t, (f t).phase = t.phase) :
    phase? { r with tasks := r.tasks.modify id f } k = r.phase? k := by
  rw [phase?_modify, phase?]
  congr 1
  funext t
  split
  · exact hf t
  · rfl

theorem phase?_setStarted (r : Resolver) (id k : Nat) (now : Instant) :
    (r.setStarted id now).phase? k = r.phase? k :=
  phase?_modify_of_phase_eq r id k fun _ => rfl

namespace Records

variable {r r₀ r' : Resolver} {id : Nat} {phase phase' : ResolutionPhase}

/-- What else a resolver keeps may change before. -/
theorem of_eq (h : Records r₀ id phase r') (hphase : ∀ k, r₀.phase? k = r.phase? k)
    (hseeds : r₀.seeds = r.seeds) (hsettings : r₀.settings = r.settings)
    (hlast : r₀.lastResult = r.lastResult) (hdiscoveries : r₀.discoveries = r.discoveries) :
    Records r id phase r' where
  phase?_eq := h.phase?_eq
  phase?_ne := fun k hk => (h.phase?_ne k hk).trans (hphase k)
  seeds_eq := h.seeds_eq.trans hseeds
  settings_eq := h.settings_eq.trans hsettings
  lastResult_eq := hlast ▸ h.lastResult_eq
  discoveries_of_none := fun hnone => (h.discoveries_of_none hnone).trans hdiscoveries
  discoveries_of_some := hdiscoveries ▸ h.discoveries_of_some

/-- The resolution may have asked a node before. -/
theorem of_asked {asked : EndPoint} {outcome : GossipOutcome}
    (h : Records { r with log := r.log ++ [askedReport asked outcome] } id phase r') :
    Records r id phase r' := by
  refine h.of_eq (fun _ => rfl) rfl rfl rfl ?_
  rw [discoveries, List.filter_append]
  exact List.append_nil _

/-- The time of the start may have been set before. -/
theorem of_setStarted {now : Instant} (h : Records (r.setStarted id now) id phase r') :
    Records r id phase r' :=
  h.of_eq (fun k => phase?_setStarted r id k now) rfl rfl rfl rfl

theorem modify (hphase : r.phase? id = some phase) {f : ResolutionTask → ResolutionTask}
    (hf : ∀ t, (f t).phase = phase') (hnone : phase'.published? = none) :
    Records r id phase' { r with tasks := r.tasks.modify id f } where
  phase?_eq := phase?_modify_self hphase hf
  phase?_ne := fun _ hk => phase?_modify_ne r hk f
  seeds_eq := rfl
  settings_eq := rfl
  lastResult_eq := by rw [hnone]; rfl
  discoveries_of_none := fun _ => rfl
  discoveries_of_some := by
    intro result hsome
    cases hnone.symm.trans hsome

theorem setPhase (hphase : r.phase? id = some phase) (hnone : phase'.published? = none) :
    Records r id phase' (r.setPhase id phase') :=
  modify hphase (fun _ => rfl) hnone

/-- **A resolution that ends publishes its result**, unless that says that it was cancelled. -/
theorem finish (hphase : r.phase? id = some phase) (attempts : Nat)
    (result : Except Error Resolution) (now : Instant) :
    Records r id (.ended result) (r.finish id attempts result now) := by
  obtain ⟨task, htask, -⟩ := Option.map_eq_some_iff.1 hphase
  have hself : (r.setPhase id (.ended result)).phase? id = some (.ended result) :=
    phase?_modify_self hphase fun _ => rfl
  have hother : ∀ k, k ≠ id → (r.setPhase id (.ended result)).phase? k = r.phase? k :=
    fun _ hk => phase?_modify_ne r hk _
  unfold Resolver.finish
  rw [htask]
  dsimp only
  split
  · exact ⟨hself, hother, rfl, rfl, rfl, fun _ => rfl, nofun⟩
  · rename_i hne
    have hpublished : (ResolutionPhase.ended result).published? = some result := by
      unfold ResolutionPhase.published?
      split
      · rename_i heq
        cases heq
        exact (hne rfl).elim
      · rename_i heq
        cases heq
        rfl
      · rename_i hended
        exact (hended result rfl).elim
    rw [if_neg Bool.false_ne_true]
    refine ⟨hself, hother, rfl, rfl, by rw [hpublished]; rfl, fun hnone => ?_,
      fun result' hsome => ?_⟩
    · cases hpublished.symm.trans hnone
    · cases hpublished.symm.trans hsome
      refine ⟨Duration.between task.started now, attempts, ?_⟩
      rw [discoveries, List.filter_append]
      rfl

end Records

/-! ## The work on a resolution -/

/-- A step of the resolution may come to nothing: it is over, or it waits and is not cancelled. -/
def MayIdle (r : Resolver) (id : Nat) : Prop :=
  ∀ phase, r.phase? id = some phase → r.isCancelled id = true → phase.isOver = true

/-- The resolution may idle, and this step of it is not due. -/
def IdlesOver (r : Resolver) (id : Nat) (resumed : Bool) : Prop :=
  r.MayIdle id ∧ ∀ phase, r.phase? id = some phase → phase.isDue resumed = false

/-- **What the work on a resolution does**: nothing, where it may idle, or it gives the resolution a
turn. -/
inductive Work (r : Resolver) (cache : Cache) (id : Nat) (cause : TurnCause)
    (idle : Prop) : Resolver → Cache → Prop where
  | rest (hidle : idle) : Work r cache id cause idle r cache
  | turn (phase phase' : ResolutionPhase) (r' : Resolver) (cache' : Cache)
      (hphase : r.phase? id = some phase)
      (hturn : ResolutionPhase.Turn r.seeds r.settings.maxAttempts (r.isCancelled id) cause cache
        phase phase' cache')
      (hrecords : Records r id phase' r') : Work r cache id cause idle r' cache'

section

variable {r : Resolver} {cache : Cache} {id : Nat} {cause : TurnCause} {idle : Prop}

theorem Work.mono {idle' : Prop} {r' : Resolver} {cache' : Cache}
    (h : Work r cache id cause idle r' cache') (himp : idle → idle') :
    Work r cache id cause idle' r' cache' := by
  cases h with
  | rest hidle => exact .rest (himp hidle)
  | turn phase phase' _ _ hphase hturn hrecords =>
    exact .turn phase phase' r' cache' hphase hturn hrecords

/-- An attempt that begins takes the cached nodes, if the cache still lets it. -/
theorem work_beginAttempt {phase : ResolutionPhase} (hphase : r.phase? id = some phase)
    {attempt : Nat} {arrange : List Contact → List Contact} {now : Instant} {r₀ : Resolver}
    (hphase₀ : r₀.phase? id = some phase)
    (hrecords : ∀ {phase' r'}, Records r₀ id phase' r' → Records r id phase' r')
    (hout : cache.isDisposed = true → ResolutionPhase.Turn r.seeds r.settings.maxAttempts
      (r.isCancelled id) cause cache phase (.ended (.error Cache.disposedError)) cache)
    (hready : cache.isDisposed = false → ResolutionPhase.Turn r.seeds r.settings.maxAttempts
      (r.isCancelled id) cause cache phase (.ready attempt (arrange cache.entries) []) cache) :
    Work r cache id cause idle (r₀.beginAttempt cache id attempt arrange now) cache := by
  unfold beginAttempt Cache.snapshot
  cases hd : cache.isDisposed with
  | true => exact .turn phase _ _ cache hphase (hout hd) (hrecords (.finish hphase₀ ..))
  | false => exact .turn phase _ _ cache hphase (hready hd) (hrecords (.setPhase hphase₀ rfl))

/-- An attempt that fails puts the seeds into the cache. -/
theorem work_failAttempt {attempt : Nat} {failures : List String}
    (hphase : r.phase? id = some (.ready attempt [] failures)) (now : Instant) (draw : Float) :
    Work r cache id cause idle (r.failAttempt cache id attempt failures now draw).1
      (r.failAttempt cache id attempt failures now draw).2 := by
  obtain ⟨task, htask, -⟩ := Option.map_eq_some_iff.1 hphase
  unfold failAttempt
  split
  · rename_i error cache' hcache
    exact .turn _ _ _ cache' hphase (.refusesSeeds attempt failures error cache' hcache)
      (.finish hphase ..)
  · rename_i cache' hcache
    split
    · rename_i hlt
      rw [htask]
      exact .turn _ _ _ cache' hphase (.reseeds attempt failures _ cache' hlt hcache)
        (.modify hphase (fun _ => rfl) rfl)
    · rename_i hle
      exact .turn _ _ _ cache' hphase
        (.exhausts attempt failures cache' (Nat.not_lt.1 hle) hcache) (.finish hphase ..)

/-- **A step of a resolution** gives it a turn, or does nothing. -/
theorem work_step (r : Resolver) (cache : Cache) (id : Nat) (resumed : Bool)
    (arrange : List Contact → List Contact) (now : Instant) (draw : Float) :
    Work r cache id .step (r.IdlesOver id resumed) (r.step cache id resumed arrange now draw).2.1
      (r.step cache id resumed arrange now draw).2.2 := by
  have hcancel : ∀ {phase : ResolutionPhase}, r.phase? id = some phase →
      phase.isAttentive = true → r.isCancelled id = true → ∀ attempt,
      Work r cache id .step (r.IdlesOver id resumed)
        (r.finish id attempt (.error .cancelled) now) cache :=
    fun hphase hattentive hc attempt =>
      .turn _ _ _ cache hphase (.heeds _ hc hattentive) (.finish hphase ..)
  have hwaits : ∀ {phase : ResolutionPhase}, r.phase? id = some phase →
      phase.isDue resumed = false → r.isCancelled id = false →
      Work r cache id .step (r.IdlesOver id resumed) r cache :=
    fun hphase hdue hc => .rest ⟨fun _ _ hc' => (nomatch hc.symm.trans hc'),
      fun _ hphase' => Option.some.inj (hphase.symm.trans hphase') ▸ hdue⟩
  unfold step
  cases hphase : r.phase? id with
  | none =>
    exact .rest ⟨fun _ hphase' _ => (nomatch hphase.symm.trans hphase'),
      fun _ hphase' => (nomatch hphase.symm.trans hphase')⟩
  | some phase =>
    cases phase with
    | waiting =>
      exact work_beginAttempt hphase ((phase?_setStarted r id id now).trans hphase)
        Records.of_setStarted (fun hd => .shutOut _ hd (.inl rfl)) fun hd => .begins arrange hd
    | ready attempt left failures =>
      cases left with
      | nil => exact work_failAttempt hphase now draw
      | cons contact left =>
        dsimp only
        split
        · exact hcancel hphase rfl ‹_› attempt
        · rename_i hc
          exact .turn _ _ _ cache hphase
            (.asks attempt contact left failures (Bool.eq_false_iff.2 hc)) (.setPhase hphase rfl)
    | asking attempt asked left failures =>
      dsimp only
      split
      · exact hcancel hphase rfl ‹_› attempt
      · exact hwaits hphase rfl (Bool.eq_false_iff.2 ‹_›)
    | pausing attempt delay =>
      dsimp only
      split
      · exact hcancel hphase rfl ‹_› attempt
      · rename_i hc
        have hc' : r.isCancelled id = false := Bool.eq_false_iff.2 hc
        split
        · exact work_beginAttempt hphase hphase (fun h => h)
            (fun hd => .shutOut _ hd (.inr ⟨hc', attempt, delay, rfl⟩))
            fun hd => .resumes attempt delay arrange hc' hd
        · exact hwaits hphase (Bool.eq_false_iff.2 ‹_›) hc'
    | brokenDown | ended =>
      exact .rest ⟨fun _ hphase' _ => by cases hphase.symm.trans hphase'; rfl,
        fun _ hphase' => by cases hphase.symm.trans hphase'; rfl⟩

/-- A member table that was found is put into the cache. -/
theorem work_succeed {attempt : Nat} {asked : Contact} {left : List Contact}
    {failures : List String}
    (hphase : r.phase? id = some (.asking attempt asked left failures))
    (hc : r.isCancelled id = false) {members : List Member}
    (hcause : cause = .answer (.success members)) {r₀ : Resolver}
    (hphase₀ : r₀.phase? id = some (.asking attempt asked left failures))
    (hrecords : ∀ {phase' r'}, Records r₀ id phase' r' → Records r id phase' r')
    (now : Instant) :
    Work r cache id cause idle (r₀.succeed cache id attempt asked.1 members now).1
      (r₀.succeed cache id attempt asked.1 members now).2 := by
  obtain ⟨task, htask, -⟩ := Option.map_eq_some_iff.1 hphase₀
  unfold succeed
  split
  · rename_i error cache' hcache
    exact .turn _ _ _ cache' hphase
      (.refusesMembers attempt asked left failures members error cache' hc hcause hcache)
      (hrecords (.finish hphase₀ ..))
  · rename_i cache' hcache
    rw [htask]
    exact .turn _ _ _ cache' hphase
      (.finds asked left failures ⟨members, asked.1, attempt, _⟩ cache' hc hcause rfl hcache)
      (hrecords (.finish hphase₀ ..))

/-- **Taking in what came of a question** gives the resolution a turn, or does nothing. -/
theorem work_takeIn (r : Resolver) (cache : Cache) (id : Nat) (outcome : GossipOutcome)
    (now : Instant) :
    Work r cache id (.answer outcome)
      (∀ phase, r.phase? id = some phase → phase.isAsking = false)
      (r.takeIn cache id outcome now).1 (r.takeIn cache id outcome now).2 := by
  unfold takeIn
  split
  · rename_i attempt asked left failures hphase
    split
    · rename_i hc
      exact .turn _ _ _ cache hphase (.heeds _ hc rfl) (.finish hphase ..)
    · rename_i hc
      have hc' : r.isCancelled id = false := Bool.eq_false_iff.2 hc
      dsimp only
      split
      · refine work_succeed hphase hc' rfl ?_ Records.of_asked now
        exact hphase
      · rename_i hmisses
        exact .turn _ _ _ cache hphase
          (.misses attempt asked left failures outcome hc' rfl hmisses)
          (Records.of_asked (.setPhase hphase rfl))
  · rename_i hnot
    refine .rest fun phase hphase => ?_
    cases phase with
    | asking attempt asked left failures => exact absurd hphase (hnot attempt asked left failures)
    | _ => rfl

/-- **A breakdown** gives the resolution a turn, or does nothing. -/
theorem work_breakDown (r : Resolver) (cache : Cache) (id : Nat) :
    Work r cache id .breakDown True (r.breakDown id) cache := by
  unfold breakDown
  split
  · rename_i attempt asked left failures hphase
    split
    · exact .rest trivial
    · rename_i hc
      exact .turn _ _ _ cache hphase
        (.breaks attempt asked left failures (Bool.eq_false_iff.2 hc) rfl) (.setPhase hphase rfl)
  · exact .rest trivial

end

/-! ## What leaves the resolutions as they are -/

/-- **The resolutions rest**: none of them goes on, though new ones may have been started. -/
structure Rests (r r' : Resolver) : Prop where
  seeds_eq : r'.seeds = r.seeds
  settings_eq : r'.settings = r.settings
  lastResult_eq : r'.lastResult = r.lastResult
  log_eq : r'.log = r.log
  phase?_eq : ∀ (id : Nat) (phase : ResolutionPhase), r.phase? id = some phase →
    r'.phase? id = some phase
  phase?_new : ∀ id, r.phase? id = none → r'.phase? id = none ∨ r'.phase? id = some .waiting

namespace Rests

variable {r r' r'' : Resolver}

theorem refl (r : Resolver) : Rests r r :=
  ⟨rfl, rfl, rfl, rfl, fun _ _ h => h, fun _ h => .inl h⟩

/-- What a resolver keeps of its callers does not matter. -/
theorem of_eq (h : Rests r r') (hseeds : r''.seeds = r'.seeds)
    (hsettings : r''.settings = r'.settings) (hlast : r''.lastResult = r'.lastResult)
    (hlog : r''.log = r'.log) (htasks : r''.tasks = r'.tasks) : Rests r r'' where
  seeds_eq := hseeds.trans h.seeds_eq
  settings_eq := hsettings.trans h.settings_eq
  lastResult_eq := hlast.trans h.lastResult_eq
  log_eq := hlog.trans h.log_eq
  phase?_eq := by simpa only [phase?, htasks] using h.phase?_eq
  phase?_new := by simpa only [phase?, htasks] using h.phase?_new

theorem join (r : Resolver) : Rests r r.join.2 := by
  unfold Resolver.join
  split
  · exact (refl r).of_eq rfl rfl rfl rfl rfl
  · refine ⟨rfl, rfl, rfl, rfl, fun id phase h => ?_, fun id h => ?_⟩
    · obtain ⟨t, ht, rfl⟩ := Option.map_eq_some_iff.1 h
      rw [phase?, List.getElem?_append_left (List.getElem?_eq_some_iff.1 ht).1, ht, Option.map_some]
    · -- the resolution that was started is the only new one
      rw [phase?, List.getElem?_append_right
        (List.getElem?_eq_none_iff.1 (Option.map_eq_none_iff.1 h))]
      cases id - r.tasks.length with
      | zero => exact .inr rfl
      | succ k => exact .inl rfl

theorem leave (r : Resolver) (id : Nat) : Rests r (r.leave id) := by
  unfold Resolver.leave
  split
  · exact refl r
  · split
    · exact refl r
    · split
      · exact (refl r).of_eq rfl rfl rfl rfl rfl
      · have hphase := fun k => phase?_modify_of_phase_eq r id k
          (f := fun t => { t with isCalledOff := true }) fun _ => rfl
        exact ⟨rfl, rfl, rfl, rfl, fun k phase h => (hphase k).trans h,
          fun k h => .inl ((hphase k).trans h)⟩

theorem quit (r : Resolver) (call : RefreshCall) : Rests r (r.quit call) := by
  unfold Resolver.quit
  split
  · exact refl r
  · exact leave r _

theorem advanceCall {call call' : RefreshCall} {isCancelled : Bool}
    (h : r.advanceCall call isCancelled = some (call', r')) : Rests r r' := by
  cases callStep_of_advanceCall h with
  | joined => exact join r
  | left id => exact leave r id
  | _ => exact refl r

theorem refreshStep {now : Instant} (h : r.refreshStep now = some r') : Rests r r' := by
  rcases refreshStep_cases h with ⟨phase, -, -, rfl⟩
    | ⟨call, due, call', r₀, phase, -, hcall, -, rfl⟩
  · exact (refl r).of_eq rfl rfl rfl rfl rfl
  · exact (advanceCall hcall).of_eq rfl rfl rfl rfl rfl

theorem shutdown (r : Resolver) : Rests r r.shutdown := by
  have hshut : Rests r { r with isShutDown := true } := (refl r).of_eq rfl rfl rfl rfl rfl
  unfold Resolver.shutdown Resolver.stopRefresh
  split
  · rename_i call due _
    have hquit := quit { r with isShutDown := true } call
    exact ⟨hquit.seeds_eq, hquit.settings_eq, hquit.lastResult_eq, hquit.log_eq,
      hquit.phase?_eq, hquit.phase?_new⟩
  · exact hshut.of_eq rfl rfl rfl rfl rfl

end Rests

end Resolver

/-! ## One event -/

/-- The resolution that an event works on. -/
def DiscoveryEvent.worksOn? : DiscoveryEvent → Option Nat
  | .step id .. | .answer id .. | .breakDown id => some id
  | _ => none

/-- What the turn comes from that an event gives to a resolution. -/
def DiscoveryEvent.cause : DiscoveryEvent → TurnCause
  | .answer _ outcome _ => .answer outcome
  | .breakDown _ => .breakDown
  | _ => .step

namespace Discovery

/-- **An event that works on a resolution** gives it a turn, or does nothing. -/
theorem work_perform {event : DiscoveryEvent} {id : Nat} (h : event.worksOn? = some id)
    (d : Discovery) :
    Resolver.Work d.resolver d.cache id event.cause (event.cause = .step → d.resolver.MayIdle id)
      (d.perform event).resolver (d.perform event).cache := by
  cases event with
  | step id resumed arrange now draw =>
    cases h
    exact (Resolver.work_step d.resolver d.cache id resumed arrange now draw).mono fun hidle _ =>
      hidle.1
  | answer id outcome now =>
    cases h
    exact (Resolver.work_takeIn d.resolver d.cache id outcome now).mono fun _ => nofun
  | breakDown id =>
    cases h
    exact (Resolver.work_breakDown d.resolver d.cache id).mono fun _ => nofun
  | _ => cases h

/-- **Any other event leaves the resolutions as they are.** -/
theorem rests_perform {event : DiscoveryEvent} (h : event.worksOn? = none) (d : Discovery) :
    Resolver.Rests d.resolver (d.perform event).resolver := by
  cases event with
  | come | use => exact .refl _
  | cancel i =>
    show Resolver.Rests _ (d.cancelRequest i).resolver
    unfold cancelRequest
    split <;> exact .refl _
  | advance i =>
    show Resolver.Rests _ (d.stepRequest i).resolver
    unfold stepRequest
    split
    · exact .refl _
    · split
      · exact .refl _
      · exact .advanceCall ‹_›
  | drop i =>
    show Resolver.Rests _ (d.dropRequest i).resolver
    unfold dropRequest
    split
    · exact .refl _
    · exact .quit _ _
  | startRefresh =>
    show Resolver.Rests _ d.resolver.startRefresh.2
    unfold Resolver.startRefresh
    split
    · exact .refl _
    · exact (Resolver.Rests.refl _).of_eq rfl rfl rfl rfl rfl
  | refreshStep now =>
    show Resolver.Rests _ ((d.resolver.refreshStep now).getD d.resolver)
    cases hstep : d.resolver.refreshStep now with
    | none => exact .refl _
    | some r => exact .refreshStep hstep
  | shutdown => exact .shutdown _
  | step | answer | breakDown => cases h

end Discovery

/-! ## Whole runs -/

namespace DiscoveryRun

/-- **The resolution takes a turn** from one instant to the next. -/
structure Turns (x : DiscoveryRun) (n id : Nat) (phase phase' : ResolutionPhase) : Prop where
  worksOn?_eq : (x.events n).worksOn? = some id
  phase?_eq : (x.state n).resolver.phase? id = some phase
  turn : ResolutionPhase.Turn (x.state n).resolver.seeds (x.state n).resolver.settings.maxAttempts
    ((x.state n).resolver.isCancelled id) (x.events n).cause (x.state n).cache phase phase'
    (x.state (n + 1)).cache
  records : Resolver.Records (x.state n).resolver id phase' (x.state (n + 1)).resolver

variable {x : DiscoveryRun} {n id : Nat}

/-- **The work on a resolution** is a turn of it, or comes to nothing. -/
theorem turns_or_idles (h : (x.events n).worksOn? = some id) :
    (∃ phase phase', x.Turns n id phase phase')
      ∨ (x.state (n + 1)).resolver = (x.state n).resolver
        ∧ (x.state (n + 1)).cache = (x.state n).cache
        ∧ ((x.events n).cause = .step → (x.state n).resolver.MayIdle id) := by
  have hwork : Resolver.Work (x.state n).resolver (x.state n).cache id (x.events n).cause
      ((x.events n).cause = .step → (x.state n).resolver.MayIdle id)
      (x.state (n + 1)).resolver (x.state (n + 1)).cache := Discovery.work_perform h (x.state n)
  generalize hr : (x.state (n + 1)).resolver = r' at hwork
  generalize hc : (x.state (n + 1)).cache = cache' at hwork
  cases hwork with
  | rest hidle => exact .inr ⟨rfl, rfl, hidle⟩
  | turn phase phase' _ _ hphase hturn hrecords =>
    subst hr hc
    exact .inl ⟨phase, phase', h, hphase, hturn, hrecords⟩

/-- **From one instant to the next** a resolution takes a turn, or all of them rest. If it is the
work on a resolution that comes to nothing, the cache is left alone. -/
theorem turns_or_rests (x : DiscoveryRun) (n : Nat) :
    (∃ id phase phase', x.Turns n id phase phase')
      ∨ Resolver.Rests (x.state n).resolver (x.state (n + 1)).resolver
        ∧ ((x.events n).worksOn? = none ∨ (x.state (n + 1)).cache = (x.state n).cache) := by
  cases hworks : (x.events n).worksOn? with
  | none => exact .inr ⟨Discovery.rests_perform hworks _, .inl rfl⟩
  | some id =>
    rcases turns_or_idles hworks with ⟨phase, phase', hturns⟩ | ⟨hsame, hcache, -⟩
    · exact .inl ⟨id, phase, phase', hturns⟩
    · exact .inr ⟨hsame ▸ .refl _, .inr hcache⟩

/-- **A resolution is in a phase** since it was in it before, since it is new, or by a turn. -/
theorem phase_cases {phase : ResolutionPhase}
    (h : (x.state (n + 1)).resolver.phase? id = some phase) :
    (x.state n).resolver.phase? id = some phase
      ∨ (x.state n).resolver.phase? id = none ∧ phase = .waiting
      ∨ ∃ before, x.Turns n id before phase := by
  rcases turns_or_rests x n with ⟨id', before, phase', hturns⟩ | ⟨hrests, -⟩
  · by_cases hid : id = id'
    · subst hid
      cases hturns.records.phase?_eq.symm.trans h
      exact .inr (.inr ⟨before, hturns⟩)
    · exact .inl ((hturns.records.phase?_ne id hid).symm.trans h)
  · cases hphase : (x.state n).resolver.phase? id with
    | none =>
      rcases hrests.phase?_new id hphase with hnone | hwaiting
      · cases hnone.symm.trans h
      · exact .inr (.inl ⟨rfl, Option.some.inj (h.symm.trans hwaiting)⟩)
    | some before => exact .inl ((hrests.phase?_eq id before hphase).symm.trans h)

/-- **A resolution goes to another phase** by a turn. -/
theorem turns_of_ne {phase phase' : ResolutionPhase}
    (hphase : (x.state n).resolver.phase? id = some phase)
    (hphase' : (x.state (n + 1)).resolver.phase? id = some phase') (hne : phase ≠ phase') :
    x.Turns n id phase phase' := by
  rcases phase_cases hphase' with hsame | ⟨hnone, -⟩ | ⟨before, hturns⟩
  · exact absurd (Option.some.inj (hphase.symm.trans hsame)) hne
  · cases hphase.symm.trans hnone
  · cases hphase.symm.trans hturns.phase?_eq
    exact hturns

/-- **The phase of a resolution goes back to a turn**, if it has begun. -/
theorem exists_turn {phase : ResolutionPhase}
    (h : (x.state n).resolver.phase? id = some phase) :
    phase = .waiting ∨ ∃ k < n, ∃ before, x.Turns k id before phase := by
  induction n generalizing phase with
  | zero => cases h
  | succ n ih =>
    rcases phase_cases h with hbefore | ⟨-, hwaiting⟩ | ⟨before, hturns⟩
    · exact (ih hbefore).imp_right fun ⟨k, hk, hturns⟩ => ⟨k, Nat.lt_succ_of_lt hk, hturns⟩
    · exact .inl hwaiting
    · exact .inr ⟨n, Nat.lt_succ_self n, before, hturns⟩

/-- The seeds and the settings stay as they are. -/
theorem seeds_and_settings_eq (x : DiscoveryRun) (n : Nat) :
    (x.state n).resolver.seeds = x.seeds ∧ (x.state n).resolver.settings = x.settings := by
  induction n with
  | zero => exact ⟨rfl, rfl⟩
  | succ n ih =>
    rcases turns_or_rests x n with ⟨id, phase, phase', hturns⟩ | ⟨hrests, -⟩
    · exact ⟨hturns.records.seeds_eq.trans ih.1, hturns.records.settings_eq.trans ih.2⟩
    · exact ⟨hrests.seeds_eq.trans ih.1, hrests.settings_eq.trans ih.2⟩

end DiscoveryRun

end ClusterLink
