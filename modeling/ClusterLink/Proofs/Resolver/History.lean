import ClusterLink.Proofs.Resolver.Waiters

/-!
# Histories of a resolver

A resolver, the cache that it shares with others, and the calls for a refresh are exposed to events,
one after another (`DiscoveryEvent`): calls come, take their steps, are cancelled by their token or
dropped, resolutions go on, nodes answer or break a resolution down, the refresh in the background
is started and takes its steps, others use the cache, and the resolver is shut down. Nothing is
assumed about their order. A `DiscoveryRun` takes a new resolver through a sequence of events, and
`DiscoveryRun.state` is where it has come.

At every instant the count of waiters is right (`DiscoveryRun.counts`), and between two instants the
resolutions go on (`DiscoveryRun.grows`) and each call does as `Discovery.Change.request_cases`
says.
-/

namespace ClusterLink

/-- **A call for a refresh** and its token. -/
structure Request where
  call : RefreshCall := .fresh
  /-- Whether the token of the call is cancelled. -/
  isCancelled : Bool := false

/-- **A resolver with its cache and its calls**, in the order in which they came. -/
structure Discovery where
  resolver : Resolver
  cache : Cache
  requests : List Request := []

/-- **What may happen to a resolver**, its cache and its calls. -/
inductive DiscoveryEvent where
  /-- A call comes. -/
  | come
  /-- The token of a call is cancelled. -/
  | cancel (request : Nat)
  /-- A call takes its next step. -/
  | advance (request : Nat)
  /-- A call is dropped. -/
  | drop (request : Nat)
  /-- A resolution takes its next step. -/
  | step (id : Nat) (resumed : Bool) (arrange : List Contact → List Contact) (now : Instant)
    (draw : Float)
  /-- Something comes of asking a node. -/
  | answer (id : Nat) (outcome : GossipOutcome) (now : Instant)
  /-- The task of a resolution breaks down. -/
  | breakDown (id : Nat)
  | startRefresh
  /-- The refresh in the background takes its next step. -/
  | refreshStep (now : Instant)
  | shutdown
  /-- Somebody else uses the cache. -/
  | use (use : Cache.Use)

/-- Only a caller has a part in this event. -/
def DiscoveryEvent.IsOfCaller : DiscoveryEvent → Prop
  | .come | .cancel _ | .advance _ | .drop _ | .startRefresh | .refreshStep _ => True
  | _ => False

/-- Where a call is left that is dropped. -/
def RefreshCall.drop : RefreshCall → RefreshCall
  | .done result => .done result
  | _ => .gone

/-- How often the refresh in the background counts among the waiters of a resolution. -/
def RefreshPhase.weight (phase : RefreshPhase) (id : Nat) : Nat :=
  match phase.call? with
  | none => 0
  | some call => call.weight id

theorem RefreshPhase.weight_of_none {phase : RefreshPhase}
    (h : phase.call? = none ∨ phase.call? = some .fresh) (k : Nat) : phase.weight k = 0 := by
  unfold weight
  rcases h with h | h
  · rw [h]
  · rw [h]
    exact RefreshCall.weight_of_none rfl k

namespace Discovery

/-- The number of calls that hold on to a resolution. -/
def guards (d : Discovery) (id : Nat) : Nat :=
  d.requests.countP (·.call.holds id) + d.resolver.refresh.weight id

/-- The token of a call is cancelled. -/
def cancelRequest (d : Discovery) (request : Nat) : Discovery :=
  match d.requests[request]? with
  | none => d
  | some q => { d with requests := d.requests.set request { q with isCancelled := true } }

/-- A call takes its next step; one that has to wait takes none. -/
def stepRequest (d : Discovery) (request : Nat) : Discovery :=
  match d.requests[request]? with
  | none => d
  | some q =>
    match d.resolver.advanceCall q.call q.isCancelled with
    | none => d
    | some (call, r) =>
      { d with resolver := r, requests := d.requests.set request { q with call := call } }

/-- A call is dropped, and leaves the resolution that it waits for. -/
def dropRequest (d : Discovery) (request : Nat) : Discovery :=
  match d.requests[request]? with
  | none => d
  | some q =>
    { d with
      resolver := d.resolver.quit q.call
      requests := d.requests.set request { q with call := q.call.drop } }

/-- **What an event does.** -/
def perform (d : Discovery) : DiscoveryEvent → Discovery
  | .come => { d with requests := d.requests ++ [{}] }
  | .cancel request => d.cancelRequest request
  | .advance request => d.stepRequest request
  | .drop request => d.dropRequest request
  | .step id resumed arrange now draw =>
    { d with
      resolver := (d.resolver.step d.cache id resumed arrange now draw).2.1
      cache := (d.resolver.step d.cache id resumed arrange now draw).2.2 }
  | .answer id outcome now =>
    { d with
      resolver := (d.resolver.takeIn d.cache id outcome now).1
      cache := (d.resolver.takeIn d.cache id outcome now).2 }
  | .breakDown id => { d with resolver := d.resolver.breakDown id }
  | .startRefresh => { d with resolver := d.resolver.startRefresh.2 }
  | .refreshStep now => { d with resolver := (d.resolver.refreshStep now).getD d.resolver }
  | .shutdown => { d with resolver := d.resolver.shutdown }
  | .use use => { d with cache := d.cache.use use }

end Discovery

/-- **A run of a new resolver**: what it is made from, and what happens to it. -/
structure DiscoveryRun where
  seeds : List EndPoint
  settings : ResolverSettings
  cache : Cache
  events : Nat → DiscoveryEvent

/-- The state after the first `n` events. -/
def DiscoveryRun.state (x : DiscoveryRun) : Nat → Discovery
  | 0 => { resolver := { seeds := x.seeds, settings := x.settings }, cache := x.cache }
  | n + 1 => (x.state n).perform (x.events n)

namespace Discovery

variable {d : Discovery}

/-! ## Counting -/

theorem countP_set {q q' : Request} {i : Nat} (hq : d.requests[i]? = some q) (k : Nat) :
    (d.requests.set i q').countP (·.call.holds k) + q.call.weight k
      = d.requests.countP (·.call.holds k) + q'.call.weight k := by
  obtain ⟨hi, rfl⟩ := List.getElem?_eq_some_iff.1 hq
  have hle : (if (d.requests[i]).call.holds k then 1 else 0)
      ≤ d.requests.countP (·.call.holds k) :=
    List.boole_getElem_le_countP (p := fun q => q.call.holds k) hi
  rw [List.countP_set hi, RefreshCall.weight, RefreshCall.weight]
  omega

/-- The number of calls that hold on to a resolution, when one call has taken a step. -/
theorem guards_set {q q' : Request} {i : Nat} {r : Resolver} (hq : d.requests[i]? = some q)
    (hr : r.refresh = d.resolver.refresh) (k : Nat) :
    guards { d with resolver := r, requests := d.requests.set i q' } k + q.call.weight k
      = d.guards k + q'.call.weight k := by
  have hcount : (d.requests.set i q').countP (·.call.holds k) + q.call.weight k
      = d.requests.countP (·.call.holds k) + q'.call.weight k := countP_set hq k
  show (d.requests.set i q').countP (·.call.holds k) + r.refresh.weight k + _ = _
  rw [hr, guards]
  omega

/-- The number of calls that hold on to a resolution, when the refresh in the background has taken a
step. -/
theorem guards_refresh {r : Resolver} {call call' : RefreshPhase} (k : Nat)
    (h : d.resolver.refresh = call) (h' : r.refresh = call') :
    guards { d with resolver := r } k + call.weight k = d.guards k + call'.weight k := by
  show d.requests.countP (·.call.holds k) + r.refresh.weight k + _ = _
  rw [guards, h, h']
  omega

/-- The number of calls that hold on to a resolution does not depend on the resolutions. -/
theorem guards_eq {r : Resolver} {cache : Cache} (hr : r.refresh = d.resolver.refresh) :
    guards { d with resolver := r, cache := cache } = d.guards := by
  funext k
  show d.requests.countP (·.call.holds k) + r.refresh.weight k = _
  rw [hr]
  rfl

end Discovery

/-! ## What the calls leave as it is -/

namespace Resolver

@[simp] theorem refresh_join (r : Resolver) : r.join.2.refresh = r.refresh := by
  unfold join
  split <;> rfl

@[simp] theorem refresh_leave (r : Resolver) (id : Nat) : (r.leave id).refresh = r.refresh := by
  unfold leave
  split
  · rfl
  · split
    · rfl
    · split <;> rfl

@[simp] theorem refresh_quit (r : Resolver) (call : RefreshCall) :
    (r.quit call).refresh = r.refresh := by
  unfold quit
  split
  · rfl
  · exact refresh_leave r _

theorem refresh_advanceCall {r r' : Resolver} {call call' : RefreshCall} {isCancelled : Bool}
    (h : r.advanceCall call isCancelled = some (call', r')) : r'.refresh = r.refresh := by
  cases callStep_of_advanceCall h with
  | joined => exact refresh_join r
  | left id => exact refresh_leave r id
  | _ => rfl

/-- **What a step of the refresh in the background is**: it goes on to its next tick or call, or its
call takes a step. -/
theorem refreshStep_cases {r r' : Resolver} {now : Instant} (h : r.refreshStep now = some r') :
    (∃ phase, r.refresh.call? = none ∧ (phase.call? = none ∨ phase.call? = some .fresh)
        ∧ r' = { r with refresh := phase })
      ∨ ∃ call due call' r'' phase, r.refresh = .refreshing call due
        ∧ r.advanceCall call r.isShutDown = some (call', r'')
        ∧ (phase = .refreshing call' due ∨ phase = .ticking due ∧ call'.guard? = none)
        ∧ r' = { r'' with refresh := phase } := by
  unfold refreshStep at h
  split at h
  · cases h
  · rename_i period _
    split at h
    · cases h
    · rename_i hr
      cases h
      exact .inl ⟨.ticking _, by rw [hr]; rfl, .inl rfl, rfl⟩
    · rename_i due hr
      split at h
      · cases h
      · cases h
        exact .inl ⟨.refreshing .fresh _, by rw [hr]; rfl, .inr rfl, rfl⟩
    · rename_i call due hr
      split at h
      · cases h
      · rename_i result r'' hcall
        cases h
        exact .inr ⟨call, due, _, r'', .ticking due, hr, hcall, .inr ⟨rfl, rfl⟩, rfl⟩
      · rename_i call' r'' hne hcall
        cases h
        exact .inr ⟨call, due, call', r'', .refreshing call' due, hr, hcall, .inl rfl, rfl⟩

end Resolver

namespace Discovery

variable {d : Discovery}

/-! ## What an event does -/

/-- **How an event may change a discovery.** The steps of the resolutions are told by `Progress`,
and those of a call by `advanceCall`. -/
inductive Change (d : Discovery) : DiscoveryEvent → Discovery → Prop where
  | stay (event : DiscoveryEvent) : Change d event d
  | come : Change d .come { d with requests := d.requests ++ [{}] }
  | cancel (i : Nat) (q : Request) (hq : d.requests[i]? = some q) :
      Change d (.cancel i)
        { d with requests := d.requests.set i { q with isCancelled := true } }
  | advance (i : Nat) (q : Request) (call : RefreshCall) (r : Resolver)
      (hq : d.requests[i]? = some q)
      (hcall : d.resolver.advanceCall q.call q.isCancelled = some (call, r)) :
      Change d (.advance i)
        { d with resolver := r, requests := d.requests.set i { q with call := call } }
  | drop (i : Nat) (q : Request) (hq : d.requests[i]? = some q) :
      Change d (.drop i)
        { d with
          resolver := d.resolver.quit q.call
          requests := d.requests.set i { q with call := q.call.drop } }
  | progress (event : DiscoveryEvent) (he : ¬event.IsOfCaller) (r : Resolver) (cache : Cache)
      (hp : Resolver.Progress d.cache d.resolver r)
      (hf : cache.channels.factory = d.cache.channels.factory) :
      Change d event { d with resolver := r, cache := cache }
  | tick (event : DiscoveryEvent) (phase : RefreshPhase)
      (hnone : d.resolver.refresh.call? = none)
      (hphase : phase.call? = none ∨ phase.call? = some .fresh) :
      Change d event { d with resolver := { d.resolver with refresh := phase } }
  | refresh (now : Instant) (call call' : RefreshCall) (due : Instant) (r : Resolver)
      (phase : RefreshPhase) (hr : d.resolver.refresh = .refreshing call due)
      (hcall : d.resolver.advanceCall call d.resolver.isShutDown = some (call', r))
      (hphase : phase = .refreshing call' due ∨ phase = .ticking due ∧ call'.guard? = none) :
      Change d (.refreshStep now) { d with resolver := { r with refresh := phase } }
  | shutdown (hnone : d.resolver.refresh.call? = none) :
      Change d .shutdown
        { d with resolver := { d.resolver with isShutDown := true, refresh := .off } }
  | cutOff (call : RefreshCall) (due : Instant)
      (hr : d.resolver.refresh = .refreshing call due) :
      Change d .shutdown
        { d with resolver :=
          { Resolver.quit { d.resolver with isShutDown := true } call with refresh := .off } }

/-- **Every event makes one of these changes.** -/
theorem change_perform (d : Discovery) (event : DiscoveryEvent) :
    Change d event (d.perform event) := by
  cases event with
  | come => exact .come
  | cancel i =>
    show Change d _ (d.cancelRequest i)
    unfold cancelRequest
    split
    · exact .stay _
    · exact .cancel i _ ‹_›
  | advance i =>
    show Change d _ (d.stepRequest i)
    unfold stepRequest
    split
    · exact .stay _
    · split
      · exact .stay _
      · exact .advance i _ _ _ ‹_› ‹_›
  | drop i =>
    show Change d _ (d.dropRequest i)
    unfold dropRequest
    split
    · exact .stay _
    · exact .drop i _ ‹_›
  | step id resumed arrange now draw =>
    refine .progress (.step id resumed arrange now draw) not_false _ _
      (Resolver.progress_step d.cache d.resolver id resumed arrange now draw) ?_
    rcases Resolver.cache_step d.cache d.resolver id resumed arrange now draw with h | h
    · rw [h]
    · rw [h, Cache.factory_reconcile]
  | answer id outcome now =>
    refine .progress (.answer id outcome now) not_false _ _
      (Resolver.progress_takeIn d.cache d.resolver id outcome now) ?_
    rcases Resolver.cache_takeIn d.cache d.resolver id outcome now with h | ⟨members, -, h⟩
    · rw [h]
    · rw [h, Cache.factory_reconcile]
  | breakDown id =>
    exact .progress (.breakDown id) not_false _ _
      (Resolver.progress_breakDown d.cache d.resolver id) rfl
  | startRefresh =>
    show Change d _ { d with resolver := d.resolver.startRefresh.2 }
    unfold Resolver.startRefresh
    split
    · exact .stay _
    · rename_i hoff
      refine .tick _ .starting ?_ (.inl rfl)
      cases hrefresh : d.resolver.refresh with
      | off => rfl
      | _ => simp [hrefresh, RefreshPhase.isOff] at hoff
  | refreshStep now =>
    show Change d _ { d with resolver := (d.resolver.refreshStep now).getD d.resolver }
    cases hstep : d.resolver.refreshStep now with
    | none => exact .stay _
    | some r' =>
      rcases Resolver.refreshStep_cases hstep with ⟨phase, hnone, hphase, rfl⟩
        | ⟨call, due, call', r, phase, hr, hcall, hphase, rfl⟩
      · exact .tick _ phase hnone hphase
      · exact .refresh now call call' due r phase hr hcall hphase
  | shutdown =>
    show Change d _ { d with resolver := d.resolver.shutdown }
    unfold Resolver.shutdown Resolver.stopRefresh
    split
    · rename_i call due hr
      exact .cutOff call due hr
    · rename_i hne
      refine .shutdown ?_
      cases hrefresh : d.resolver.refresh with
      | refreshing call due => exact (hne call due hrefresh).elim
      | _ => rfl
  | use use => exact .progress (.use use) not_false _ _ (.refl _ _) (d.cache.factory_use use)

/-- The refresh in the background keeps the count right while it has no call. -/
theorem counts_of_weight_eq {others : Nat → Nat}
    (h : d.resolver.Counts fun k => d.guards k + others k) {r : Resolver}
    (hflight : r.inFlight = d.resolver.inFlight) (htasks : r.tasks = d.resolver.tasks)
    (hweight : ∀ k, r.refresh.weight k = d.resolver.refresh.weight k) :
    r.Counts fun k => guards { d with resolver := r } k + others k := by
  have hguards : guards { d with resolver := r } = d.guards := funext fun k => by
    show d.requests.countP (·.call.holds k) + r.refresh.weight k = _
    rw [hweight]
    rfl
  rw [hguards]
  exact h.of_eq hflight htasks

namespace Change

variable {d' : Discovery} {event : DiscoveryEvent}

/-- **Every event keeps the count of waiters right**, whoever else holds on to the resolutions. -/
theorem counts (h : Change d event d') (others : Nat → Nat)
    (hc : d.resolver.Counts fun k => d.guards k + others k) :
    d'.resolver.Counts fun k => d'.guards k + others k := by
  cases h with
  | stay => exact hc
  | come =>
    have hguards : guards { d with requests := d.requests ++ [{}] } = d.guards := by
      funext k
      show (d.requests ++ [({} : Request)]).countP (·.call.holds k) + _ = _
      rw [List.countP_append]
      rfl
    rw [hguards]
    exact hc
  | cancel i q hq =>
    have hguards : ∀ k, guards { d with
        requests := d.requests.set i { q with isCancelled := true } } k = d.guards k :=
      fun k => Nat.add_right_cancel (guards_set hq rfl k)
    rw [funext hguards]
    exact hc
  | advance i q call r hq hcall =>
    refine hc.advanceCall hcall fun k => ?_
    rw [Nat.add_right_comm, guards_set hq (Resolver.refresh_advanceCall hcall), Nat.add_right_comm]
  | drop i q hq =>
    -- a call that is dropped holds on to nothing any more
    have hdrop : q.call.drop.guard? = none := by cases q.call <;> rfl
    refine hc.quit fun k => ?_
    rw [Nat.add_right_comm, guards_set hq (Resolver.refresh_quit _ _),
      RefreshCall.weight_of_none hdrop, Nat.add_zero]
  | progress event he r cache hp hf =>
    rw [guards_eq hp.refresh_eq]
    exact hc.progress hp
  | tick event phase hnone hphase =>
    refine counts_of_weight_eq hc rfl rfl fun k => ?_
    exact (RefreshPhase.weight_of_none hphase k).trans
      (RefreshPhase.weight_of_none (.inl hnone) k).symm
  | refresh now call call' due r phase hr hcall hphase =>
    refine (hc.advanceCall hcall fun k => ?_).of_eq rfl rfl
    have hweight : call'.weight k = phase.weight k := by
      rcases hphase with rfl | ⟨rfl, hguard⟩
      · rfl
      · exact RefreshCall.weight_of_none hguard k
    have hguards : guards { d with resolver := { r with refresh := phase } } k + call.weight k
        = d.guards k + phase.weight k := guards_refresh k hr rfl
    rw [hweight, Nat.add_right_comm, hguards, Nat.add_right_comm]
  | shutdown hnone =>
    refine counts_of_weight_eq hc rfl rfl fun k => ?_
    exact (RefreshPhase.weight_of_none (.inl hnone) k).symm
  | cutOff call due hr =>
    -- the task of the refresh is aborted, and its call leaves like any other
    have hc' : Resolver.Counts { d.resolver with isShutDown := true }
        fun k => d.guards k + others k := hc.of_eq rfl rfl
    refine (hc'.quit fun k => ?_).of_eq rfl rfl
    have hguards : guards { d with resolver := { Resolver.quit
          { d.resolver with isShutDown := true } call with refresh := .off } } k + call.weight k
        = d.guards k := guards_refresh k hr rfl
    rw [Nat.add_right_comm, hguards]

/-- **Every event lets the resolutions go on.** -/
theorem grows (h : Change d event d') : Resolver.Grows d.cache d.resolver d'.resolver := by
  have hsame : Resolver.Grows d.cache d.resolver d.resolver := .refl d.cache d.resolver
  have hshut : Resolver.Grows d.cache d.resolver { d.resolver with isShutDown := true } :=
    .of_tasks_eq rfl (fun f hf => ⟨f, hf, rfl⟩) fun _ => rfl
  cases h with
  | stay | come | cancel => exact hsame
  | advance i q call r hq hcall => exact .advanceCall hcall
  | drop i q hq => exact .quit d.cache d.resolver q.call
  | progress event he r cache hp hf => exact .of_progress hp
  | tick => exact hsame.of_eq rfl rfl rfl
  | refresh now call call' due r phase hr hcall hphase =>
    exact (Resolver.Grows.advanceCall hcall).of_eq rfl rfl rfl
  | shutdown => exact hshut.of_eq rfl rfl rfl
  | cutOff call due hr => exact (hshut.trans (.quit d.cache _ call)).of_eq rfl rfl rfl

/-- **What becomes of a call**: it comes, its token is cancelled, it is dropped, it takes a step, or
it stays as it is. -/
theorem request_cases (h : Change d event d') {i : Nat} {q' : Request}
    (hq' : d'.requests[i]? = some q') :
    d.requests[i]? = none ∧ q' = {} ∨ ∃ q, d.requests[i]? = some q
      ∧ (q' = q ∨ q' = { q with isCancelled := true } ∨ q' = { q with call := q.call.drop }
        ∨ ∃ call, event = .advance i ∧ q' = { q with call := call }
          ∧ d.resolver.advanceCall q.call q.isCancelled = some (call, d'.resolver)) := by
  have hset : ∀ {j : Nat} {q r : Request}, d.requests[j]? = some q →
      (d.requests.set j r)[i]? = some q' → j = i ∧ q' = r ∨ d.requests[i]? = some q' := by
    intro j q r hq h
    rw [List.getElem?_set] at h
    split at h
    · rename_i hj
      rw [if_pos (List.getElem?_eq_some_iff.1 hq).1] at h
      cases h
      exact .inl ⟨hj, rfl⟩
    · exact .inr h
  cases h with
  | come =>
    rw [List.getElem?_append] at hq'
    split at hq'
    · exact .inr ⟨q', hq', .inl rfl⟩
    · rename_i hi
      exact .inl ⟨List.getElem?_eq_none (Nat.not_lt.1 hi),
        List.mem_singleton.1 (List.mem_of_getElem? hq')⟩
  | cancel j q hq =>
    rcases hset hq hq' with ⟨rfl, rfl⟩ | h
    · exact .inr ⟨q, hq, .inr (.inl rfl)⟩
    · exact .inr ⟨q', h, .inl rfl⟩
  | advance j q call r hq hcall =>
    rcases hset hq hq' with ⟨rfl, rfl⟩ | h
    · exact .inr ⟨q, hq, .inr (.inr (.inr ⟨call, rfl, rfl, hcall⟩))⟩
    · exact .inr ⟨q', h, .inl rfl⟩
  | drop j q hq =>
    rcases hset hq hq' with ⟨rfl, rfl⟩ | h
    · exact .inr ⟨q, hq, .inr (.inr (.inl rfl))⟩
    · exact .inr ⟨q', h, .inl rfl⟩
  | _ => exact .inr ⟨q', hq', .inl rfl⟩

/-- An event forgets no call. -/
theorem length_requests_le (h : Change d event d') : d.requests.length ≤ d'.requests.length := by
  cases h with
  | come =>
    rw [List.length_append]
    exact Nat.le_add_right _ _
  | cancel | advance | drop => exact Nat.le_of_eq List.length_set.symm
  | _ => exact Nat.le_refl _

theorem factory_eq (h : Change d event d') :
    d'.cache.channels.factory = d.cache.channels.factory := by
  cases h with
  | progress event he r cache hp hf => exact hf
  | _ => rfl

/-- **What becomes of the call of the refresh in the background**: it is made, it takes a step, or
it stays as it is. -/
theorem refresh_cases (h : Change d event d') {call : RefreshCall} {due : Instant}
    (hr' : d'.resolver.refresh = .refreshing call due) :
    d.resolver.refresh = .refreshing call due ∨ call = .fresh
      ∨ ∃ old due' r, d.resolver.refresh = .refreshing old due'
        ∧ d.resolver.advanceCall old d.resolver.isShutDown = some (call, r) := by
  cases h with
  | stay | come | cancel => exact .inl hr'
  | advance i q call' r hq hcall =>
    exact .inl ((Resolver.refresh_advanceCall hcall).symm.trans hr')
  | drop i q hq => exact .inl ((Resolver.refresh_quit _ _).symm.trans hr')
  | progress event he r cache hp hf => exact .inl (hp.refresh_eq.symm.trans hr')
  | tick event phase hnone hphase =>
    have hphase' : phase = .refreshing call due := hr'
    subst hphase'
    rcases hphase with hphase | hphase
    · cases hphase
    · exact .inr (.inl (Option.some.inj hphase))
  | refresh now old call' due' r phase hr hcall hphase =>
    have hphase' : phase = .refreshing call due := hr'
    subst hphase'
    rcases hphase with hphase | ⟨hphase, -⟩
    · cases hphase
      exact .inr (.inr ⟨old, due, r, hr, hcall⟩)
    · cases hphase
  | shutdown | cutOff => cases hr'

end Change

end Discovery

/-! ## Whole runs -/

namespace DiscoveryRun

variable (x : DiscoveryRun)

/-- **The count of waiters is right at every instant.** -/
theorem counts (n : Nat) : (x.state n).resolver.Counts (x.state n).guards := by
  induction n with
  | zero => exact ⟨nofun, nofun, fun id hid => absurd hid (Nat.lt_irrefl 0), nofun⟩
  | succ n ih => exact (Discovery.change_perform _ _).counts (fun _ => 0) ih

theorem factory_eq (n : Nat) :
    (x.state n).cache.channels.factory = x.cache.channels.factory := by
  induction n with
  | zero => rfl
  | succ n ih => exact (Discovery.change_perform _ _).factory_eq.trans ih

/-- **The resolutions go on** from any instant to any later one. -/
theorem grows {m n : Nat} (h : m ≤ n) :
    Resolver.Grows x.cache (x.state m).resolver (x.state n).resolver := by
  induction h with
  | refl => exact .refl _ _
  | step h ih =>
    exact ih.trans ((Discovery.change_perform _ _).grows.of_factory_eq (x.factory_eq _).symm)

end DiscoveryRun

end ClusterLink
