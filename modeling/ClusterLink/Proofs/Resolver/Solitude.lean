import ClusterLink.Proofs.Connection.Keys
import ClusterLink.Proofs.Resolver.History
import ClusterLink.Resolver.Inquiry
import Mathlib.Logic.Function.Iterate

/-!
# A resolution on its own

Where nobody cancels a resolution and nobody else uses the cache, what it does is determined by what
it meets: the order in which an attempt asks the nodes, the replies, and the draws that place the
delays (`Surroundings`). Callers may still come and go meanwhile. `Solo.next` lets such a resolution
go on by one event, at the moment at which that is due, and the callers after it.

What matters of it fits into a `View`, which has steps of its own (`View.next`): they say what
happens without the fields that a resolver keeps it in, and without the callers. `Shows.next` is the
simulation of the one by the other.
-/

namespace ClusterLink

/-! ## Surroundings -/

/-- **A question to a node**, as it is over. -/
structure Question where
  contact : Contact
  outcome : GossipOutcome
  /-- How long it takes, in nanoseconds. -/
  time : Nat

/-- **What a resolution does**, as far as others notice. -/
inductive Deed where
  | ask (question : Question)
  | sleep (delay : Duration)

namespace Deed

def question? : Deed → Option Question
  | ask q => some q
  | sleep _ => none

/-- How long it takes, in nanoseconds. -/
def time : Deed → Nat
  | ask q => q.time
  | sleep delay => delay.nanos

/-- What is reported of it. -/
def report? (deed : Deed) : Option Metric :=
  deed.question?.map fun q => Resolver.askedReport q.contact.1 q.outcome

/-- The nodes that were asked, in order. -/
def contacts (deeds : List Deed) : List Contact :=
  deeds.filterMap fun deed => deed.question?.map (·.contact)

end Deed

/-- **What a resolution meets.** -/
structure Surroundings where
  /-- The order in which an attempt asks. -/
  arrange : Nat → List Contact → List Contact
  /-- An attempt asks each of its nodes once. -/
  perm_arrange : ∀ attempt contacts, (arrange attempt contacts).Perm contacts
  /-- What a node does that is asked after the given ones: it replies after a while, or never. -/
  reply : List Contact → Contact → Option (Duration × Except Error (List Member))
  /-- What places the delay after an attempt. -/
  draw : Nat → Float
  /-- What the callers do after each step. -/
  callers : Nat → List DiscoveryEvent
  ofCallers : ∀ n, ∀ event ∈ callers n, event.IsOfCaller

namespace Inquiry

variable {α : Type} (q : Inquiry α)

/-- **A question is waited for until it is over**, and no longer. -/
theorem poll_eq_none_iff {now : Nat} : q.poll now = none ↔ now < q.endsAt := by
  obtain ⟨reply, deadline⟩ := q
  cases reply with
  | none => simp [poll, reply?, endsAt]
  | some r =>
    obtain ⟨comesAt, answer⟩ := r
    by_cases hcomes : comesAt ≤ now
    · simp [poll, reply?, endsAt, hcomes, Nat.le_trans (Nat.min_le_left _ _) hcomes]
    · simp [poll, reply?, endsAt, hcomes, Nat.lt_of_not_le hcomes, Nat.lt_min]

/-- Who looks when a question is over finds the reply, if there is one in time. -/
theorem poll_endsAt : q.poll q.endsAt = some q.finalReply? := by
  obtain ⟨reply, deadline⟩ := q
  cases reply with
  | none => simp [poll, reply?, endsAt, finalReply?]
  | some r =>
    obtain ⟨comesAt, answer⟩ := r
    by_cases hin : comesAt ≤ deadline
    · simp [poll, reply?, endsAt, finalReply?, Nat.min_eq_left hin, hin]
    · simp [poll, reply?, endsAt, finalReply?, Nat.min_eq_right (Nat.le_of_not_le hin), hin]

end Inquiry

/-- The question to a node that is asked after the given ones. The time counts from there. -/
def Surroundings.inquiry (e : Surroundings) (timeout : Duration) (before : List Contact)
    (c : Contact) : Inquiry (Except Error (List Member)) :=
  ⟨(e.reply before c).map fun (delay, answer) => (delay.nanos, answer), timeout.nanos⟩

/-- **What comes of a question** that is looked after as soon as it is over. -/
def Surroundings.question (e : Surroundings) (timeout : Duration) (before : List Contact)
    (c : Contact) : Question :=
  let inquiry := e.inquiry timeout before c
  ⟨c, .ofReply (inquiry.poll inquiry.endsAt).join, inquiry.endsAt⟩

/-- **A resolution that goes on by itself**, and what it has done. -/
structure Solo where
  discovery : Discovery
  now : Instant
  steps : Nat := 0
  deeds : List Deed := []

namespace Solo

/-- **The next event of the resolution**, when it is due; once it is over there is none. -/
def move (e : Surroundings) (id : Nat) (s : Solo) : Solo :=
  match s.discovery.resolver.phase? id with
  | some .waiting =>
    { s with discovery := s.discovery.perform (.step id false (e.arrange 1) s.now (e.draw 0)) }
  | some (.ready attempt _ _) =>
    { s with
      discovery := s.discovery.perform
        (.step id false (e.arrange attempt) s.now (e.draw attempt)) }
  | some (.asking _ c _ _) =>
    let timeout := s.discovery.resolver.settings.gossipTimeout
    let q := e.question timeout (Deed.contacts s.deeds) c
    { s with
      discovery := s.discovery.perform (.answer id q.outcome (s.now + q.time))
      now := s.now + q.time
      deeds := s.deeds ++ [.ask q] }
  | some (.pausing attempt delay) =>
    let now := s.now + delay.nanos
    { s with
      discovery := s.discovery.perform
        (.step id true (e.arrange (attempt + 1)) now (e.draw attempt))
      now := now
      deeds := s.deeds ++ [.sleep delay] }
  | _ => s

/-- What the callers do then. -/
def callersMove (e : Surroundings) (s : Solo) : Solo :=
  { s with
    discovery := (e.callers s.steps).foldl Discovery.perform s.discovery
    steps := s.steps + 1 }

/-- **The resolution goes on**, and the callers after it. -/
def next (e : Surroundings) (id : Nat) (s : Solo) : Solo := (s.move e id).callersMove e

end Solo

/-! ## Views -/

/-- **What matters of a resolution on its own.** -/
structure View where
  phase : ResolutionPhase
  started : Instant
  backoff : Backoff
  cache : Cache
  log : List Metric
  now : Instant
  deeds : List Deed

namespace View

/-- The report that a resolution has ended. -/
def endReport (v : View) (now : Instant) (attempts : Nat) (succeeded : Bool) : Metric :=
  .discovery (Duration.between v.started now) attempts succeeded

/-- A question is over. -/
def takeIn (v : View) (attempt : Nat) (left : List Contact) (failures : List String)
    (q : Question) : View :=
  let v : View := { v with
    log := v.log ++ [Resolver.askedReport q.contact.1 q.outcome]
    now := v.now + q.time
    deeds := v.deeds ++ [.ask q] }
  match q.outcome with
  | .success members =>
    { v with
      phase := .ended (.ok ⟨members, q.contact.1, attempt, Duration.between v.started v.now⟩)
      cache := (v.cache.reconcile (EndPoint.distinct (members.map (·.endpoint)))).2
      log := v.log ++ [v.endReport v.now attempt true] }
  | other =>
    { v with phase := .ready attempt left (failures ++ [Resolver.complaint q.contact.1 other]) }

/-- **The steps of a view.** -/
def next (e : Surroundings) (seeds : List EndPoint) (settings : ResolverSettings) (v : View) :
    View :=
  match v.phase with
  | .waiting =>
    { v with phase := .ready 1 (e.arrange 1 v.cache.entries) [], started := v.now }
  | .ready attempt (c :: left) failures => { v with phase := .asking attempt c left failures }
  | .ready attempt [] failures =>
    let v : View := { v with cache := (v.cache.reconcile seeds).2 }
    if attempt < settings.maxAttempts then
      { v with
        phase := .pausing attempt (v.backoff.next (e.draw attempt)).1
        backoff := v.backoff.advance }
    else
      { v with
        phase := .ended (.error (Resolver.exhausted attempt failures))
        log := v.log ++ [v.endReport v.now attempt false] }
  | .asking attempt c left failures =>
    v.takeIn attempt left failures
      (e.question settings.gossipTimeout (Deed.contacts v.deeds) c)
  | .pausing attempt delay =>
    { v with
      phase := .ready (attempt + 1) (e.arrange (attempt + 1) v.cache.entries) []
      now := v.now + delay.nanos
      deeds := v.deeds ++ [.sleep delay] }
  | _ => v

/-- A view keeps its cache ready. -/
theorem ready_next {v : View} (h : v.cache.Ready) (e : Surroundings) (seeds : List EndPoint)
    (settings : ResolverSettings) : (v.next e seeds settings).cache.Ready := by
  unfold View.next
  split
  · exact h
  · exact h
  · obtain ⟨c', hc', hready, -⟩ := h.reconcile seeds
    dsimp only
    rw [hc']
    split <;> exact hready
  · unfold takeIn
    dsimp only
    split
    · obtain ⟨c', hc', hready, -⟩ := h.reconcile _
      rw [hc']
      exact hready
    · exact h
  · exact h
  · exact h

end View

/-! ## What the callers leave as it is -/

namespace Resolver

/-- **The resolutions are spared**: they may have been called off, but nothing else was done to
them, and nothing was reported. -/
structure Spares (r r' : Resolver) : Prop where
  seeds_eq : r'.seeds = r.seeds
  settings_eq : r'.settings = r.settings
  isShutDown_eq : r'.isShutDown = r.isShutDown
  log_eq : r'.log = r.log
  task : ∀ (id : Nat) (t : ResolutionTask), r.tasks[id]? = some t →
    ∃ off, r'.tasks[id]? = some { t with isCalledOff := t.isCalledOff || off }

namespace Spares

variable {r r' r'' : Resolver}

theorem refl (r : Resolver) : Spares r r where
  seeds_eq := rfl
  settings_eq := rfl
  isShutDown_eq := rfl
  log_eq := rfl
  task := fun id t ht => ⟨false, by rw [ht, Bool.or_false]⟩

theorem trans (h : Spares r r') (h' : Spares r' r'') : Spares r r'' where
  seeds_eq := h'.seeds_eq.trans h.seeds_eq
  settings_eq := h'.settings_eq.trans h.settings_eq
  isShutDown_eq := h'.isShutDown_eq.trans h.isShutDown_eq
  log_eq := h'.log_eq.trans h.log_eq
  task := by
    intro id t ht
    obtain ⟨off, ht'⟩ := h.task id t ht
    obtain ⟨off', ht''⟩ := h'.task id _ ht'
    exact ⟨off || off', by rw [ht'', Bool.or_assoc]⟩

theorem join (r : Resolver) : Spares r r.join.2 := by
  unfold Resolver.join
  split
  · exact ⟨rfl, rfl, rfl, rfl, (refl r).task⟩
  · refine ⟨rfl, rfl, rfl, rfl, fun id t ht => ⟨false, ?_⟩⟩
    rw [List.getElem?_append_left (List.getElem?_eq_some_iff.1 ht).1, ht, Bool.or_false]

theorem leave (r : Resolver) (id : Nat) : Spares r (r.leave id) := by
  unfold Resolver.leave
  split
  · exact refl r
  · split
    · exact refl r
    · split
      · exact ⟨rfl, rfl, rfl, rfl, (refl r).task⟩
      · refine ⟨rfl, rfl, rfl, rfl, fun k t ht => ⟨decide (id = k), ?_⟩⟩
        rw [List.getElem?_modify, ht]
        by_cases hk : id = k
        · simp [hk]
        · simp [hk]

theorem quit (r : Resolver) (call : RefreshCall) : Spares r (r.quit call) := by
  unfold Resolver.quit
  split
  · exact refl r
  · exact leave r _

theorem advanceCall {call call' : RefreshCall} {isCancelled : Bool}
    (h : r.advanceCall call isCancelled = some (call', r')) : Spares r r' := by
  cases callStep_of_advanceCall h with
  | joined => exact join r
  | left id => exact leave r id
  | _ => exact refl r

/-- **A caller spares the resolutions**, and the cache. -/
theorem perform {event : DiscoveryEvent} (h : event.IsOfCaller) (d : Discovery) :
    Spares d.resolver (d.perform event).resolver ∧ (d.perform event).cache = d.cache := by
  have hchange := Discovery.change_perform d event
  generalize d.perform event = d' at hchange ⊢
  cases hchange with
  | stay | come | cancel => exact ⟨refl _, rfl⟩
  | advance i q call r hq hcall => exact ⟨advanceCall hcall, rfl⟩
  | drop i q hq => exact ⟨quit _ _, rfl⟩
  | tick => exact ⟨⟨rfl, rfl, rfl, rfl, (refl d.resolver).task⟩, rfl⟩
  | refresh now call call' due r phase hr hcall hphase =>
    obtain ⟨hseeds, hsettings, hshut, hlog, htask⟩ := advanceCall hcall
    exact ⟨⟨hseeds, hsettings, hshut, hlog, htask⟩, rfl⟩
  | progress event he => exact absurd h he
  | shutdown | cutOff => exact h.elim

theorem foldl_perform {events : List DiscoveryEvent} (h : ∀ event ∈ events, event.IsOfCaller)
    (d : Discovery) :
    Spares d.resolver (events.foldl Discovery.perform d).resolver
      ∧ (events.foldl Discovery.perform d).cache = d.cache := by
  induction events generalizing d with
  | nil => exact ⟨refl _, rfl⟩
  | cons event events ih =>
    obtain ⟨hspares, hcache⟩ := perform (h event (List.mem_cons_self ..)) d
    obtain ⟨hspares', hcache'⟩ := ih (fun event he => h event (List.mem_cons_of_mem _ he))
      (d.perform event)
    exact ⟨hspares.trans hspares', hcache'.trans hcache⟩

end Spares

/-! ## What a resolver keeps of a resolution -/

/-- **What a resolver that was not shut down keeps of one resolution**, and beside it. -/
structure Holds (seeds : List EndPoint) (settings : ResolverSettings) (id : Nat) (r : Resolver)
    (t : ResolutionTask) (log : List Metric) : Prop where
  task : r.tasks[id]? = some t
  seeds_eq : r.seeds = seeds
  settings_eq : r.settings = settings
  isShutDown_eq : r.isShutDown = false
  log_eq : r.log = log

namespace Holds

variable {seeds : List EndPoint} {settings : ResolverSettings} {id : Nat} {r : Resolver}
  {t : ResolutionTask} {log : List Metric}

theorem phase?_eq (h : Holds seeds settings id r t log) : r.phase? id = some t.phase := by
  rw [phase?, h.task, Option.map_some]

theorem isCancelled_eq (h : Holds seeds settings id r t log) :
    r.isCancelled id = t.isCalledOff := by
  rw [isCancelled, h.isShutDown_eq, h.task, Option.any_some, Bool.false_or]

theorem modify (h : Holds seeds settings id r t log) (f : ResolutionTask → ResolutionTask) :
    Holds seeds settings id { r with tasks := r.tasks.modify id f } (f t) log where
  task := by
    show (r.tasks.modify id f)[id]? = some (f t)
    rw [List.getElem?_modify_eq, h.task]
    rfl
  seeds_eq := h.seeds_eq
  settings_eq := h.settings_eq
  isShutDown_eq := h.isShutDown_eq
  log_eq := h.log_eq

theorem setPhase (h : Holds seeds settings id r t log) (phase : ResolutionPhase) :
    Holds seeds settings id (r.setPhase id phase) { t with phase := phase } log :=
  h.modify _

theorem report (h : Holds seeds settings id r t log) (m : Metric) :
    Holds seeds settings id { r with log := r.log ++ [m] } t (log ++ [m]) where
  task := h.task
  seeds_eq := h.seeds_eq
  settings_eq := h.settings_eq
  isShutDown_eq := h.isShutDown_eq
  log_eq := congrArg (· ++ [m]) h.log_eq

/-- A resolution that ends leaves its result and a report. -/
theorem finish (h : Holds seeds settings id r t log) (attempts : Nat)
    (result : Except Error Resolution) (hresult : result ≠ .error .cancelled) (now : Instant) :
    Holds seeds settings id (r.finish id attempts result now) { t with phase := .ended result }
      (log ++ [.discovery (Duration.between t.started now) attempts result.isOk]) := by
  have hset := h.setPhase (.ended result)
  unfold Resolver.finish
  rw [h.task]
  dsimp only
  split
  · exact absurd rfl hresult
  · rw [if_neg Bool.false_ne_true]
    exact ⟨hset.task, hset.seeds_eq, hset.settings_eq, hset.isShutDown_eq,
      congrArg (· ++ [_]) hset.log_eq⟩

/-- A resolution that was spared and not called off is kept as it was. -/
theorem spares (h : Holds seeds settings id r t log) {r' : Resolver} (hr : Spares r r')
    (hlive : r'.isCancelled id = false) : Holds seeds settings id r' t log := by
  have hshut : r'.isShutDown = false := hr.isShutDown_eq.trans h.isShutDown_eq
  obtain ⟨off, ht⟩ := hr.task id t h.task
  rw [isCancelled, hshut, ht, Option.any_some, Bool.false_or] at hlive
  have hcalled : (t.isCalledOff || off) = false := hlive
  obtain ⟨hoff, hoff'⟩ := Bool.or_eq_false_iff.1 hcalled
  rw [hoff', Bool.or_false] at ht
  exact ⟨ht, hr.seeds_eq.trans h.seeds_eq, hr.settings_eq.trans h.settings_eq, hshut,
    hr.log_eq.trans h.log_eq⟩

end Holds

end Resolver

/-! ## The simulation -/

/-- **The view is the one of the resolution with this number**, which nobody has cancelled. -/
structure Shows (seeds : List EndPoint) (settings : ResolverSettings) (id : Nat) (s : Solo)
    (v : View) : Prop where
  holds : s.discovery.resolver.Holds seeds settings id
    { started := v.started, backoff := v.backoff, phase := v.phase } v.log
  cache_eq : s.discovery.cache = v.cache
  now_eq : s.now = v.now
  deeds_eq : s.deeds = v.deeds

@[simp] theorem Surroundings.contact_question (e : Surroundings) (timeout : Duration)
    (before : List Contact) (c : Contact) : (e.question timeout before c).contact = c := rfl

namespace Shows

variable {seeds : List EndPoint} {settings : ResolverSettings} {id : Nat} {s : Solo} {v : View}

/-- Taking in an answer. -/
theorem takeIn (h : Shows seeds settings id s v) (hready : v.cache.Ready) {attempt : Nat}
    {left : List Contact} {failures : List String} {q : Question}
    (hphase : v.phase = .asking attempt q.contact left failures) :
    Shows seeds settings id
      { s with
        discovery := s.discovery.perform (.answer id q.outcome (v.now + q.time))
        now := v.now + q.time
        deeds := v.deeds ++ [.ask q] }
      (v.takeIn attempt left failures q) := by
  have hholds := h.holds
  have hperform : s.discovery.perform (.answer id q.outcome (v.now + q.time))
      = { s.discovery with
        resolver := (s.discovery.resolver.takeIn v.cache id q.outcome (v.now + q.time)).1
        cache := (s.discovery.resolver.takeIn v.cache id q.outcome (v.now + q.time)).2 } := by
    rw [← h.cache_eq]
    rfl
  rw [hperform, Resolver.takeIn, hholds.phase?_eq, hphase]
  dsimp only
  -- nobody has cancelled the resolution, so the answer counts
  rw [hholds.isCancelled_eq, if_neg Bool.false_ne_true]
  have hreport := hholds.report (Resolver.askedReport q.contact.1 q.outcome)
  unfold View.takeIn
  cases houtcome : q.outcome with
  | success members =>
    rw [houtcome] at hreport
    obtain ⟨c', hc', -⟩ := hready.reconcile (EndPoint.distinct (members.map (·.endpoint)))
    have hend := hreport.finish attempt
      (.ok ⟨members, q.contact.1, attempt, Duration.between v.started (v.now + q.time)⟩)
      nofun (v.now + q.time)
    dsimp only
    rw [Resolver.succeed, hc', hreport.task]
    exact ⟨hend, rfl, rfl, rfl⟩
  | _ =>
    rw [houtcome] at hreport
    exact ⟨hreport.setPhase _, rfl, rfl, rfl⟩

/-- **A resolution on its own does what its view does.** -/
theorem move (h : Shows seeds settings id s v) (hready : v.cache.Ready) (e : Surroundings) :
    Shows seeds settings id (s.move e id) (v.next e seeds settings) := by
  -- both sides go by the phase, so this is one case for each
  have hholds := h.holds
  obtain rfl := hholds.seeds_eq
  obtain rfl := hholds.settings_eq
  have hstep : ∀ resumed arrange now draw,
      s.discovery.perform (.step id resumed arrange now draw) = { s.discovery with
        resolver := (s.discovery.resolver.step v.cache id resumed arrange now draw).2.1
        cache := (s.discovery.resolver.step v.cache id resumed arrange now draw).2.2 } := by
    intro resumed arrange now draw
    rw [← h.cache_eq]
    rfl
  have hsnapshot : v.cache.snapshot = .ok v.cache.entries := by
    rw [Cache.snapshot, if_neg (by simp [hready.isDisposed_eq])]
  unfold Solo.move View.next
  rw [hholds.phase?_eq]
  dsimp only
  cases hv : v.phase with
  | waiting =>
    dsimp only
    rw [hstep, Resolver.step, hholds.phase?_eq, hv]
    dsimp only
    rw [Resolver.beginAttempt, hsnapshot, h.now_eq]
    exact ⟨(hholds.modify _).setPhase _, rfl, rfl, h.deeds_eq⟩
  | ready attempt left failures =>
    dsimp only
    rw [hstep, Resolver.step, hholds.phase?_eq, hv]
    cases left with
    | nil =>
      obtain ⟨c', hc', -⟩ := hready.reconcile s.discovery.resolver.seeds
      dsimp only
      rw [Resolver.failAttempt, hc']
      dsimp only
      split
      · rw [hholds.task]
        dsimp only
        exact ⟨hholds.modify _, rfl, h.now_eq, h.deeds_eq⟩
      · have hend := hholds.finish attempt (.error (Resolver.exhausted attempt failures))
          nofun v.now
        rw [h.now_eq]
        exact ⟨hend, rfl, rfl, h.deeds_eq⟩
    | cons c left =>
      dsimp only
      rw [hholds.isCancelled_eq, if_neg Bool.false_ne_true]
      exact ⟨hholds.setPhase _, rfl, h.now_eq, h.deeds_eq⟩
  | asking attempt c left failures =>
    dsimp only
    rw [h.now_eq, h.deeds_eq]
    exact h.takeIn hready (by rw [hv, Surroundings.contact_question])
  | pausing attempt delay =>
    dsimp only
    rw [hstep, Resolver.step, hholds.phase?_eq, hv]
    dsimp only
    rw [hholds.isCancelled_eq, if_neg Bool.false_ne_true, if_pos rfl]
    dsimp only
    rw [Resolver.beginAttempt, hsnapshot]
    exact ⟨hholds.setPhase _, rfl, by rw [h.now_eq], by rw [h.deeds_eq]⟩
  | brokenDown | ended => exact h

/-- The callers do not matter, as long as they do not call the resolution off. -/
theorem callersMove (h : Shows seeds settings id s v) (e : Surroundings)
    (hlive : (s.callersMove e).discovery.resolver.isCancelled id = false) :
    Shows seeds settings id (s.callersMove e) v := by
  obtain ⟨hspares, hcache⟩ := Resolver.Spares.foldl_perform (e.ofCallers s.steps) s.discovery
  exact ⟨h.holds.spares hspares hlive, hcache.trans h.cache_eq, h.now_eq, h.deeds_eq⟩

/-- **The view goes along** for as long as the resolution is not cancelled. -/
theorem iterate (h : Shows seeds settings id s v) (hready : v.cache.Ready) (e : Surroundings)
    (hlive : ∀ n, ((Solo.next e id)^[n] s).discovery.resolver.isCancelled id = false) (n : Nat) :
    Shows seeds settings id ((Solo.next e id)^[n] s) ((View.next e seeds settings)^[n] v)
      ∧ ((View.next e seeds settings)^[n] v).cache.Ready := by
  induction n with
  | zero => exact ⟨h, hready⟩
  | succ n ih =>
    -- the callers have not called the resolution off if it is not cancelled afterwards
    have hnext := hlive (n + 1)
    rw [Function.iterate_succ_apply'] at hnext
    rw [Function.iterate_succ_apply', Function.iterate_succ_apply']
    exact ⟨(ih.1.move ih.2 e).callersMove e hnext, View.ready_next ih.2 e seeds settings⟩

end Shows

end ClusterLink
