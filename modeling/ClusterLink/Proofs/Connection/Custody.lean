import ClusterLink.Proofs.Connection.Turnover
import Mathlib.Data.List.Induction
import Mathlib.Data.List.Nodup

/-!
# Who owns a connection

A connection that was ever cached has one owner: the cache, or those to whom the cache handed it
over to be closed, and it is handed over once (`Cache.Owns`). The invariant holds of a new cache and
every turnover keeps it, whichever operation made it and whether or not that succeeded.

Handing over is not closing. Inside a runtime, what an operation gives up is closed by a task that
is spawned for it and that comes to its connections one at a time, some time later; outside, it is
closed at once (`Custody`). Since nothing else closes a connection, what is closed is what was
handed over, less what the tasks have yet to come to (`Custody.closed_perm`).
-/

namespace ClusterLink

namespace Cache

/-! ## Reports -/

/-- Whether something was reported of a connection to the node of an endpoint. -/
def isReport (e : EndPoint) (event : ConnectionEvent) : Metric → Bool
  | .connection name event' => Text.equalIgnoringCase name e.display && event' == event
  | _ => false

/-- How often it was reported. -/
def reported (c : Cache) (e : EndPoint) (event : ConnectionEvent) : Nat :=
  c.log.countP (isReport e event)

theorem equalIgnoringCase_display (e f : EndPoint) :
    Text.equalIgnoringCase f.display e.display = f.same e :=
  Bool.eq_iff_iff.2 EndPoint.same_iff_display.symm

@[simp] theorem isReport_createdReport (e f : EndPoint) (event : ConnectionEvent) :
    isReport e event (createdReport f) = (f.same e && ConnectionEvent.created == event) := by
  rw [createdReport, isReport, equalIgnoringCase_display]

@[simp] theorem isReport_evictedReport (e : EndPoint) (handle : Handle) (event : ConnectionEvent) :
    isReport e event (evictedReport handle)
      = (handle.endpoint.same e && ConnectionEvent.evicted == event) := by
  rw [evictedReport, isReport, equalIgnoringCase_display]

/-! ## The invariant -/

/-- **A connection has one owner.** What is cached and what was handed over are different
connections, all of them made by the factory of the cache, and the reports tell which is which. -/
structure Owns (c : Cache) : Prop where
  keyed : c.Keyed
  endpoint_eq : ∀ entry ∈ c.entries, entry.2.endpoint = entry.1
  nodup : ((c.handles ++ c.released).map (·.number)).Nodup
  number_lt : ∀ handle ∈ c.handles ++ c.released, handle.number < c.channels.requests
  reported_eq : ∀ e,
    c.reported e .created = c.reported e .evicted + c.entries.countP (·.1.same e)
  holdsNothing : c.HoldsNothingOnceDisposed

/-- A new cache. -/
def new (f : ChannelFactory) : Cache := { channels := { factory := f } }

theorem owns_new (f : ChannelFactory) : (new f).Owns where
  keyed := List.nodup_nil
  endpoint_eq := nofun
  nodup := List.nodup_nil
  number_lt := nofun
  reported_eq := fun _ => rfl
  holdsNothing := nofun

namespace Turnover

variable {c c' : Cache} {kept gone created : List (EndPoint × Handle)}

/-- **No connection is lost**: those of the cache and those handed over are what they were, with the
new ones added. -/
theorem custody_perm (t : Turnover c c' kept gone created) :
    (c'.handles ++ c'.released).Perm ((c.handles ++ c.released) ++ created.map (·.2)) := by
  have hhandles : c.handles.Perm (kept.map (·.2) ++ gone.map (·.2)) := by
    rw [← List.map_append]
    exact t.perm.map _
  rw [handles, t.entries_eq, t.released_eq, List.map_append]
  refine List.Perm.trans ?_ ((hhandles.append_right _).append_right _).symm
  -- the new connections and those given up change places
  refine List.perm_iff_count.2 fun handle => ?_
  simp only [List.count_append]
  omega

theorem entries_subset (t : Turnover c c' kept gone created) :
    ∀ entry ∈ kept, entry ∈ c.entries :=
  fun _ hentry => t.perm.mem_iff.2 (List.mem_append_left _ hentry)

theorem gone_subset (t : Turnover c c' kept gone created) :
    ∀ entry ∈ gone, entry ∈ c.entries :=
  fun _ hentry => t.perm.mem_iff.2 (List.mem_append_right _ hentry)

theorem keyed (t : Turnover c c' kept gone created) (h : c.Keyed) : c'.Keyed := by
  rw [Keyed, keys_eq] at h ⊢
  have hkept : (kept.map (·.1.key)).Nodup :=
    (List.nodup_append.1 (List.map_append ▸ (t.perm.map _).nodup_iff.1 h)).1
  rw [t.entries_eq, List.map_append, List.nodup_append]
  refine ⟨hkept, ?_, ?_⟩
  · have := t.nodup_keys
    rwa [EndPoint.keys, List.map_map] at this
  · rintro k hk k' hk' rfl
    obtain ⟨old, hold, rfl⟩ := List.mem_map.1 hk
    obtain ⟨entry, hentry, heq⟩ := List.mem_map.1 hk'
    refine t.not_cached entry hentry ?_
    rw [keys_eq, heq]
    exact List.mem_map.2 ⟨old, t.entries_subset old hold, rfl⟩

/-- The reports of a turnover: each connection that was added, and each that was given up. -/
theorem reported_eq (t : Turnover c c' kept gone created)
    (h : ∀ entry ∈ c.entries, entry.2.endpoint = entry.1) (e : EndPoint) :
    c'.reported e .created = c.reported e .created + created.countP (·.1.same e)
      ∧ c'.reported e .evicted = c.reported e .evicted + gone.countP (·.1.same e) := by
  have hgone : gone.countP (fun entry => entry.2.endpoint.same e) = gone.countP (·.1.same e) :=
    List.countP_congr fun entry hentry => by rw [h entry (t.gone_subset entry hentry)]
  constructor <;>
    simp [reported, t.log_eq, List.countP_append, List.countP_map, Function.comp_def, ← hgone]

/-- **A turnover leaves every connection with one owner.** -/
theorem owns (t : Turnover c c' kept gone created) (h : c.Owns) : c'.Owns where
  keyed := t.keyed h.keyed
  endpoint_eq := fun entry hentry => by
    rcases List.mem_append.1 (t.entries_eq ▸ hentry) with hkept | hnew
    · exact h.endpoint_eq entry (t.entries_subset entry hkept)
    · exact t.endpoint_eq entry hnew
  nodup := by
    rw [(t.custody_perm.map _).nodup_iff, List.map_append, List.nodup_append]
    refine ⟨h.nodup, t.makes.nodup, ?_⟩
    rintro n hn n' hn' rfl
    obtain ⟨old, hold, rfl⟩ := List.mem_map.1 hn
    obtain ⟨new, hnew, heq⟩ := List.mem_map.1 hn'
    have hlt := h.number_lt old hold
    have hge := t.makes.number_ge new hnew
    omega
  number_lt := fun handle hmem => by
    rcases List.mem_append.1 (t.custody_perm.mem_iff.1 hmem) with hold | hnew
    · exact Nat.lt_of_lt_of_le (h.number_lt handle hold) t.makes.requests_le
    · exact t.makes.number_lt handle hnew
  reported_eq := fun e => by
    obtain ⟨hcreated, hevicted⟩ := t.reported_eq h.endpoint_eq e
    have hbefore := h.reported_eq e
    rw [t.perm.countP_eq, List.countP_append] at hbefore
    rw [hcreated, hevicted, t.entries_eq, List.countP_append]
    omega
  holdsNothing := fun hd => by
    cases hc : c.isDisposed with
    | false => exact t.empties hc hd
    | true =>
      have hnone : kept = [] := by
        have hperm := t.perm
        rw [h.holdsNothing hc] at hperm
        exact (List.append_eq_nil_iff.1 hperm.symm.eq_nil).1
      rw [t.entries_eq, hnone, (t.isDisposed hc).2.2]
      rfl

end Turnover

/-- **What is handed out is cached.** -/
theorem mem_handles_of_gives {c : Cache} {op : Operation} {handle : Handle}
    (h : (c.perform op).1.Gives handle) : handle ∈ (c.perform op).2.handles := by
  cases op with
  | getOrCreate e =>
    cases hd : c.isDisposed with
    | true => simp [perform, getOrCreate, hd, Answer.Gives] at h
    | false =>
      rcases getOrCreate_cases hd e with ⟨found, hfind, heq⟩
        | ⟨-, ⟨error, channels, -, heq⟩
          | ⟨made, channels, -, heq⟩⟩ <;> simp only [perform, heq, Answer.Gives] at h ⊢
      · obtain ⟨entry, hentry, rfl⟩ := Option.map_eq_some_iff.1 hfind
        exact List.mem_map.2 ⟨entry, List.mem_of_find?_eq_some hentry, h.symm⟩
      · exact List.mem_map.2
          ⟨(e, made), List.mem_append_right _ (List.mem_cons_self ..), h.symm⟩
  | reconcile => exact h.elim
  | evict => exact h.elim
  | dispose => exact h.elim
  | snapshot shuffle isShuffle =>
    simp only [perform, snapshot] at h
    split at h
    · exact h.elim
    · exact ((isShuffle c.entries).map _).mem_iff.1 h

end Cache

/-! ## Closing -/

/-- **A cache and the closing of what it gives up.** -/
structure Custody where
  cache : Cache
  /-- What each spawned task has yet to close. -/
  tasks : List (List Handle) := []
  closed : List Handle := []

namespace Custody

/-- What may happen: an operation, inside a runtime or outside, or a step of a spawned task. -/
inductive Event where
  | operate (op : Cache.Operation) (inRuntime : Bool)
  | work (task : Nat)

/-- Hands connections over to be closed: inside a runtime a task is spawned for them, unless there
are none, and outside they are closed at once. -/
def handOver (s : Custody) (gone : List Handle) (inRuntime : Bool) : Custody :=
  if gone.isEmpty then s
  else if inRuntime then { s with tasks := s.tasks ++ [gone] }
  else { s with closed := s.closed ++ gone }

/-- What happens. -/
def step (s : Custody) : Event → Custody
  | .operate op inRuntime =>
    let cache := (s.cache.perform op).2
    handOver { s with cache := cache } (cache.released.drop s.cache.released.length) inRuntime
  | .work task =>
    match s.tasks[task]? with
    | some (handle :: rest) =>
      { s with tasks := s.tasks.set task rest, closed := s.closed ++ [handle] }
    | _ => s

/-- A new cache after some events. -/
def run (f : ChannelFactory) (events : List Event) : Custody :=
  events.foldl step { cache := .new f }

/-- The spawned tasks have done their work. -/
def Settled (s : Custody) : Prop := ∀ task ∈ s.tasks, task = []

theorem run_append (f : ChannelFactory) (events more : List Event) :
    run f (events ++ more) = more.foldl step (run f events) :=
  List.foldl_append

@[simp] theorem cache_handOver (s : Custody) (gone : List Handle) (inRuntime : Bool) :
    (s.handOver gone inRuntime).cache = s.cache := by
  unfold handOver
  split
  · rfl
  · split <;> rfl

@[simp] theorem cache_operate (s : Custody) (op : Cache.Operation) (inRuntime : Bool) :
    (s.step (.operate op inRuntime)).cache = (s.cache.perform op).2 :=
  cache_handOver ..

@[simp] theorem cache_work (s : Custody) (task : Nat) : (s.step (.work task)).cache = s.cache := by
  simp only [step]
  split <;> rfl

/-- A turnover, by an operation or by none. -/
theorem exists_turnover {s : Custody} (h : s.cache.Owns) (event : Event) :
    ∃ kept gone created, Cache.Turnover s.cache (s.step event).cache kept gone created := by
  cases event with
  | operate op inRuntime =>
    rw [cache_operate]
    exact Cache.exists_turnover h.keyed op
  | work task =>
    rw [cache_work]
    exact ⟨_, _, _, .refl _⟩

/-- **Every connection has one owner**, whatever has happened. -/
theorem owns_run (f : ChannelFactory) (events : List Event) : (run f events).cache.Owns := by
  induction events using List.reverseRecOn with
  | nil => exact Cache.owns_new f
  | append_singleton events event ih =>
    obtain ⟨_, _, _, t⟩ := exists_turnover ih event
    rw [run_append]
    exact t.owns ih

/-! ## What is closed -/

/-- What a task does next is taken off its work. -/
theorem flatten_set_perm {tasks : List (List Handle)} {task : Nat} {handle : Handle}
    {rest : List Handle} (h : tasks[task]? = some (handle :: rest)) :
    tasks.flatten.Perm (handle :: (tasks.set task rest).flatten) := by
  induction tasks generalizing task with
  | nil => cases h
  | cons first tasks ih =>
    cases task with
    | zero =>
      cases h
      exact .refl _
    | succ task =>
      rw [List.flatten_cons, List.set_cons_succ, List.flatten_cons]
      exact ((ih h).append_left first).trans List.perm_middle

/-- **What was handed over** is closed, or a task has yet to come to it. -/
def Accounted (s : Custody) : Prop := (s.closed ++ s.tasks.flatten).Perm s.cache.released

theorem Accounted.step {s : Custody} (ho : s.cache.Owns) (h : s.Accounted) (event : Event) :
    (s.step event).Accounted := by
  cases event with
  | operate op inRuntime =>
    obtain ⟨_, gone, _, t⟩ := Cache.exists_turnover ho.keyed op
    have hgone : (s.cache.perform op).2.released.drop s.cache.released.length
        = gone.map (·.2) := by
      rw [t.released_eq, List.drop_left]
    have hafter := h.append_right (gone.map (·.2))
    rw [← t.released_eq] at hafter
    unfold Accounted
    rw [cache_operate]
    simp only [Custody.step, hgone, handOver]
    refine List.Perm.trans ?_ hafter
    split
    · rename_i hnone
      rw [List.isEmpty_iff.1 hnone, List.append_nil]
    · split
      · simp
      · rw [List.append_assoc, List.append_assoc]
        exact List.perm_append_comm.append_left _
  | work task =>
    unfold Accounted
    rw [cache_work]
    refine List.Perm.trans ?_ h
    simp only [Custody.step]
    split
    · rename_i htask
      rw [List.append_assoc]
      exact (flatten_set_perm htask).symm.append_left _
    · exact .refl _

theorem accounted_run (f : ChannelFactory) (events : List Event) : (run f events).Accounted := by
  induction events using List.reverseRecOn with
  | nil => exact .refl _
  | append_singleton events event ih =>
    rw [run_append]
    exact ih.step (owns_run f events) event

theorem Settled.flatten_eq {s : Custody} (h : s.Settled) : s.tasks.flatten = [] :=
  List.flatten_eq_nil_iff.2 h

/-- **What is closed once the work has settled** is what was handed over. -/
theorem closed_perm {f : ChannelFactory} {events : List Event} (h : (run f events).Settled) :
    (run f events).closed.Perm (run f events).cache.released := by
  have haccounted := accounted_run f events
  rwa [Accounted, h.flatten_eq, List.append_nil] at haccounted

/-- A cache whose tasks have done nothing wrong can settle: it takes only steps of the tasks. -/
theorem exists_settled (s : Custody) :
    ∃ tasks : List Nat, ((tasks.map Event.work).foldl step s).Settled := by
  induction hn : s.tasks.flatten.length generalizing s with
  | zero => exact ⟨[], List.flatten_eq_nil_iff.1 (List.length_eq_zero_iff.1 hn)⟩
  | succ n ih =>
    -- some task has something left to close
    obtain ⟨task, handle, rest, htask⟩ :
        ∃ (task : Nat) (handle : Handle) (rest : List Handle),
          s.tasks[task]? = some (handle :: rest) := by
      have hne : s.tasks.flatten ≠ [] := List.ne_nil_of_length_eq_add_one hn
      obtain ⟨work, hwork, hne⟩ := List.flatten_ne_nil_iff.1 hne
      obtain ⟨task, htask⟩ := List.mem_iff_getElem?.1 hwork
      obtain ⟨handle, rest, rfl⟩ := List.exists_cons_of_ne_nil hne
      exact ⟨task, handle, rest, htask⟩
    have hlength := (flatten_set_perm htask).length_eq
    obtain ⟨tasks, htasks⟩ := ih (s.step (.work task)) (by
      simp only [Custody.step, htask]
      simp only [List.length_cons] at hlength
      omega)
    exact ⟨task :: tasks, htasks⟩

/-! ## Everything that was ever cached -/

/-- The connection was cached at some time. -/
def EverCached (f : ChannelFactory) (events : List Event) (handle : Handle) : Prop :=
  ∃ earlier later, events = earlier ++ later ∧ handle ∈ (run f earlier).cache.handles

variable {f : ChannelFactory} {events : List Event} {handle : Handle}

/-- What was handed over stays so. -/
theorem mem_released_run (h : handle ∈ (run f events).cache.released) (more : List Event) :
    handle ∈ (run f (events ++ more)).cache.released := by
  induction more using List.reverseRecOn with
  | nil => rwa [List.append_nil]
  | append_singleton more event ih =>
    obtain ⟨_, _, _, t⟩ := exists_turnover (owns_run f (events ++ more)) event
    rw [← List.append_assoc, run_append, List.foldl_cons, List.foldl_nil, t.released_eq]
    exact List.mem_append_left _ ih

/-- What was ever cached has not been lost. -/
theorem EverCached.mem_custody (h : EverCached f events handle) :
    handle ∈ (run f events).cache.handles ++ (run f events).cache.released := by
  obtain ⟨earlier, later, rfl, hcached⟩ := h
  induction later using List.reverseRecOn with
  | nil =>
    rw [List.append_nil]
    exact List.mem_append_left _ hcached
  | append_singleton later event ih =>
    obtain ⟨_, _, _, t⟩ := exists_turnover (owns_run f (earlier ++ later)) event
    rw [← List.append_assoc, run_append]
    exact t.custody_perm.mem_iff.2 (List.mem_append_left _ ih)

/-- Nothing is handed over that was not cached. -/
theorem everCached_of_mem_released (h : handle ∈ (run f events).cache.released) :
    EverCached f events handle := by
  induction events using List.reverseRecOn with
  | nil => cases h
  | append_singleton events event ih =>
    obtain ⟨kept, gone, _, t⟩ := exists_turnover (owns_run f events) event
    rw [run_append, List.foldl_cons, List.foldl_nil, t.released_eq] at h
    rcases List.mem_append.1 h with hbefore | hgone
    · obtain ⟨earlier, later, rfl, hcached⟩ := ih hbefore
      exact ⟨earlier, later ++ [event], List.append_assoc .., hcached⟩
    · obtain ⟨entry, hentry, rfl⟩ := List.mem_map.1 hgone
      exact ⟨events, [event], rfl, List.mem_map.2 ⟨entry, t.gone_subset entry hentry, rfl⟩⟩

/-- **No connection has two owners.** -/
theorem nodup_custody (f : ChannelFactory) (events : List Event) :
    ((run f events).cache.handles ++ (run f events).cache.released).Nodup :=
  List.Nodup.of_map _ (owns_run f events).nodup

/-- What was handed over is not cached any more. -/
theorem not_mem_handles_of_released (h : handle ∈ (run f events).cache.released) :
    handle ∉ (run f events).cache.handles := fun hcached =>
  (List.nodup_append.1 (nodup_custody f events)).2.2 handle hcached handle h rfl

/-! ## Disposal -/

/-- After disposal nothing is asked for and nothing cached. -/
theorem run_of_isDisposed (h : (run f events).cache.isDisposed = true) (more : List Event) :
    (run f (events ++ more)).cache.isDisposed = true
      ∧ (run f (events ++ more)).cache.channels = (run f events).cache.channels := by
  induction more using List.reverseRecOn with
  | nil =>
    rw [List.append_nil]
    exact ⟨h, rfl⟩
  | append_singleton more event ih =>
    obtain ⟨_, _, _, t⟩ := exists_turnover (owns_run f (events ++ more)) event
    obtain ⟨hdisposed, hchannels, -⟩ := t.isDisposed ih.1
    rw [← List.append_assoc, run_append]
    exact ⟨hdisposed, hchannels.trans ih.2⟩

theorem isDisposed_run (h : ∃ inRuntime, Event.operate .dispose inRuntime ∈ events) :
    (run f events).cache.isDisposed = true := by
  obtain ⟨inRuntime, hmem⟩ := h
  obtain ⟨earlier, later, rfl⟩ := List.append_of_mem hmem
  have hdisposed : (run f (earlier ++ [.operate .dispose inRuntime])).cache.isDisposed = true := by
    rw [run_append]
    exact (cache_operate ..).symm ▸ Cache.isDisposed_dispose _
  have hafter := (run_of_isDisposed hdisposed later).1
  rwa [List.append_assoc] at hafter

/-! ## What everyone may rely on -/

/-- **What holds of a cache** after some events, and of whatever happens then. -/
structure Reliable (f : ChannelFactory) (events : List Event) : Prop where
  /-- There is at most one connection per node, host names compared without case. -/
  one_per_node : ∀ e, (run f events).cache.entries.countP (·.1.same e) ≤ 1
  /-- A connection leads to the endpoint under which it is cached. -/
  leads_to_key : ∀ entry ∈ (run f events).cache.entries, entry.2.endpoint = entry.1
  /-- A connection that has left the cache is never handed out again. -/
  never_again : ∀ handle, EverCached f events handle →
    handle ∉ (run f events).cache.handles →
    ∀ more op, ¬((run f (events ++ more)).cache.perform op).1.Gives handle
  /-- A connection that was cached still is, or was handed over to be closed, once and not both. -/
  one_owner : ∀ handle, EverCached f events handle →
    (run f events).cache.handles.count handle + (run f events).cache.released.count handle = 1
  /-- No other connection is handed over. -/
  handed_over : ∀ handle ∈ (run f events).cache.released, EverCached f events handle
  /-- A connection is not closed while it is cached. -/
  open_while_cached : ∀ handle ∈ (run f events).cache.handles, handle ∉ (run f events).closed
  /-- Once the tasks have done their work, a connection is closed if it is not cached any more. -/
  closed_iff : (run f events).Settled → ∀ handle, EverCached f events handle →
    (handle ∈ (run f events).closed ↔ handle ∉ (run f events).cache.handles)
  /-- The tasks can do their work. -/
  settles : ∃ tasks : List Nat, (run f (events ++ tasks.map Event.work)).Settled
  /-- The reports tell what is cached. -/
  reported_eq : ∀ e, (run f events).cache.reported e .created
    = (run f events).cache.reported e .evicted + if (run f events).cache.contains e then 1 else 0
  /-- After disposal the cache is empty for good and no channel is asked for. -/
  disposed_for_good : (∃ inRuntime, Event.operate .dispose inRuntime ∈ events) →
    ∀ more, (run f (events ++ more)).cache.entries = []
      ∧ (run f (events ++ more)).cache.channels = (run f events).cache.channels

/-- **A cache never loses a connection**, hands none out that it gave up and closes none that it
holds, whatever is done to it and whichever channels can be made. -/
theorem cache_is_reliable (f : ChannelFactory) (events : List Event) : Reliable f events where
  one_per_node := fun e => by
    rw [(owns_run f events).keyed.countP_same]
    split
    · exact Nat.le_refl _
    · exact Nat.zero_le _
  leads_to_key := (owns_run f events).endpoint_eq
  never_again := fun handle hever hnot more op hgives => by
    have hreleased : handle ∈ (run f events).cache.released :=
      (List.mem_append.1 hever.mem_custody).resolve_left hnot
    -- it is still handed over after the operation that would hand it out
    have hafter := mem_released_run hreleased (more ++ [.operate op true])
    rw [← List.append_assoc] at hafter
    refine not_mem_handles_of_released hafter ?_
    rw [run_append]
    exact (cache_operate ..).symm ▸ Cache.mem_handles_of_gives hgives
  one_owner := fun handle hever => by
    rw [← List.count_append, List.Nodup.count (nodup_custody f events), if_pos hever.mem_custody]
  handed_over := fun _ => everCached_of_mem_released
  open_while_cached := fun handle hcached hclosed =>
    not_mem_handles_of_released
      ((accounted_run f events).mem_iff.1 (List.mem_append_left _ hclosed)) hcached
  closed_iff := fun hsettled handle hever => by
    rw [(closed_perm hsettled).mem_iff]
    exact ⟨not_mem_handles_of_released,
      fun hnot => (List.mem_append.1 hever.mem_custody).resolve_left hnot⟩
  settles := by
    obtain ⟨tasks, htasks⟩ := exists_settled (run f events)
    exact ⟨tasks, by rwa [run_append]⟩
  reported_eq := fun e => by
    rw [(owns_run f events).reported_eq, (owns_run f events).keyed.countP_same]
  disposed_for_good := fun hdispose more => by
    obtain ⟨hdisposed, hchannels⟩ := run_of_isDisposed (isDisposed_run (f := f) hdispose) more
    exact ⟨(owns_run f _).holdsNothing hdisposed, hchannels⟩

end Custody

end ClusterLink
