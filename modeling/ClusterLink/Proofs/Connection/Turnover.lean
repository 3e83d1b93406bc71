import ClusterLink.Proofs.Connection.Holding
import ClusterLink.Proofs.Connection.Keys
import ClusterLink.Proofs.Node.Display

/-!
# What an operation on a cache may do

A cache is worked on by five operations, whose inputs include what they leave to chance: the order
in which a reconciliation goes through a set of endpoints, and the order of a snapshot
(`Cache.Operation`). Whatever the operation and however it ends, it parts the cached connections
into those that are kept and those that are given up, and adds some that it made (`Cache.Turnover`):
what is given up is handed over to be closed and reported, and what is added is new and reported
too.

Each invariant of a cache is then a statement about turnovers. Together they say that a connection
has one owner, either the cache or those to whom it was handed over (`Cache.Owns`).
-/

namespace ClusterLink

/-! ## Operations -/

namespace Cache

/-- The cached connections. -/
def handles (c : Cache) : List Handle := c.entries.map (·.2)

/-- **One operation on a cache**, with what it leaves to chance. -/
inductive Operation where
  | getOrCreate (e : EndPoint)
  /-- The wanted endpoints are gone through in any order, each node once. -/
  | reconcile (wanted order : List EndPoint) (isOrder : order.Perm (EndPoint.distinct wanted))
  | evict (e : EndPoint)
  | dispose
  /-- The entries are given in any order. -/
  | snapshot (shuffle : List (EndPoint × Handle) → List (EndPoint × Handle))
    (isShuffle : ∀ entries, (shuffle entries).Perm entries)

/-- What an operation answers. -/
inductive Answer where
  | connection (result : Except Error Handle)
  | reconciled (result : Except Error Unit)
  | wasCached (answer : Bool)
  | disposed
  | entries (result : Except Error (List (EndPoint × Handle)))

/-- The answer hands out a connection. -/
def Answer.Gives : Answer → Handle → Prop
  | .connection (.ok handle'), handle => handle = handle'
  | .entries (.ok given), handle => handle ∈ given.map (·.2)
  | _, _ => False

/-- **Carries out an operation.** -/
def perform (c : Cache) : Operation → Answer × Cache
  | .getOrCreate e => (.connection (c.getOrCreate e).1, (c.getOrCreate e).2)
  | .reconcile _ order _ => (.reconciled (c.reconcileIn order).1, (c.reconcileIn order).2)
  | .evict e => (.wasCached (c.evict e).1, (c.evict e).2)
  | .dispose => (.disposed, c.dispose)
  | .snapshot shuffle _ => (.entries (c.snapshot.map shuffle), c)

end Cache

/-! ## New connections -/

namespace Channels

/-- **Connections that were made** between two moments: each for a request of its own. -/
structure Makes (c c' : Channels) (made : List Handle) : Prop where
  requests_le : c.requests ≤ c'.requests
  nodup : (made.map (·.number)).Nodup
  number_ge : ∀ handle ∈ made, c.requests ≤ handle.number
  number_lt : ∀ handle ∈ made, handle.number < c'.requests

theorem Makes.none {c c' : Channels} (h : c.requests ≤ c'.requests) : Makes c c' [] where
  requests_le := h
  nodup := List.nodup_nil
  number_ge := nofun
  number_lt := nofun

theorem Makes.cons {c c' c'' : Channels} {e : EndPoint} {handle : Handle} {made : List Handle}
    (hcreate : c.create e = (.ok handle, c')) (h : Makes c' c'' made) :
    Makes c c'' (handle :: made) := by
  have hnumber : handle.number = c.requests := (endpoint_of_create hcreate).2
  have hrequests : c'.requests = c.requests + 1 := by
    have := c.requests_create e
    rwa [hcreate] at this
  have hle := h.requests_le
  refine ⟨by omega, ?_, ?_, ?_⟩
  · rw [List.map_cons, List.nodup_cons]
    refine ⟨fun hmem => ?_, h.nodup⟩
    obtain ⟨later, hlater, heq⟩ := List.mem_map.1 hmem
    have := h.number_ge later hlater
    omega
  · intro later hlater
    rcases List.mem_cons.1 hlater with rfl | hlater
    · omega
    · have := h.number_ge later hlater
      omega
  · intro later hlater
    rcases List.mem_cons.1 hlater with rfl | hlater
    · omega
    · exact h.number_lt later hlater

end Channels

namespace Cache

/-- Channels are asked for, never taken back. -/
theorem requests_le_createAll (es : List EndPoint) (c : Channels) :
    c.requests ≤ (createAll c es).2.requests := by
  induction es generalizing c with
  | nil => exact Nat.le_refl _
  | cons e es ih =>
    have hcreate : (c.create e).2.requests = c.requests + 1 := c.requests_create e
    unfold createAll
    split <;> rename_i heq <;> rw [heq] at hcreate
    · exact Nat.le_of_lt (Nat.lt_of_lt_of_eq (Nat.lt_succ_self _) hcreate.symm)
    · rename_i c'
      have hrest := ih c'
      have hle : c.requests ≤ (createAll c' es).2.requests := by
        simp only at hcreate
        omega
      split <;> rename_i h <;> rw [h] at hle <;> exact hle

theorem makes_of_createAll {es : List EndPoint} {c c' : Channels}
    {created : List (EndPoint × Handle)} (h : createAll c es = (.ok created, c')) :
    Channels.Makes c c' (created.map (·.2)) ∧ ∀ entry ∈ created,
      entry.2.endpoint = entry.1 := by
  induction es generalizing c c' created with
  | nil =>
    cases h
    exact ⟨.none (Nat.le_refl _), nofun⟩
  | cons e es ih =>
    obtain ⟨handle, c'', rest, hcreate, hrest, rfl⟩ := createAll_cons_ok h
    obtain ⟨hmakes, hendpoint⟩ := ih hrest
    refine ⟨hmakes.cons hcreate, fun entry hentry => ?_⟩
    rcases List.mem_cons.1 hentry with rfl | hentry
    · exact (Channels.endpoint_of_create hcreate).1
    · exact hendpoint entry hentry

/-! ## Turnovers -/

/-- **What an operation may do** to a cache: of the cached connections it keeps some and gives up
the others, and it adds some that it made. -/
structure Turnover (c c' : Cache) (kept gone created : List (EndPoint × Handle)) : Prop where
  perm : c.entries.Perm (kept ++ gone)
  entries_eq : c'.entries = kept ++ created
  released_eq : c'.released = c.released ++ gone.map (·.2)
  log_eq : c'.log = c.log ++ (created.map (createdReport ·.1) ++ gone.map (evictedReport ·.2))
  /-- Nothing is made twice, or made for what is cached. -/
  nodup_keys : (EndPoint.keys (created.map (·.1))).Nodup
  not_cached : ∀ entry ∈ created, entry.1.key ∉ c.keys
  endpoint_eq : ∀ entry ∈ created, entry.2.endpoint = entry.1
  makes : Channels.Makes c.channels c'.channels (created.map (·.2))
  /-- Once the cache is disposed of, no connection is asked for. -/
  isDisposed : c.isDisposed = true → c'.isDisposed = true ∧ c'.channels = c.channels
    ∧ created = []
  empties : c.isDisposed = false → c'.isDisposed = true → c'.entries = []

variable {c c' : Cache}

/-- Nothing is given up and nothing added, though channels may have been asked for. -/
theorem Turnover.none {channels : Channels} (h : c.channels.requests ≤ channels.requests)
    (hd : c.isDisposed = true → channels = c.channels) :
    Turnover c { c with channels := channels } c.entries [] [] where
  perm := by rw [List.append_nil]
  entries_eq := (List.append_nil _).symm
  released_eq := (List.append_nil _).symm
  log_eq := (List.append_nil _).symm
  nodup_keys := List.nodup_nil
  not_cached := nofun
  endpoint_eq := nofun
  makes := .none h
  isDisposed := fun hdisposed => ⟨hdisposed, hd hdisposed, rfl⟩
  empties := fun hopen hdisposed => by cases hopen.symm.trans hdisposed

theorem Turnover.refl (c : Cache) : Turnover c c c.entries [] [] :=
  .none (Nat.le_refl _) fun _ => rfl

theorem exists_turnover_getOrCreate (c : Cache) (e : EndPoint) :
    ∃ kept gone created, Turnover c (c.getOrCreate e).2 kept gone created := by
  cases hd : c.isDisposed with
  | true =>
    have hsame : (c.getOrCreate e).2 = c := by simp [getOrCreate, hd]
    rw [hsame]
    exact ⟨_, _, _, .refl c⟩
  | false =>
    rcases getOrCreate_cases hd e with ⟨handle, -, heq⟩
      | ⟨hfind, ⟨error, channels, hcreate, heq⟩
        | ⟨handle, channels, hcreate, heq⟩⟩ <;> rw [heq]
    · exact ⟨_, _, _, .refl c⟩
    · have hrequests := c.channels.requests_create e
      rw [hcreate] at hrequests
      refine ⟨_, _, _, .none (Nat.le_of_lt ?_) fun hdisposed => ?_⟩
      · exact Nat.lt_of_lt_of_eq (Nat.lt_succ_self _) hrequests.symm
      · cases hd.symm.trans hdisposed
    · refine ⟨c.entries, [], [(e, handle)], ?_⟩
      exact {
        perm := by rw [List.append_nil]
        entries_eq := rfl
        released_eq := (List.append_nil _).symm
        log_eq := rfl
        nodup_keys := List.pairwise_singleton _ _
        not_cached := fun entry hentry hmem => by
          cases List.mem_singleton.1 hentry
          have hcontains := contains_iff.2 hmem
          rw [contains, hfind] at hcontains
          cases hcontains
        endpoint_eq := fun entry hentry => by
          cases List.mem_singleton.1 hentry
          exact (Channels.endpoint_of_create hcreate).1
        makes := .cons hcreate (.none (Nat.le_refl _))
        isDisposed := fun hdisposed => by cases hd.symm.trans hdisposed
        empties := fun _ hdisposed => by cases hd.symm.trans hdisposed }

theorem exists_turnover_reconcileIn (c : Cache) {wanted : List EndPoint}
    (hwanted : (EndPoint.keys wanted).Nodup) :
    ∃ kept gone created, Turnover c (c.reconcileIn wanted).2 kept gone created := by
  have hrequests := requests_le_createAll (wanted.filter (!c.contains ·)) c.channels
  unfold reconcileIn
  split
  · exact ⟨_, _, _, .refl c⟩
  · rename_i hd
    split
    · rename_i hall
      rw [hall] at hrequests
      exact ⟨_, _, _, .none hrequests fun hdisposed => absurd hdisposed hd⟩
    · rename_i created channels hall
      obtain ⟨hmakes, hendpoint⟩ := makes_of_createAll hall
      have hcreated := map_fst_of_createAll hall
      refine ⟨c.entries.filter fun entry => wanted.any (·.same entry.1),
        c.entries.filter fun entry => !wanted.any (·.same entry.1), created, ?_⟩
      exact {
        perm := (List.filter_append_perm _ _).symm
        entries_eq := rfl
        released_eq := rfl
        log_eq := by simp [release]
        nodup_keys := by
          rw [hcreated]
          exact (List.filter_sublist.map _).nodup hwanted
        not_cached := fun entry hentry hmem => by
          have hmissing : entry.1 ∈ wanted.filter (!c.contains ·) :=
            hcreated ▸ List.mem_map.2 ⟨entry, hentry, rfl⟩
          have hnot := (List.mem_filter.1 hmissing).2
          rw [contains_iff.2 hmem] at hnot
          cases hnot
        endpoint_eq := hendpoint
        makes := hmakes
        isDisposed := fun hdisposed => absurd hdisposed hd
        empties := fun _ hdisposed => absurd hdisposed hd }

/-- **A cache holds at most one connection per node**, and one if the node is cached. -/
theorem Keyed.countP_same (h : c.Keyed) (e : EndPoint) :
    c.entries.countP (·.1.same e) = if c.contains e then 1 else 0 := by
  have hcount : c.entries.countP (·.1.same e) = c.keys.count e.key := by
    rw [keys_eq, List.count, List.countP_map]
    refine List.countP_congr fun entry _ => ?_
    rw [EndPoint.same_iff, Function.comp_apply, beq_iff_eq]
  rw [hcount, List.Nodup.count h]
  simp only [contains_iff]

/-- A cached connection is the only one of its node. -/
theorem Keyed.filter_same (h : c.Keyed) {e : EndPoint} {entry : EndPoint × Handle}
    (hfind : c.entries.find? (·.1.same e) = some entry) :
    c.entries.filter (·.1.same e) = [entry] := by
  have hcontains : c.contains e = true := by rw [contains, find?, hfind]; rfl
  have hcount := h.countP_same e
  rw [if_pos hcontains, List.countP_eq_length_filter] at hcount
  obtain ⟨only, honly⟩ := List.length_eq_one_iff.1 hcount
  have hmem : entry ∈ c.entries.filter (·.1.same e) := by
    refine List.mem_filter.2 ⟨List.mem_of_find?_eq_some hfind, ?_⟩
    exact List.find?_some (p := fun entry : EndPoint × Handle => entry.1.same e) hfind
  rw [honly] at hmem ⊢
  rw [List.mem_singleton.1 hmem]

theorem exists_turnover_evict {c : Cache} (hk : c.Keyed) (e : EndPoint) :
    ∃ kept gone created, Turnover c (c.evict e).2 kept gone created := by
  unfold evict
  split
  · exact ⟨_, _, _, .refl c⟩
  · rename_i handle hfind
    obtain ⟨entry, hentry, rfl⟩ := Option.map_eq_some_iff.1 hfind
    refine ⟨c.entries.filter fun entry => !entry.1.same e, [entry], [], ?_⟩
    exact {
      perm := by
        rw [← hk.filter_same hentry]
        exact List.perm_append_comm.trans (List.filter_append_perm _ _) |>.symm
      entries_eq := (List.append_nil _).symm
      released_eq := rfl
      log_eq := rfl
      nodup_keys := List.nodup_nil
      not_cached := nofun
      endpoint_eq := nofun
      makes := .none (Nat.le_refl _)
      isDisposed := fun hdisposed => ⟨hdisposed, rfl, rfl⟩
      empties := fun hopen hdisposed => by cases hopen.symm.trans hdisposed }

theorem exists_turnover_dispose (c : Cache) :
    ∃ kept gone created, Turnover c c.dispose kept gone created := by
  unfold dispose
  split
  · exact ⟨_, _, _, .refl c⟩
  · refine ⟨[], c.entries, [], ?_⟩
    exact {
      perm := .refl _
      entries_eq := rfl
      released_eq := rfl
      log_eq := by simp [release]
      nodup_keys := List.nodup_nil
      not_cached := nofun
      endpoint_eq := nofun
      makes := .none (Nat.le_refl _)
      isDisposed := fun _ => ⟨rfl, rfl, rfl⟩
      empties := fun _ _ => rfl }

/-- **Every operation is a turnover.** -/
theorem exists_turnover {c : Cache} (hk : c.Keyed) (op : Operation) :
    ∃ kept gone created, Turnover c (c.perform op).2 kept gone created := by
  cases op with
  | getOrCreate e => exact exists_turnover_getOrCreate c e
  | reconcile wanted order isOrder =>
    refine exists_turnover_reconcileIn c ?_
    exact (isOrder.map EndPoint.key).nodup_iff.2 (EndPoint.nodup_keys_distinct wanted)
  | evict e => exact exists_turnover_evict hk e
  | dispose => exact exists_turnover_dispose c
  | snapshot => exact ⟨_, _, _, .refl c⟩

end Cache

end ClusterLink
