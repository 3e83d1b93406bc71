import ClusterLink.Proofs.Connection.Replacement
import ClusterLink.Proofs.Connection.Turnover
import Mathlib.Data.List.Nodup

/-!
# All of a reconciliation or nothing

A reconciliation asks for the connections that are missing one after the other, in whichever order
it goes through the wanted endpoints, and touches the entries only when it has all of them. So it
does all that it is for (`Cache.Reconciled`), and then there is nothing left to do; or it fails,
because the cache was disposed of or one of the connections is refused when its turn comes, and then
it leaves the entries, the connections handed over and the reports as they were
(`Cache.reconcile_all_or_nothing`).

The order says in which order connections are made and reported, and to a factory that does not
answer alike every time it may decide whether one is refused. Nothing else depends on it, since the
endpoints of any order name each node once, like those of `EndPoint.distinct`
(`Cache.reconcileIn_eq`).
-/

namespace ClusterLink

namespace Cache

/-! ## What is made and what is given up -/

/-- The endpoints that are not cached, in order. -/
def uncached (c : Cache) (es : List EndPoint) : List EndPoint := es.filter (!c.contains ·)

/-- The connections of cached endpoints that are not wanted. -/
def unwanted (c : Cache) (wanted : List EndPoint) : List Handle :=
  (c.entries.filter fun entry => !wanted.any (·.same entry.1)).map (·.2)

/-- If all connections are made, none was refused when its turn came. -/
theorem channels_of_createAll {es : List EndPoint} {c c' : Channels}
    {created : List (EndPoint × Handle)} (h : createAll c es = (.ok created, c')) :
    c' = { c with requests := c.requests + es.length, made := c.made ++ created.map (·.2) }
      ∧ ∀ p ∈ es.zipIdx c.requests, c.factory.refusal? p.2 p.1 = none := by
  induction es generalizing c c' created with
  | nil =>
    cases h
    exact ⟨by simp, nofun⟩
  | cons e es ih =>
    obtain ⟨handle, c'', rest, hcreate, hrest, rfl⟩ := createAll_cons_ok h
    obtain ⟨hrefusal, -, rfl⟩ := Channels.create_ok hcreate
    obtain ⟨rfl, hbuilt⟩ := ih hrest
    refine ⟨by simp [Nat.add_comm, Nat.add_left_comm], fun p hp => ?_⟩
    rcases List.mem_cons.1 hp with rfl | hp
    · exact hrefusal
    · exact hbuilt p hp

/-- If not all connections are made, one was refused when its turn came. -/
theorem refusal_of_createAll {es : List EndPoint} {c c' : Channels} {error : Error}
    (h : createAll c es = (.error error, c')) :
    ∃ p ∈ es.zipIdx c.requests, c.factory.refusal? p.2 p.1 = some error := by
  induction es generalizing c c' with
  | nil => cases h
  | cons e es ih =>
    rcases createAll_cons_error h with hcreate | ⟨handle, c'', hcreate, hrest⟩
    · exact ⟨(e, c.requests), List.mem_cons_self .., (Channels.create_error hcreate).1⟩
    · obtain ⟨-, -, rfl⟩ := Channels.create_ok hcreate
      obtain ⟨p, hp, hlater⟩ := ih hrest
      exact ⟨p, List.mem_cons_of_mem _ hp, hlater⟩

/-- A cached connection is found. -/
theorem Keyed.find?_eq {c : Cache} (h : c.Keyed) {entry : EndPoint × Handle}
    (hmem : entry ∈ c.entries) :
    c.find? entry.1 = some entry.2 := by
  have hcontains : c.contains entry.1 = true := by
    rw [contains_iff, keys_eq]
    exact List.mem_map.2 ⟨entry, hmem, rfl⟩
  rw [contains, find?, Option.isSome_map] at hcontains
  obtain ⟨found, hfound⟩ := Option.isSome_iff_exists.1 hcontains
  have hsame := List.find?_some (p := fun other : EndPoint × Handle => other.1.same entry.1) hfound
  -- no other entry has the same key
  rw [Keyed, keys_eq] at h
  have heq := List.inj_on_of_nodup_map h (List.mem_of_find?_eq_some hfound) hmem
    (EndPoint.same_iff.1 hsame)
  rw [find?, hfound, heq]
  rfl

/-! ## The order of the wanted endpoints -/

section

variable {c c' : Cache} {wanted order : List EndPoint}

theorem nodup_keys_of_perm (h : order.Perm (EndPoint.distinct wanted)) :
    (EndPoint.keys order).Nodup :=
  (h.map EndPoint.key).nodup_iff.2 (EndPoint.nodup_keys_distinct wanted)

theorem mem_keys_of_perm (h : order.Perm (EndPoint.distinct wanted)) (k : List Char × UInt16) :
    k ∈ EndPoint.keys order ↔ k ∈ EndPoint.keys wanted :=
  (h.map EndPoint.key).mem_iff.trans EndPoint.mem_keys_distinct

/-- **Any order of the wanted endpoints** is gone through as if that were what is wanted. -/
theorem reconcileIn_eq (h : order.Perm (EndPoint.distinct wanted)) :
    c.reconcileIn order = c.reconcile order := by
  rw [reconcile, EndPoint.distinct_of_nodup (nodup_keys_of_perm h)]

theorem unwanted_eq (h : order.Perm (EndPoint.distinct wanted)) :
    c.unwanted order = c.unwanted wanted := by
  have hany : ∀ e : EndPoint, order.any (·.same e) = wanted.any (·.same e) := fun e =>
    Bool.eq_iff_iff.2 <| EndPoint.any_same_iff.trans <|
      (mem_keys_of_perm h e.key).trans EndPoint.any_same_iff.symm
  simp only [unwanted, hany]

/-- **With what is cached already there is nothing to do.** -/
theorem reconcile_of_keys (hd : c.isDisposed = false)
    (hkeys : c.keys.Perm (EndPoint.keys (EndPoint.distinct wanted))) :
    c.reconcile wanted = (.ok (), c) := by
  have hmissing : (EndPoint.distinct wanted).filter (!c.contains ·) = [] := missing_eq_nil hkeys
  have hkept : (c.entries.filter fun entry => (EndPoint.distinct wanted).any (·.same entry.1))
      = c.entries := kept_eq hkeys
  have hstale :
      (c.entries.filter fun entry => !(EndPoint.distinct wanted).any (·.same entry.1)) = [] := by
    rw [List.filter_eq_self] at hkept
    exact List.filter_eq_nil_iff.2 fun entry hentry => by simp [hkept entry hentry]
  rw [reconcile, reconcileIn, if_neg (by simp [hd]), hmissing]
  simp [createAll, hkept, hstale, release]

end

/-! ## All or nothing -/

/-- **What a reconciliation is for.** -/
structure Reconciled (c c' : Cache) (wanted order : List EndPoint) : Prop where
  /-- Exactly the wanted endpoints are cached, each node once. -/
  keyed : c'.Keyed
  mem_keys_iff : ∀ k, k ∈ c'.keys ↔ k ∈ EndPoint.keys wanted
  /-- An endpoint that was cached and is wanted keeps its connection. -/
  find?_eq : ∀ (e : EndPoint) (handle : Handle), e.key ∈ EndPoint.keys wanted →
    c.find? e = some handle → c'.find? e = some handle
  /-- One connection was made for each endpoint that was missing, and none besides. -/
  makes : ∃ made : List Handle, made.map (·.endpoint) = c.uncached order
    ∧ c'.channels = { c.channels with
        requests := c.channels.requests + made.length
        made := c.channels.made ++ made }
    ∧ ∀ handle ∈ made, c'.find? handle.endpoint = some handle
  /-- The connections of the other endpoints were handed over to be closed, and none besides. -/
  released_eq : c'.released = c.released ++ c.unwanted wanted
  log_eq : c'.log
    = c.log ++ ((c.uncached order).map createdReport ++ (c.unwanted wanted).map evictedReport)

theorem reconciled_of_reconcileIn {c c' : Cache} {wanted order : List EndPoint} (hk : c.Keyed)
    (horder : order.Perm (EndPoint.distinct wanted)) (h : c.reconcileIn order = (.ok (), c')) :
    Reconciled c c' wanted order := by
  have hreconcile : c.reconcile order = (.ok (), c') := reconcileIn_eq horder ▸ h
  have hkeyed := (keys_of_reconcile hk hreconcile).1
  have hreplaced := replaced_of_reconcile hreconcile
  obtain ⟨-, created, channels, hall, rfl⟩ := reconcileIn_ok h
  have hendpoint := (makes_of_createAll hall).2
  have hcreated : created.map (·.1) = c.uncached order := map_fst_of_createAll hall
  exact {
    keyed := hkeyed
    mem_keys_iff := fun k => (hreplaced.mem_keys_iff k).trans (mem_keys_of_perm horder k)
    find?_eq := fun e handle he =>
      hreplaced.find?_eq e handle ((mem_keys_of_perm horder e.key).2 he)
    makes := by
      refine ⟨created.map (·.2), ?_, ?_, ?_⟩
      · rw [← hcreated, List.map_map]
        exact List.map_congr_left hendpoint
      · rw [List.length_map, ← created.length_map (·.1), hcreated]
        exact (channels_of_createAll hall).1
      · intro handle hmem
        obtain ⟨entry, hentry, rfl⟩ := List.mem_map.1 hmem
        rw [hendpoint entry hentry]
        exact hkeyed.find?_eq (List.mem_append_right _ hentry)
    released_eq := by rw [← unwanted_eq horder]; rfl
    log_eq := by
      rw [← unwanted_eq horder, ← hcreated, List.map_map, ← List.append_assoc]
      rfl }

/-- **All of a reconciliation or nothing**, whichever way it goes through the wanted endpoints. -/
structure AllOrNothing (c : Cache) (wanted order : List EndPoint) : Prop where
  /-- It fails exactly if the cache was disposed of, or a connection is refused when its turn
  comes. -/
  fails_iff : (∃ error c', c.reconcileIn order = (.error error, c')) ↔ c.isDisposed = true
    ∨ ∃ p ∈ (c.uncached order).zipIdx c.channels.requests,
      c.channels.factory.refusal? p.2 p.1 ≠ none
  /-- It says why it failed. -/
  error_eq : ∀ error c', c.reconcileIn order = (.error error, c') →
    c.isDisposed = true ∧ error = disposedError
      ∨ ∃ p ∈ (c.uncached order).zipIdx c.channels.requests,
        c.channels.factory.refusal? p.2 p.1 = some error
  /-- If it fails, no entry is touched, nothing is handed over to be closed and nothing reported. -/
  unchanged : ∀ error c', c.reconcileIn order = (.error error, c') → c.Unchanged c'
  reconciled : ∀ c', c.reconcileIn order = (.ok (), c') → Reconciled c c' wanted order
  /-- Once it has succeeded nothing is left to do, whichever way it is done. -/
  again : ∀ c', c.reconcileIn order = (.ok (), c') →
    ∀ order', order'.Perm (EndPoint.distinct wanted) → c'.reconcileIn order' = (.ok (), c')

/-- **A reconciliation does all that it is for or changes nothing.** -/
theorem reconcile_all_or_nothing {c : Cache} (hk : c.Keyed) {wanted order : List EndPoint}
    (horder : order.Perm (EndPoint.distinct wanted)) : AllOrNothing c wanted order := by
  have herror : ∀ error c', c.reconcileIn order = (.error error, c') →
      c.isDisposed = true ∧ error = disposedError
        ∨ ∃ p ∈ (c.uncached order).zipIdx c.channels.requests,
          c.channels.factory.refusal? p.2 p.1 = some error := by
    intro error c' h
    rcases reconcileIn_error h with ⟨hd, herror, -⟩ | ⟨channels, hall, -⟩
    · exact .inl ⟨hd, herror⟩
    · exact .inr (refusal_of_createAll hall)
  exact {
    fails_iff := by
      constructor
      · rintro ⟨error, c', h⟩
        refine (herror error c' h).imp And.left fun ⟨p, hp, hrefusal⟩ => ⟨p, hp, ?_⟩
        rw [hrefusal]
        exact Option.some_ne_none _
      · -- a reconciliation that succeeds finds the cache open and asks for channels that are all
        -- made
        intro hcause
        cases hanswer : c.reconcileIn order with
        | mk answer c' =>
          cases answer with
          | error error => exact ⟨error, c', rfl⟩
          | ok =>
            exfalso
            obtain ⟨hd, created, channels, hall, -⟩ := reconcileIn_ok hanswer
            rcases hcause with hdisposed | ⟨p, hp, hrefusal⟩
            · cases hd.symm.trans hdisposed
            · exact hrefusal ((channels_of_createAll hall).2 p hp)
    error_eq := herror
    unchanged := fun error c' h => unchanged_of_reconcile (reconcileIn_eq horder ▸ h)
    reconciled := fun c' h => reconciled_of_reconcileIn hk horder h
    again := fun c' h order' horder' => by
      have hreconciled := reconciled_of_reconcileIn hk horder h
      rw [reconcileIn_eq horder']
      refine reconcile_of_keys (entries_of_reconcile (reconcileIn_eq horder ▸ h)).2.1 ?_
      refine (List.perm_ext_iff_of_nodup hreconciled.keyed (EndPoint.nodup_keys_distinct _)).2
        fun k => ?_
      rw [hreconciled.mem_keys_iff, EndPoint.mem_keys_distinct, mem_keys_of_perm horder'] }

/-- A cache of the nodes `a` and `c`. -/
def cacheOfTwo : Cache where
  channels :=
    { requests := 2, made := [⟨0, ⟨"a", 1⟩, false⟩, ⟨1, ⟨"c", 1⟩, false⟩] }
  entries :=
    [(⟨"a", 1⟩, ⟨0, ⟨"a", 1⟩, false⟩), (⟨"c", 1⟩, ⟨1, ⟨"c", 1⟩, false⟩)]

/-- The node `b` is wanted twice, and `a` by another spelling. -/
theorem reconcile_all_or_nothing_of_spellings :
    cacheOfTwo.Keyed
      ∧ [⟨"A", 1⟩, ⟨"b", 1⟩].Perm
        (EndPoint.distinct [⟨"b", 1⟩, ⟨"A", 1⟩, ⟨"B", 1⟩])
      ∧ AllOrNothing cacheOfTwo [⟨"b", 1⟩, ⟨"A", 1⟩, ⟨"B", 1⟩]
        [⟨"A", 1⟩, ⟨"b", 1⟩] := by
  have hkeyed : cacheOfTwo.Keyed := by unfold Keyed; decide
  have horder : [⟨"A", 1⟩, ⟨"b", 1⟩].Perm
      (EndPoint.distinct [⟨"b", 1⟩, ⟨"A", 1⟩, ⟨"B", 1⟩]) := by decide
  exact ⟨hkeyed, horder, reconcile_all_or_nothing hkeyed horder⟩

end Cache

end ClusterLink
