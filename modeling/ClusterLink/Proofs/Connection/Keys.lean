import ClusterLink.Proofs.Connection.Refusals
import ClusterLink.Proofs.Node.Distinct

/-!
# The keys of a cache

A cache never names one node by two keys (`Cache.Keyed`), and a reconciliation leaves it so
(`Cache.keys_of_reconcile`). If nothing is in the way – the cache has not been disposed of and the
factory refuses no endpoint – a reconciliation makes the keys exactly those that are wanted
(`Cache.exists_reconcile`), and reconciling with the same endpoints again changes no entry.
-/

namespace ClusterLink

namespace Cache

/-! ## The invariant -/

/-- The keys under which connections are cached. -/
abbrev keys (c : Cache) : List (List Char × UInt16) := EndPoint.keys c.endpoints

theorem keys_eq (c : Cache) : c.keys = c.entries.map (·.1.key) := by
  rw [keys, EndPoint.keys, endpoints, List.map_map]
  rfl

/-- **No two keys of the cache name one node.** -/
def Keyed (c : Cache) : Prop := c.keys.Nodup

theorem contains_iff {c : Cache} {e : EndPoint} : c.contains e = true ↔ e.key ∈ c.keys := by
  rw [contains, find?, Option.isSome_map, List.find?_isSome]
  simp only [keys, endpoints, List.map_map, List.mem_map, Function.comp_apply, EndPoint.same_iff]

/-- A connection is made for each endpoint, in order. -/
theorem map_fst_of_createAll {es : List EndPoint} {channels channels' : Channels}
    {created : List (EndPoint × Handle)} (h : createAll channels es = (.ok created, channels')) :
    created.map (·.1) = es := by
  induction es generalizing channels channels' created with
  | nil =>
    cases h
    rfl
  | cons e es ih =>
    obtain ⟨handle, channels'', rest, -, hrest, rfl⟩ := createAll_cons_ok h
    rw [List.map_cons, ih hrest]

/-! ## Reconciling -/

/-- The entries that a reconciliation keeps. -/
abbrev kept (c : Cache) (wanted : List EndPoint) : List (EndPoint × Handle) :=
  c.entries.filter fun entry => (EndPoint.distinct wanted).any (·.same entry.1)

/-- The endpoints that a reconciliation misses. -/
abbrev missing (c : Cache) (wanted : List EndPoint) : List EndPoint :=
  (EndPoint.distinct wanted).filter (!c.contains ·)

/-- The entries after a reconciliation: those that are kept, and one for each missing endpoint. -/
theorem entries_of_reconcile {c c' : Cache} {wanted : List EndPoint}
    (h : c.reconcile wanted = (.ok (), c')) :
    c.isDisposed = false ∧ c'.isDisposed = false
      ∧ ∃ created, created.map (·.1) = c.missing wanted
        ∧ c'.entries = c.kept wanted ++ created := by
  obtain ⟨hd, created, channels, hall, rfl⟩ := reconcileIn_ok h
  exact ⟨hd, hd, created, map_fst_of_createAll hall, rfl⟩

theorem keys_append {c c' : Cache} {wanted : List EndPoint}
    {created : List (EndPoint × Handle)} (hcreated : created.map (·.1) = c.missing wanted)
    (hentries : c'.entries = c.kept wanted ++ created) :
    c'.keys = (c.kept wanted).map (·.1.key) ++ EndPoint.keys (c.missing wanted) := by
  rw [keys, endpoints, hentries, ← hcreated]
  simp [EndPoint.keys, List.map_map, Function.comp_def]

/-- What is kept has different keys, and what is missing has others. -/
theorem nodup_keys_append {c : Cache} (hk : c.Keyed) (wanted : List EndPoint) :
    ((c.kept wanted).map (·.1.key) ++ EndPoint.keys (c.missing wanted)).Nodup := by
  rw [Keyed, keys_eq] at hk
  rw [List.nodup_append]
  refine ⟨(List.filter_sublist.map _).nodup hk,
    (List.filter_sublist.map EndPoint.key).nodup (EndPoint.nodup_keys_distinct wanted), ?_⟩
  -- what is missing is not cached under any spelling
  rintro _ hkept _ hnew rfl
  obtain ⟨entry, hentry, heq⟩ := List.mem_map.1 hkept
  obtain ⟨e, he, heq'⟩ := List.mem_map.1 hnew
  have hcontains : c.contains e = true := contains_iff.2 (by
    rw [heq', ← heq, keys_eq]
    exact List.mem_map.2 ⟨entry, (List.mem_filter.1 hentry).1, rfl⟩)
  have hnot := (List.mem_filter.1 he).2
  rw [hcontains] at hnot
  cases hnot

/-- What is kept and what is missing is what is wanted. -/
theorem mem_keys_append {c : Cache} {wanted : List EndPoint} {k : List Char × UInt16} :
    k ∈ (c.kept wanted).map (·.1.key) ++ EndPoint.keys (c.missing wanted)
      ↔ k ∈ EndPoint.keys (EndPoint.distinct wanted) := by
  rw [List.mem_append]
  constructor
  · rintro (hkept | hnew)
    · obtain ⟨entry, hentry, rfl⟩ := List.mem_map.1 hkept
      exact EndPoint.any_same_iff.1 (List.mem_filter.1 hentry).2
    · exact (List.filter_sublist.map EndPoint.key).subset hnew
  · intro hmem
    obtain ⟨e, he, rfl⟩ := List.mem_map.1 hmem
    by_cases hcontains : c.contains e = true
    · -- it is cached, though perhaps under another spelling
      obtain ⟨f, hf, heq⟩ := List.mem_map.1 (contains_iff.1 hcontains)
      obtain ⟨entry, hentry, rfl⟩ := List.mem_map.1 hf
      refine .inl (List.mem_map.2 ⟨entry, List.mem_filter.2 ⟨hentry, ?_⟩, heq⟩)
      exact EndPoint.any_same_iff.2 (heq ▸ List.mem_map.2 ⟨e, he, rfl⟩)
    · refine .inr (List.mem_map.2 ⟨e, List.mem_filter.2 ⟨he, ?_⟩, rfl⟩)
      rw [Bool.eq_false_iff.2 hcontains]
      rfl

/-- **A reconciliation makes the keys exactly the wanted ones**, each of them once. -/
theorem keys_of_reconcile {c c' : Cache} {wanted : List EndPoint} (hk : c.Keyed)
    (h : c.reconcile wanted = (.ok (), c')) :
    c'.Keyed ∧ c'.keys.Perm (EndPoint.keys (EndPoint.distinct wanted)) := by
  obtain ⟨-, -, created, hcreated, hentries⟩ := entries_of_reconcile h
  have hnodup := nodup_keys_append hk wanted
  rw [Keyed, keys_append hcreated hentries]
  exact ⟨hnodup, (List.perm_ext_iff_of_nodup hnodup (EndPoint.nodup_keys_distinct wanted)).2
    fun k => mem_keys_append⟩

/-- If what is wanted is cached already, nothing is missing. -/
theorem missing_eq_nil {c : Cache} {wanted : List EndPoint}
    (hkeys : c.keys.Perm (EndPoint.keys (EndPoint.distinct wanted))) : c.missing wanted = [] := by
  rw [missing, List.filter_eq_nil_iff]
  intro e he
  have hcontains : c.contains e = true :=
    contains_iff.2 (hkeys.mem_iff.2 (List.mem_map.2 ⟨e, he, rfl⟩))
  rw [hcontains]
  exact Bool.false_ne_true

/-- If no more is cached than what is wanted, all is kept. -/
theorem kept_eq {c : Cache} {wanted : List EndPoint}
    (hkeys : c.keys.Perm (EndPoint.keys (EndPoint.distinct wanted))) :
    c.kept wanted = c.entries := by
  rw [kept, List.filter_eq_self]
  intro entry hentry
  refine EndPoint.any_same_iff.2 (hkeys.mem_iff.1 ?_)
  rw [keys_eq]
  exact List.mem_map.2 ⟨entry, hentry, rfl⟩

/-- A reconciliation with what is cached already changes no entry. -/
theorem entries_of_reconcile_of_keys {c c' : Cache} {wanted : List EndPoint}
    (h : c.reconcile wanted = (.ok (), c'))
    (hkeys : c.keys.Perm (EndPoint.keys (EndPoint.distinct wanted))) : c'.entries = c.entries := by
  obtain ⟨-, -, created, hcreated, hentries⟩ := entries_of_reconcile h
  rw [missing_eq_nil hkeys, List.map_eq_nil_iff] at hcreated
  rw [hentries, kept_eq hkeys, hcreated, List.append_nil]

/-! ## With a factory that refuses nothing -/

/-- The factory of the cache refuses no endpoint. -/
def BuildsAll (c : Cache) : Prop := ∀ request e, c.channels.factory.refusal? request e = none

/-- All connections are made if none is refused when its turn comes. -/
theorem exists_createAll (es : List EndPoint) (channels : Channels)
    (h : ∀ p ∈ es.zipIdx channels.requests, channels.factory.refusal? p.2 p.1 = none) :
    ∃ created channels', createAll channels es = (.ok created, channels') := by
  induction es generalizing channels with
  | nil => exact ⟨[], channels, rfl⟩
  | cons e es ih =>
    obtain ⟨handle, hcreate⟩ : ∃ handle, (channels.create e).1 = .ok handle := by
      rw [Channels.create, h (e, channels.requests) (List.mem_cons_self ..)]
      exact ⟨_, rfl⟩
    obtain ⟨created, channels', hall⟩ := ih (channels.create e).2 fun p hp => by
      rw [Channels.requests_create] at hp
      rw [Channels.factory_create]
      exact h p (List.mem_cons_of_mem _ hp)
    refine ⟨(e, handle) :: created, channels', ?_⟩
    rw [createAll, show channels.create e = (.ok handle, (channels.create e).2) by rw [← hcreate]]
    dsimp only
    rw [hall]

/-- **Nothing stops a reconciliation** of a live cache whose factory refuses nothing. -/
theorem exists_reconcile {c : Cache} (hd : c.isDisposed = false) (hf : c.BuildsAll)
    (wanted : List EndPoint) : ∃ c', c.reconcile wanted = (.ok (), c') ∧ c'.BuildsAll := by
  obtain ⟨created, channels', hall⟩ :=
    exists_createAll (c.missing wanted) c.channels fun p _ => hf p.2 p.1
  refine ⟨(c.reconcile wanted).2, ?_, fun request e => ?_⟩
  · rw [reconcile, reconcileIn, if_neg (by simp [hd]), hall]
  · rw [factory_reconcile]
    exact hf request e

/-- **Nothing keeps the cache from holding what it is told to hold.** -/
structure Ready (c : Cache) : Prop where
  isDisposed_eq : c.isDisposed = false
  keyed : c.Keyed
  buildsAll : c.BuildsAll

/-- A ready cache can be reconciled, and is ready again. -/
theorem Ready.reconcile {c : Cache} (h : c.Ready) (wanted : List EndPoint) :
    ∃ c', c.reconcile wanted = (.ok (), c') ∧ c'.Ready
      ∧ c'.keys.Perm (EndPoint.keys (EndPoint.distinct wanted)) := by
  obtain ⟨c', hc', hbuilds⟩ := exists_reconcile h.isDisposed_eq h.buildsAll wanted
  obtain ⟨hkeyed, hperm⟩ := keys_of_reconcile h.keyed hc'
  exact ⟨c', hc', ⟨(entries_of_reconcile hc').2.1, hkeyed, hbuilds⟩, hperm⟩

end Cache

end ClusterLink
