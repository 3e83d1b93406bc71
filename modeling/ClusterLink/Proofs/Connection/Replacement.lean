import ClusterLink.Proofs.Connection.Keys

/-!
# What a reconciliation leaves behind

A reconciliation either replaces the cached endpoints by the wanted ones, keeping the connections of
those that stay (`Cache.Replaced`), or it fails and leaves the cache as it was (`Cache.Unchanged`):
then no more has happened than that channels were asked for. Where it fails though the cache has not
been disposed of, one of the wanted endpoints was refused.
-/

namespace ClusterLink

namespace Cache

/-- **The cached endpoints were replaced** by the wanted ones. -/
structure Replaced (c c' : Cache) (wanted : List EndPoint) : Prop where
  mem_keys_iff : ∀ k, k ∈ c'.keys ↔ k ∈ EndPoint.keys wanted
  find?_eq : ∀ (e : EndPoint) (handle : Handle), e.key ∈ EndPoint.keys wanted →
    c.find? e = some handle → c'.find? e = some handle

/-- An endpoint that is wanted twice is wanted. -/
theorem Replaced.of_distinct {c c' : Cache} {wanted : List EndPoint}
    (h : Replaced c c' (EndPoint.distinct wanted)) : Replaced c c' wanted where
  mem_keys_iff := fun k => (h.mem_keys_iff k).trans EndPoint.mem_keys_distinct
  find?_eq := fun e handle he => h.find?_eq e handle (EndPoint.mem_keys_distinct.2 he)

/-- **The cache was left as it was.** Only channels may have been asked for. -/
def Unchanged (c c' : Cache) : Prop := c' = { c with channels := c'.channels }

theorem Unchanged.refl (c : Cache) : Unchanged c c := rfl

/-- An endpoint that is kept is found as before. -/
theorem find?_kept {c : Cache} {wanted : List EndPoint} {e : EndPoint}
    (he : e.key ∈ EndPoint.keys wanted) :
    (c.kept wanted).find? (fun entry => entry.1.same e)
      = c.entries.find? fun entry => entry.1.same e := by
  rw [kept, List.find?_filter]
  congr 1
  funext entry
  cases hsame : entry.1.same e with
  | false => simp
  | true =>
    -- an entry of that name is wanted, and so it is kept
    have hany : (EndPoint.distinct wanted).any (·.same entry.1) = true :=
      EndPoint.any_same_iff.2 (EndPoint.mem_keys_distinct.2 (EndPoint.same_iff.1 hsame ▸ he))
    simp [hany]

/-- **A reconciliation that succeeds replaces the endpoints.** -/
theorem replaced_of_reconcile {c c' : Cache} {wanted : List EndPoint}
    (h : c.reconcile wanted = (.ok (), c')) : Replaced c c' wanted := by
  obtain ⟨-, -, created, hcreated, hentries⟩ := entries_of_reconcile h
  refine ⟨fun k => ?_, fun e handle he hfind => ?_⟩
  · rw [keys_append hcreated hentries, mem_keys_append, EndPoint.mem_keys_distinct]
  · obtain ⟨entry, hentry, rfl⟩ := Option.map_eq_some_iff.1 hfind
    rw [find?, hentries, List.find?_append, find?_kept he, hentry]
    rfl

/-- **A reconciliation that fails leaves the cache as it was.** -/
theorem unchanged_of_reconcile {c c' : Cache} {wanted : List EndPoint} {error : Error}
    (h : c.reconcile wanted = (.error error, c')) : Unchanged c c' := by
  rcases reconcileIn_error h with ⟨-, -, rfl⟩ | ⟨channels, -, rfl⟩ <;> rfl

/-- Channels were asked for where one could not be made. -/
theorem requests_lt_of_createAll {es : List EndPoint} {c c' : Channels} {error : Error}
    (h : createAll c es = (.error error, c')) : c.requests < c'.requests := by
  induction es generalizing c c' with
  | nil => cases h
  | cons e es ih =>
    rcases createAll_cons_error h with hcreate | ⟨handle, c'', hcreate, hrest⟩
    · obtain ⟨-, rfl⟩ := Channels.create_error hcreate
      exact Nat.lt_succ_self _
    · obtain ⟨-, -, rfl⟩ := Channels.create_ok hcreate
      exact Nat.lt_trans (Nat.lt_succ_self _) (ih hrest)

/-- A reconciliation that fails and does not even ask for a channel finds the cache disposed of. -/
theorem eq_disposedError_of_reconcile {c : Cache} {wanted : List EndPoint} {error : Error}
    (h : c.reconcile wanted = (.error error, c)) : error = disposedError := by
  rcases reconcileIn_error h with ⟨-, herror, -⟩ | ⟨channels, hall, hc⟩
  · exact herror
  · have hchannels : c.channels = channels := congrArg (·.channels) hc
    exact absurd (requests_lt_of_createAll hall) (hchannels ▸ Nat.lt_irrefl _)

/-- A reconciliation fails because the cache was disposed of, or a wanted endpoint is refused. -/
theorem refuses_of_reconcile {c c' : Cache} {wanted : List EndPoint} {error : Error}
    (h : c.reconcile wanted = (.error error, c')) :
    error = disposedError ∨ ∃ e ∈ wanted, c.channels.factory.Refuses e error := by
  refine (refuses_of_reconcileIn h).imp And.right fun hrefused => ?_
  obtain ⟨e, he, hrefuses⟩ := hrefused
  exact ⟨e, EndPoint.mem_of_mem_distinct he, hrefuses⟩

/-- **A reconciliation does not fail** if the cache is open and a channel can be made for each of
the wanted endpoints. -/
theorem reconcile_ne_error {c : Cache} {wanted : List EndPoint} (hd : c.isDisposed = false)
    (hbuilds : ∀ e ∈ wanted, c.channels.factory.Builds e) (error : Error) (c' : Cache) :
    c.reconcile wanted ≠ (.error error, c') := by
  intro h
  rcases refuses_of_reconcileIn h with ⟨hdisposed, -⟩ | ⟨e, he, hrefuses⟩
  · cases hd.symm.trans hdisposed
  · exact (hbuilds e (EndPoint.mem_of_mem_distinct he)).not_refuses error hrefuses

end Cache

end ClusterLink
