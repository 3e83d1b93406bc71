import ClusterLink.Connection.Cache

/-!
# Why a cache refuses

A cache fails for two reasons only: it has been disposed of, or the channel factory refuses an
endpoint. Whatever is done to a cache, its factory stays the same (`Cache.use`), so what a factory
never answers is never answered by its cache.
-/

namespace ClusterLink

namespace ChannelFactory

/-- The factory may give this error for an endpoint. -/
def MayRefuse (f : ChannelFactory) (error : Error) : Prop :=
  ∃ request e, f.refusal? request e = some error

/-- The factory may give this error for this endpoint. -/
def Refuses (f : ChannelFactory) (e : EndPoint) (error : Error) : Prop :=
  ∃ request, f.refusal? request e = some error

/-- The factory makes a channel for this endpoint whenever it is asked. -/
def Builds (f : ChannelFactory) (e : EndPoint) : Prop := ∀ request, f.refusal? request e = none

theorem Builds.not_refuses {f : ChannelFactory} {e : EndPoint} (h : f.Builds e) (error : Error) :
    ¬f.Refuses e error := by
  rintro ⟨request, hrefusal⟩
  cases (h request).symm.trans hrefusal

theorem Refuses.mayRefuse {f : ChannelFactory} {e : EndPoint} {error : Error}
    (h : f.Refuses e error) : f.MayRefuse error := by
  obtain ⟨request, hr⟩ := h
  exact ⟨request, e, hr⟩

/-- The factory that connects when a channel is first used fails by transport errors only. -/
theorem eq_of_mayRefuse_lazy {tls : Bool} {error : Error}
    (h : (ChannelFactory.lazy tls).MayRefuse error) : error = .transport "invalid address" := by
  obtain ⟨request, e, h⟩ := h
  simp only [ChannelFactory.lazy] at h
  split at h
  · cases h
  · cases h
    rfl

end ChannelFactory

/-! ## Channels -/

namespace Channels

@[simp] theorem factory_create (c : Channels) (e : EndPoint) :
    (c.create e).2.factory = c.factory := by
  unfold create
  split <;> rfl

/-- What has happened if a connection is made. -/
theorem create_ok {c c' : Channels} {e : EndPoint} {handle : Handle}
    (h : c.create e = (.ok handle, c')) : c.factory.refusal? c.requests e = none
      ∧ handle = ⟨c.requests, e, c.factory.tls⟩
      ∧ c' = { c with requests := c.requests + 1, made := c.made ++ [handle] } := by
  unfold create at h
  split at h
  · cases h
  · rename_i hrefusal
    cases h
    exact ⟨hrefusal, rfl, rfl⟩

/-- What has happened if a connection is refused. -/
theorem create_error {c c' : Channels} {e : EndPoint} {error : Error}
    (h : c.create e = (.error error, c')) :
    c.factory.refusal? c.requests e = some error
      ∧ c' = { c with requests := c.requests + 1 } := by
  unfold create at h
  split at h
  · rename_i hrefusal
    cases h
    exact ⟨hrefusal, rfl⟩
  · cases h

theorem refuses_of_create {c c' : Channels} {e : EndPoint} {error : Error}
    (h : c.create e = (.error error, c')) : c.factory.Refuses e error :=
  ⟨c.requests, (create_error h).1⟩

end Channels

namespace Cache

@[simp] theorem factory_createAll (es : List EndPoint) (c : Channels) :
    (createAll c es).2.factory = c.factory := by
  induction es generalizing c with
  | nil => rfl
  | cons e es ih =>
    have hcreate : (c.create e).2.factory = c.factory := c.factory_create e
    unfold createAll
    split
    · rename_i error c' hc
      rw [hc] at hcreate
      exact hcreate
    · rename_i handle c' hc
      rw [hc] at hcreate
      have hrest : (createAll c' es).2.factory = c.factory := (ih c').trans hcreate
      split <;> rename_i h <;> rw [h] at hrest <;> exact hrest

/-- All channels are made: the first one, and then the others. -/
theorem createAll_cons_ok {e : EndPoint} {es : List EndPoint} {c c' : Channels}
    {created : List (EndPoint × Handle)} (h : createAll c (e :: es) = (.ok created, c')) :
    ∃ handle c'' rest, c.create e = (.ok handle, c'') ∧ createAll c'' es = (.ok rest, c')
      ∧ created = (e, handle) :: rest := by
  unfold createAll at h
  split at h
  · cases h
  · rename_i handle c'' hcreate
    split at h
    · cases h
    · rename_i rest _ hrest
      cases h
      exact ⟨handle, c'', rest, hcreate, hrest, rfl⟩

/-- Not all channels are made: the first one is refused, or it is made and another one is
refused. -/
theorem createAll_cons_error {e : EndPoint} {es : List EndPoint} {c c' : Channels} {error : Error}
    (h : createAll c (e :: es) = (.error error, c')) : c.create e = (.error error, c')
      ∨ ∃ handle c'', c.create e = (.ok handle, c'')
        ∧ createAll c'' es = (.error error, c') := by
  unfold createAll at h
  split at h
  · rename_i hcreate
    cases h
    exact .inl hcreate
  · rename_i handle c'' hcreate
    split at h
    · rename_i hrest
      cases h
      exact .inr ⟨handle, c'', hcreate, hrest⟩
    · cases h

/-- A channel that cannot be made was asked for one of the endpoints. -/
theorem refuses_of_createAll {es : List EndPoint} {c c' : Channels} {error : Error}
    (h : createAll c es = (.error error, c')) : ∃ e ∈ es, c.factory.Refuses e error := by
  induction es generalizing c c' with
  | nil => cases h
  | cons e es ih =>
    rcases createAll_cons_error h with hcreate | ⟨handle, c'', hcreate, hrest⟩
    · exact ⟨e, List.mem_cons_self .., Channels.refuses_of_create hcreate⟩
    · obtain ⟨-, -, rfl⟩ := Channels.create_ok hcreate
      obtain ⟨e', he', hrefuses⟩ := ih hrest
      exact ⟨e', List.mem_cons_of_mem _ he', hrefuses⟩

/-! ## The operations of a cache -/

@[simp] theorem factory_reconcileIn (c : Cache) (wanted : List EndPoint) :
    (c.reconcileIn wanted).2.channels.factory = c.channels.factory := by
  have hall : (createAll c.channels (wanted.filter (!c.contains ·))).2.factory
      = c.channels.factory := factory_createAll _ _
  unfold reconcileIn
  split
  · rfl
  · split <;> rename_i h <;> rw [h] at hall <;> exact hall

@[simp] theorem factory_reconcile (c : Cache) (wanted : List EndPoint) :
    (c.reconcile wanted).2.channels.factory = c.channels.factory :=
  c.factory_reconcileIn _

/-- What a reconciliation has done if it succeeds. -/
theorem reconcileIn_ok {c c' : Cache} {wanted : List EndPoint}
    (h : c.reconcileIn wanted = (.ok (), c')) :
    c.isDisposed = false ∧ ∃ created channels,
      createAll c.channels (wanted.filter (!c.contains ·)) = (.ok created, channels)
        ∧ c' = release { c with
            channels := channels
            entries := c.entries.filter (fun entry => wanted.any (·.same entry.1)) ++ created
            log := c.log ++ created.map (createdReport ·.1) }
          ((c.entries.filter fun entry => !wanted.any (·.same entry.1)).map (·.2)) := by
  unfold reconcileIn at h
  split at h
  · cases h
  · rename_i hd
    split at h
    · cases h
    · rename_i created channels hall
      cases h
      exact ⟨(Bool.not_eq_true _).mp hd, created, channels, hall, rfl⟩

/-- What a reconciliation has done if it fails. -/
theorem reconcileIn_error {c c' : Cache} {wanted : List EndPoint} {error : Error}
    (h : c.reconcileIn wanted = (.error error, c')) :
    c.isDisposed = true ∧ error = disposedError ∧ c' = c
      ∨ ∃ channels,
        createAll c.channels (wanted.filter (!c.contains ·)) = (.error error, channels)
        ∧ c' = { c with channels := channels } := by
  unfold reconcileIn at h
  split at h
  · rename_i hd
    cases h
    exact .inl ⟨hd, rfl, rfl⟩
  · split at h
    · rename_i channels hall
      cases h
      exact .inr ⟨channels, hall, rfl⟩
    · cases h

/-- A reconciliation fails because the cache was disposed of, or one of the endpoints is refused. -/
theorem refuses_of_reconcileIn {c c' : Cache} {wanted : List EndPoint} {error : Error}
    (h : c.reconcileIn wanted = (.error error, c')) :
    c.isDisposed = true ∧ error = disposedError
      ∨ ∃ e ∈ wanted, c.channels.factory.Refuses e error := by
  rcases reconcileIn_error h with ⟨hd, herror, -⟩ | ⟨channels, hall, -⟩
  · exact .inl ⟨hd, herror⟩
  · obtain ⟨e, he, hrefuses⟩ := refuses_of_createAll hall
    exact .inr ⟨e, (List.mem_filter.1 he).1, hrefuses⟩

/-- **A reconciliation fails** because the cache was disposed of, or an endpoint is refused. -/
theorem error_of_reconcile {c c' : Cache} {wanted : List EndPoint} {error : Error}
    (h : c.reconcile wanted = (.error error, c')) :
    error = disposedError ∨ c.channels.factory.MayRefuse error := by
  refine (refuses_of_reconcileIn h).imp And.right fun hrefused => ?_
  obtain ⟨e, -, hrefuses⟩ := hrefused
  exact hrefuses.mayRefuse

theorem error_of_snapshot {c : Cache} {error : Error} (h : c.snapshot = .error error) :
    error = disposedError := by
  unfold snapshot at h
  split at h
  · cases h
    rfl
  · cases h

/-! ## Other users -/

/-- **What others do to a cache** that they share. -/
inductive Use where
  | getOrCreate (e : EndPoint)
  | reconcile (wanted : List EndPoint)
  | evict (e : EndPoint)
  | dial (e : EndPoint)
  | dispose

/-- The cache after it was used. -/
def use (c : Cache) : Use → Cache
  | .getOrCreate e => (c.getOrCreate e).2
  | .reconcile wanted => (c.reconcile wanted).2
  | .evict e => (c.evict e).2
  | .dial e => (c.dial e).2
  | .dispose => c.dispose

@[simp] theorem factory_use (c : Cache) (u : Use) :
    (c.use u).channels.factory = c.channels.factory := by
  cases u with
  | getOrCreate e =>
    have hcreate : (c.channels.create e).2.factory = c.channels.factory :=
      c.channels.factory_create e
    show (c.getOrCreate e).2.channels.factory = _
    unfold getOrCreate
    split
    · rfl
    · split
      · rfl
      · split <;> rename_i h <;> rw [h] at hcreate <;> exact hcreate
  | reconcile wanted => exact c.factory_reconcile wanted
  | evict e =>
    show (c.evict e).2.channels.factory = _
    unfold evict
    split <;> rfl
  | dial e => exact c.channels.factory_create e
  | dispose =>
    show c.dispose.channels.factory = _
    unfold dispose
    split <;> rfl

end Cache

end ClusterLink
