import ClusterLink.Proofs.Connection.Refusals

/-!
# What a cache holds

A cache that is disposed of holds nothing (`Cache.HoldsNothingOnceDisposed`), and as long as nobody
asks it for connections that it does not keep, it stays as it is then. The connections that a cache
holds lead to the endpoints under which they are cached, and were not refused by the channel factory
(`Cache.Genuine`).
-/

namespace ClusterLink

namespace Cache

/-- Whether a connection is asked for that is not cached. -/
def Use.dials : Use → Bool
  | .dial _ => true
  | _ => false

/-! ## Disposal -/

/-- **A cache that is disposed of and empty** stays as it is, whoever uses it. -/
theorem use_of_isDisposed {c : Cache} (hd : c.isDisposed = true) (he : c.entries = [])
    {u : Use} (hu : u.dials = false) : c.use u = c := by
  cases u with
  | getOrCreate e => simp [use, getOrCreate, hd]
  | reconcile wanted => simp [use, reconcile, reconcileIn, hd]
  | evict e => simp [use, evict, find?, he]
  | dial e => cases hu
  | dispose => simp [use, dispose, hd]

/-- A cache is disposed of by disposal only. -/
theorem isDisposed_use {c : Cache} (u : Use) (hu : u ≠ .dispose) :
    (c.use u).isDisposed = c.isDisposed := by
  cases u with
  | getOrCreate e =>
    show (c.getOrCreate e).2.isDisposed = _
    unfold getOrCreate
    split
    · rfl
    · split
      · rfl
      · split <;> rfl
  | reconcile wanted =>
    show (c.reconcileIn (EndPoint.distinct wanted)).2.isDisposed = _
    unfold reconcileIn
    split
    · rfl
    · split <;> rfl
  | evict e =>
    show (c.evict e).2.isDisposed = _
    unfold evict
    split <;> rfl
  | dial e => rfl
  | dispose => exact absurd rfl hu

@[simp] theorem isDisposed_dispose (c : Cache) : c.dispose.isDisposed = true := by
  unfold dispose
  split
  · assumption
  · rfl

/-- Disposal is for good. -/
theorem isDisposed_of_use {c : Cache} (hd : c.isDisposed = true) (u : Use) :
    (c.use u).isDisposed = true := by
  by_cases hu : u = .dispose
  · rw [hu]
    exact isDisposed_dispose c
  · rw [isDisposed_use u hu, hd]

/-- **A cache that is disposed of holds nothing.** -/
def HoldsNothingOnceDisposed (c : Cache) : Prop := c.isDisposed = true → c.entries = []

theorem HoldsNothingOnceDisposed.use {c : Cache} (h : c.HoldsNothingOnceDisposed) {u : Use}
    (hu : u.dials = false) : (c.use u).HoldsNothingOnceDisposed := by
  intro hd
  cases hc : c.isDisposed with
  | true =>
    rw [use_of_isDisposed hc (h hc) hu]
    exact h hc
  | false =>
    by_cases hu' : u = .dispose
    · show (c.use u).entries = []
      rw [hu', Cache.use, dispose, if_neg (by simp [hc])]
      rfl
    · rw [isDisposed_use u hu', hc] at hd
      cases hd

/-! ## What is cached -/

/-- A cached connection leads to its key, and the factory did not refuse that. -/
def IsGenuine (factory : ChannelFactory) (entry : EndPoint × Handle) : Prop :=
  entry.2.endpoint = entry.1 ∧ ∃ request, factory.refusal? request entry.1 = none

/-- **The cached connections are what they are cached as.** -/
def Genuine (c : Cache) : Prop := ∀ entry ∈ c.entries, IsGenuine c.channels.factory entry

theorem isGenuine_of_create {c c' : Channels} {e : EndPoint} {handle : Handle}
    (h : c.create e = (.ok handle, c')) : IsGenuine c.factory (e, handle) :=
  ⟨(Channels.endpoint_of_create h).1, c.requests, (Channels.create_ok h).1⟩

theorem isGenuine_of_createAll {es : List EndPoint} {c c' : Channels}
    {created : List (EndPoint × Handle)} (h : createAll c es = (.ok created, c')) :
    ∀ entry ∈ created, IsGenuine c.factory entry := by
  induction es generalizing c c' created with
  | nil =>
    cases h
    exact nofun
  | cons e es ih =>
    obtain ⟨handle, c'', rest, hcreate, hrest, rfl⟩ := createAll_cons_ok h
    intro entry hentry
    rcases List.mem_cons.1 hentry with rfl | hentry
    · exact isGenuine_of_create hcreate
    · obtain ⟨-, -, rfl⟩ := Channels.create_ok hcreate
      exact ih hrest entry hentry

/-- **What taking a connection from the cache does**: an endpoint that is cached is found, and the
connection of another one is added, unless it is refused. -/
theorem getOrCreate_cases {c : Cache} (hd : c.isDisposed = false) (e : EndPoint) :
    (∃ handle, c.find? e = some handle ∧ c.getOrCreate e = (.ok handle, c))
      ∨ c.find? e = none ∧ ((∃ error channels, c.channels.create e = (.error error, channels)
          ∧ c.getOrCreate e = (.error error, { c with channels := channels }))
        ∨ ∃ handle channels, c.channels.create e = (.ok handle, channels)
          ∧ c.getOrCreate e = (.ok handle, { c with
            channels := channels
            entries := c.entries ++ [(e, handle)]
            log := c.log ++ [createdReport e] })) := by
  unfold getOrCreate
  rw [if_neg (by simp [hd])]
  cases hfind : c.find? e with
  | some handle => exact .inl ⟨handle, rfl, rfl⟩
  | none =>
    refine .inr ⟨rfl, ?_⟩
    cases hcreate : c.channels.create e with
    | mk result channels =>
      cases result with
      | error error => exact .inl ⟨error, channels, rfl, rfl⟩
      | ok handle => exact .inr ⟨handle, channels, rfl, rfl⟩

/-- **A connection is not refused** if the cache is open and a channel can be made for the
endpoint. -/
theorem getOrCreate_ne_error {c : Cache} {e : EndPoint} (hd : c.isDisposed = false)
    (hbuilds : c.channels.factory.Builds e) (error : Error) (c' : Cache) :
    c.getOrCreate e ≠ (.error error, c') := by
  intro h
  rcases getOrCreate_cases hd e with ⟨handle, -, heq⟩ | ⟨-, ⟨error', channels, hcreate, -⟩
    | ⟨handle, channels, -, heq⟩⟩
  · cases h.symm.trans heq
  · exact hbuilds.not_refuses error' (Channels.refuses_of_create hcreate)
  · cases h.symm.trans heq

/-- Taking a connection from the cache takes no entry away. -/
theorem entries_sublist_of_getOrCreate (c : Cache) (e : EndPoint) :
    c.entries.Sublist (c.getOrCreate e).2.entries := by
  unfold getOrCreate
  split
  · exact List.Sublist.refl _
  · split
    · exact List.Sublist.refl _
    · split
      · exact List.Sublist.refl _
      · exact List.sublist_append_left ..

theorem Genuine.use {c : Cache} (h : c.Genuine) (u : Use) : (c.use u).Genuine := by
  have hsub : ∀ {c' : Cache}, c'.channels.factory = c.channels.factory →
      c'.entries.Sublist c.entries → c'.Genuine :=
    fun hf hs entry hentry => hf ▸ h entry (hs.subset hentry)
  have hf := c.factory_use u
  cases u with
  | getOrCreate e =>
    cases hd : c.isDisposed with
    | true =>
      have hsame : c.use (.getOrCreate e) = c := by simp [Cache.use, Cache.getOrCreate, hd]
      rw [hsame]
      exact h
    | false =>
      have huse : c.use (.getOrCreate e) = (c.getOrCreate e).2 := rfl
      rw [huse] at hf ⊢
      rcases getOrCreate_cases hd e with ⟨handle, -, heq⟩ | ⟨-, ⟨error, channels, -, heq⟩
        | ⟨handle, channels, hcreate, heq⟩⟩
      · rw [heq]
        exact h
      · rw [heq] at hf ⊢
        exact hsub hf (List.Sublist.refl _)
      · rw [heq] at hf ⊢
        intro entry hentry
        rw [hf]
        rcases List.mem_append.1 hentry with hold | hnew
        · exact h entry hold
        · exact List.mem_singleton.1 hnew ▸ isGenuine_of_create hcreate
  | reconcile wanted =>
    show (c.reconcileIn (EndPoint.distinct wanted)).2.Genuine
    unfold reconcileIn
    split
    · exact h
    · split
      · rename_i hall
        refine hsub ?_ (List.Sublist.refl _)
        have := factory_createAll ((EndPoint.distinct wanted).filter (!c.contains ·)) c.channels
        rwa [hall] at this
      · rename_i created channels hall
        have hfactory : channels.factory = c.channels.factory := by
          have := factory_createAll ((EndPoint.distinct wanted).filter (!c.contains ·)) c.channels
          rwa [hall] at this
        intro entry hentry
        show IsGenuine channels.factory entry
        rw [hfactory]
        rcases List.mem_append.1 hentry with hkept | hnew
        · exact h entry (List.filter_sublist.subset hkept)
        · exact isGenuine_of_createAll hall entry hnew
  | evict e =>
    refine hsub hf ?_
    show (c.evict e).2.entries.Sublist c.entries
    unfold evict
    split
    · exact List.Sublist.refl _
    · exact List.filter_sublist
  | dial e => exact hsub hf (List.Sublist.refl _)
  | dispose =>
    refine hsub hf ?_
    show c.dispose.entries.Sublist c.entries
    unfold dispose
    split
    · exact List.Sublist.refl _
    · exact List.nil_sublist _

/-- **A connection from the cache leads to the endpoint that was asked for.** -/
theorem Genuine.same_of_getOrCreate {c c' : Cache} (h : c.Genuine) {e : EndPoint} {handle : Handle}
    (hok : c.getOrCreate e = (.ok handle, c')) : handle.endpoint.same e = true := by
  cases hd : c.isDisposed with
  | true =>
    rw [getOrCreate, if_pos hd] at hok
    cases hok
  | false =>
    rcases getOrCreate_cases hd e with ⟨found, hfind, heq⟩ | ⟨-, ⟨error, channels, -, heq⟩
      | ⟨made, channels, hcreate, heq⟩⟩
    · cases hok.symm.trans heq
      obtain ⟨entry, hentry, rfl⟩ := Option.map_eq_some_iff.1 hfind
      rw [(h entry (List.mem_of_find?_eq_some hentry)).1]
      exact List.find?_some (p := fun entry : EndPoint × Handle => entry.1.same e) hentry
    · cases hok.symm.trans heq
    · cases hok.symm.trans heq
      rw [(isGenuine_of_create hcreate).1]
      exact e.same_refl

end Cache

end ClusterLink
