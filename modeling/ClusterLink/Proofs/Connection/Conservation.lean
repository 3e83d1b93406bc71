import ClusterLink.Proofs.Connection.Custody
import ClusterLink.Proofs.Connection.Reconciliation

/-!
# Connections that get lost

A connection that was made is cached, or it was handed over to be closed, or neither: then nobody
knows of it any more (`Cache.stranded`). A factory that counts its connections never gets such a one
back.

One operation loses connections. A reconciliation asks for the missing ones in turn, and when one is
refused it ends there and drops those that it has made by then (`Cache.drops`). The cache is as it
was, but the connections are not: they were never cached, and they are not handed over either,
though every other operation hands over what it gives up. Apart from these no connection gets lost,
and each is passed once to be disposed of when it leaves the cache
(`Custody.connections_kept_or_dropped`).
-/

namespace ClusterLink

/-! ## What is made -/

namespace Channels

/-- Whether the factory makes a connection for an endpoint at the request with the given number. -/
def grants (c : Channels) (p : EndPoint × Nat) : Bool := (c.factory.refusal? p.2 p.1).isNone

/-- The endpoints that are asked for in turn, each with the number of its request. -/
def asks (c : Channels) (es : List EndPoint) : List (EndPoint × Nat) := es.zipIdx c.requests

/-- **The connections that are made** for endpoints in turn: one for each, until one is refused. -/
def builds (c : Channels) (es : List EndPoint) : List Handle :=
  ((c.asks es).takeWhile c.grants).map fun p => ⟨p.2, p.1, c.factory.tls⟩

theorem builds_ne_nil_iff {c : Channels} {es : List EndPoint} :
    c.builds es ≠ [] ↔ ∃ e rest,
      es = e :: rest ∧ c.factory.refusal? c.requests e = none := by
  cases es with
  | nil => simp [builds, asks]
  | cons e rest =>
    cases hrefusal : c.factory.refusal? c.requests e <;> simp [builds, asks, grants, hrefusal]

/-- Every connection has the number of a request of its own. -/
structure Sound (c : Channels) : Prop where
  nodup : (c.made.map (·.number)).Nodup
  number_lt : ∀ handle ∈ c.made, handle.number < c.requests

theorem Sound.create {c : Channels} (h : c.Sound) (e : EndPoint) : (c.create e).2.Sound := by
  cases hcreate : c.create e with
  | mk answer c' =>
    cases answer with
    | error error =>
      obtain ⟨-, rfl⟩ := create_error hcreate
      exact ⟨h.nodup, fun handle hmem => Nat.lt_succ_of_lt (h.number_lt handle hmem)⟩
    | ok handle =>
      obtain ⟨-, rfl, rfl⟩ := create_ok hcreate
      refine ⟨?_, fun handle hmem => ?_⟩
      · rw [List.map_append, List.nodup_append]
        refine ⟨h.nodup, List.pairwise_singleton .., ?_⟩
        rintro n hn n' hn' rfl
        obtain ⟨old, hold, rfl⟩ := List.mem_map.1 hn
        exact (Nat.ne_of_lt (h.number_lt old hold)) (List.mem_singleton.1 hn')
      · rcases List.mem_append.1 hmem with hold | hnew
        · exact Nat.lt_succ_of_lt (h.number_lt handle hold)
        · cases List.mem_singleton.1 hnew
          exact Nat.lt_succ_self _

end Channels

namespace Cache

/-- The channels after the first one is refused. -/
theorem createAll_cons_of_refusal {c : Channels} {e : EndPoint} {error : Error}
    (h : c.factory.refusal? c.requests e = some error) (es : List EndPoint) :
    (createAll c (e :: es)).2 = (c.create e).2 := by
  simp [createAll, Channels.create, h]

/-- The channels after the first one is made. -/
theorem createAll_cons_of_grant {c : Channels} {e : EndPoint}
    (h : c.factory.refusal? c.requests e = none) (es : List EndPoint) :
    (createAll c (e :: es)).2 = (createAll (c.create e).2 es).2 := by
  simp only [createAll, Channels.create, h]
  split <;> rename_i hrest <;> rw [hrest]

/-- **What is made for endpoints in turn**, whether or not one is refused. -/
theorem made_createAll (es : List EndPoint) (c : Channels) :
    (createAll c es).2.made = c.made ++ c.builds es := by
  induction es generalizing c with
  | nil => exact (List.append_nil _).symm
  | cons e es ih =>
    cases hrefusal : c.factory.refusal? c.requests e with
    | some error =>
      rw [createAll_cons_of_refusal hrefusal]
      simp [Channels.create, hrefusal, Channels.builds, Channels.asks, Channels.grants]
    | none =>
      rw [createAll_cons_of_grant hrefusal, ih]
      simp [Channels.create, hrefusal, Channels.builds, Channels.asks, Channels.grants]
      rfl

theorem sound_createAll {c : Channels} (h : c.Sound) (es : List EndPoint) :
    (createAll c es).2.Sound := by
  induction es generalizing c with
  | nil => exact h
  | cons e es ih =>
    cases hrefusal : c.factory.refusal? c.requests e with
    | some error =>
      rw [createAll_cons_of_refusal hrefusal]
      exact h.create e
    | none =>
      rw [createAll_cons_of_grant hrefusal]
      exact ih (h.create e)

theorem made_of_createAll {es : List EndPoint} {c c' : Channels}
    {answer : Except Error (List (EndPoint × Handle))} (h : createAll c es = (answer, c')) :
    c'.made = c.made ++ c.builds es := by
  rw [← made_createAll, h]

/-- If all connections are made, none is refused when its turn comes. -/
theorem all_grants_of_createAll {es : List EndPoint} {c c' : Channels}
    {created : List (EndPoint × Handle)} (h : createAll c es = (.ok created, c')) :
    (c.asks es).all c.grants = true :=
  List.all_eq_true.2 fun p hp => Option.isNone_iff_eq_none.2 ((channels_of_createAll h).2 p hp)

theorem all_grants_of_createAll_error {es : List EndPoint} {c c' : Channels} {error : Error}
    (h : createAll c es = (.error error, c')) : (c.asks es).all c.grants = false := by
  obtain ⟨p, hp, hrefusal⟩ := refusal_of_createAll h
  refine List.all_eq_false.2 ⟨p, hp, ?_⟩
  simp [Channels.grants, hrefusal]

/-! ## What is dropped -/

/-- **The connections that an operation makes and drops**: those that a reconciliation has made when
it is refused one. -/
def drops (c : Cache) : Operation → List Handle
  | .reconcile _ order _ =>
    if c.isDisposed || (c.channels.asks (c.uncached order)).all c.channels.grants then []
    else c.channels.builds (c.uncached order)
  | _ => []

theorem drops_of_reconcileIn {c c' : Cache} {wanted order : List EndPoint} {error : Error}
    (isOrder : order.Perm (EndPoint.distinct wanted)) (hd : c.isDisposed = false)
    (h : c.reconcileIn order = (.error error, c')) :
    c.drops (.reconcile wanted order isOrder) = c.channels.builds (c.uncached order) := by
  obtain ⟨hdisposed, -⟩ | ⟨channels, hall, -⟩ := reconcileIn_error h
  · cases hd.symm.trans hdisposed
  · have hrefused : (c.channels.asks (c.uncached order)).all c.channels.grants = false :=
      all_grants_of_createAll_error hall
    simp [drops, hd, hrefused]

theorem drops_of_reconcileIn_ok {c c' : Cache} {wanted order : List EndPoint}
    {isOrder : order.Perm (EndPoint.distinct wanted)} (h : c.reconcileIn order = (.ok (), c')) :
    c.drops (.reconcile wanted order isOrder) = [] := by
  obtain ⟨hd, created, channels, hall, -⟩ := reconcileIn_ok h
  have hgranted : (c.channels.asks (c.uncached order)).all c.channels.grants = true :=
    all_grants_of_createAll hall
  simp [drops, hgranted]

/-- The connections that are cached or were handed over to be closed. -/
def custody (c : Cache) : List Handle := c.handles ++ c.released

/-- **The connections that were made and are in nobody's hands.** -/
def stranded (c : Cache) : List Handle := c.channels.made.filter (· ∉ c.custody)

theorem mem_stranded {c : Cache} {handle : Handle} :
    handle ∈ c.stranded ↔ handle ∈ c.channels.made ∧ handle ∉ c.custody := by
  simp [stranded]

/-- An operation that asks for no channel adds no connection. -/
theorem Turnover.created_eq_nil {c c' : Cache} {kept gone created : List (EndPoint × Handle)}
    (t : Turnover c c' kept gone created) (h : c'.channels = c.channels) : created = [] := by
  refine List.eq_nil_iff_forall_not_mem.2 fun entry hentry => ?_
  have hmem := List.mem_map_of_mem (f := (·.2)) hentry
  have hge := t.makes.number_ge entry.2 hmem
  have hlt := t.makes.number_lt entry.2 hmem
  rw [h] at hlt
  omega

/-- **What an operation makes** is cached, or dropped. -/
def Parts (c c' : Cache) (dropped : List Handle) : Prop :=
  ∃ cached, c'.channels.made = c.channels.made ++ (cached ++ dropped)
    ∧ c'.custody.Perm (c.custody ++ cached)

theorem Parts.of_turnover {c c' : Cache} {kept gone created : List (EndPoint × Handle)}
    (t : Turnover c c' kept gone created) (h : c'.channels = c.channels) : Parts c c' [] := by
  refine ⟨[], by simp [h], ?_⟩
  have hperm := t.custody_perm
  rwa [t.created_eq_nil h] at hperm

theorem parts_getOrCreate (c : Cache) (e : EndPoint) : Parts c (c.getOrCreate e).2 [] := by
  cases hd : c.isDisposed with
  | true =>
    rw [show (c.getOrCreate e).2 = c by simp [getOrCreate, hd]]
    exact .of_turnover (.refl c) rfl
  | false =>
    rcases getOrCreate_cases hd e with ⟨handle, -, heq⟩
      | ⟨-, ⟨error, channels, hcreate, heq⟩
        | ⟨handle, channels, hcreate, heq⟩⟩ <;> rw [heq]
    · exact .of_turnover (.refl c) rfl
    · obtain ⟨-, rfl⟩ := Channels.create_error hcreate
      exact ⟨[], by simp, by simp [custody, handles]⟩
    · obtain ⟨-, -, rfl⟩ := Channels.create_ok hcreate
      refine ⟨[handle], rfl, ?_⟩
      simp only [custody, handles, List.map_append, List.map_cons, List.map_nil, List.append_assoc]
      exact List.perm_append_comm.append_left _

theorem parts_reconcileIn (c : Cache) (wanted order : List EndPoint)
    (isOrder : order.Perm (EndPoint.distinct wanted)) :
    Parts c (c.reconcileIn order).2 (c.drops (.reconcile wanted order isOrder)) := by
  cases hd : c.isDisposed with
  | true =>
    rw [show (c.reconcileIn order).2 = c by simp [reconcileIn, hd]]
    exact ⟨[], by simp [drops, hd], by simp⟩
  | false =>
    cases hanswer : c.reconcileIn order with
    | mk answer c' =>
      cases answer with
      | error error =>
        obtain ⟨hdisposed, -⟩ | ⟨channels, hall, rfl⟩ := reconcileIn_error hanswer
        · cases hd.symm.trans hdisposed
        · have hmade : channels.made = c.channels.made ++ c.channels.builds (c.uncached order) :=
            made_of_createAll hall
          refine ⟨[], ?_, by simp [custody, handles]⟩
          rw [drops_of_reconcileIn isOrder hd hanswer]
          exact hmade
      | ok =>
        rw [drops_of_reconcileIn_ok hanswer]
        obtain ⟨-, created, channels, hall, rfl⟩ := reconcileIn_ok hanswer
        refine ⟨created.map (·.2), ?_, ?_⟩
        · rw [List.append_nil]
          exact congrArg Channels.made (channels_of_createAll hall).1
        · -- what is not kept has moved from the entries to what is handed over
          have hparts := (List.filter_append_perm
            (fun entry : EndPoint × Handle => order.any (·.same entry.1)) c.entries).map (·.2)
          rw [List.map_append] at hparts
          refine List.perm_iff_count.2 fun handle => ?_
          have hcount := hparts.count_eq handle
          simp only [custody, handles, release, List.map_append, List.count_append] at hcount ⊢
          omega

/-- **An operation loses what it drops**, and nothing besides. -/
theorem parts_perform {c : Cache} (hk : c.Keyed) (op : Operation) :
    Parts c (c.perform op).2 (c.drops op) := by
  obtain ⟨_, _, _, t⟩ := exists_turnover hk op
  cases op with
  | getOrCreate e => exact parts_getOrCreate c e
  | reconcile wanted order isOrder => exact parts_reconcileIn c wanted order isOrder
  | evict e =>
    refine .of_turnover t ?_
    simp only [perform, evict]
    split <;> rfl
  | dispose =>
    refine .of_turnover t ?_
    simp only [perform, dispose]
    split <;> rfl
  | snapshot => exact .of_turnover t rfl

/-- Every operation asks for some channels in turn. -/
theorem exists_channels_perform (c : Cache) (op : Operation) :
    ∃ es, (c.perform op).2.channels = (createAll c.channels es).2 := by
  cases op with
  | getOrCreate e =>
    cases hd : c.isDisposed with
    | true => exact ⟨[], by simp [perform, getOrCreate, hd, createAll]⟩
    | false =>
      rcases getOrCreate_cases hd e with ⟨handle, -, heq⟩
        | ⟨-, ⟨error, channels, hcreate, heq⟩
          | ⟨handle, channels, hcreate, heq⟩⟩ <;> simp only [perform, heq]
      · exact ⟨[], rfl⟩
      · exact ⟨[e], by simp [createAll, hcreate]⟩
      · exact ⟨[e], by simp [createAll, hcreate]⟩
  | reconcile wanted order isOrder =>
    cases hanswer : c.reconcileIn order with
    | mk answer c' =>
      simp only [perform, hanswer]
      cases answer with
      | error error =>
        obtain ⟨-, -, rfl⟩ | ⟨channels, hall, rfl⟩ := reconcileIn_error hanswer
        · exact ⟨[], rfl⟩
        · exact ⟨_, by rw [hall]⟩
      | ok =>
        obtain ⟨-, created, channels, hall, rfl⟩ := reconcileIn_ok hanswer
        exact ⟨_, by rw [hall]; rfl⟩
  | evict e =>
    refine ⟨[], ?_⟩
    simp only [perform, evict]
    split <;> rfl
  | dispose =>
    refine ⟨[], ?_⟩
    simp only [perform, dispose]
    split <;> rfl
  | snapshot => exact ⟨[], rfl⟩

/-- **The connections of a cache are its own**: each was made for a request of its own, and what is
cached or was handed over was made. -/
structure Known (c : Cache) : Prop where
  sound : c.channels.Sound
  made : ∀ handle ∈ c.custody, handle ∈ c.channels.made

theorem known_new (f : ChannelFactory) : (new f).Known where
  sound := ⟨List.nodup_nil, nofun⟩
  made := nofun

theorem Known.perform {c : Cache} (h : c.Known) (hk : c.Keyed) (op : Operation) :
    (c.perform op).2.Known where
  sound := by
    obtain ⟨es, hes⟩ := exists_channels_perform c op
    rw [hes]
    exact sound_createAll h.sound es
  made := fun handle hmem => by
    obtain ⟨cached, hmade, hperm⟩ := parts_perform hk op
    rw [hmade]
    rcases List.mem_append.1 (hperm.mem_iff.1 hmem) with hbefore | hcached
    · exact List.mem_append_left _ (h.made handle hbefore)
    · exact List.mem_append_right _ (List.mem_append_left _ hcached)

/-- **What is lost** is what was lost before, with what is dropped now. -/
theorem stranded_of_parts {c c' : Cache} {dropped : List Handle} (h : c.Known) (h' : c'.Known)
    (p : Parts c c' dropped) : c'.stranded = c.stranded ++ dropped := by
  obtain ⟨cached, hmade, hperm⟩ := p
  have hnodup : (c.channels.made ++ (cached ++ dropped)).Nodup := hmade ▸ h'.sound.nodup.of_map
  obtain ⟨-, hnew, hfresh⟩ := List.nodup_append.1 hnodup
  have hmem : ∀ handle, handle ∈ c'.custody ↔ handle ∈ c.custody ∨ handle ∈ cached :=
    fun handle => hperm.mem_iff.trans List.mem_append
  have hold : c.channels.made.filter (· ∉ c'.custody) = c.stranded :=
    List.filter_congr fun handle hmade => by
      have hnot : handle ∉ cached := fun hcached =>
        hfresh handle hmade handle (List.mem_append_left _ hcached) rfl
      simp [hmem, hnot]
  have hcached : cached.filter (· ∉ c'.custody) = [] :=
    List.filter_eq_nil_iff.2 fun handle hcached => by simp [hmem, hcached]
  have hdropped : dropped.filter (· ∉ c'.custody) = dropped :=
    List.filter_eq_self.2 fun handle hdropped => by
      have hnot : handle ∉ cached := fun hcached =>
        (List.nodup_append.1 hnew).2.2 handle hcached handle hdropped rfl
      have hnever : handle ∉ c.custody := fun hbefore =>
        hfresh handle (h.made handle hbefore) handle (List.mem_append_right _ hdropped) rfl
      simp [hmem, hnot, hnever]
  rw [stranded, hmade, List.filter_append, List.filter_append, hold, hcached, hdropped,
    List.nil_append]

/-- **A reconciliation fails halfway**: it is refused a connection, and not the first that it asks
for. -/
def FailsHalfway (c : Cache) (op : Operation) : Prop :=
  c.isDisposed = false ∧ ∃ wanted order isOrder, op = .reconcile wanted order isOrder
    ∧ (∃ error c', c.reconcileIn order = (.error error, c'))
    ∧ ∃ e es, c.uncached order = e :: es
    ∧ c.channels.factory.refusal? c.channels.requests e = none

/-- **Connections are dropped halfway** through a reconciliation, and nowhere else. -/
theorem drops_ne_nil_iff {c : Cache} {op : Operation} :
    c.drops op ≠ [] ↔ c.FailsHalfway op := by
  constructor
  · intro hne
    cases op with
    | reconcile wanted order isOrder =>
      cases hd : c.isDisposed with
      | true => exact absurd (by simp [drops, hd]) hne
      | false =>
        cases hanswer : c.reconcileIn order with
        | mk answer c' =>
          cases answer with
          | ok => exact absurd (drops_of_reconcileIn_ok hanswer) hne
          | error error =>
            rw [drops_of_reconcileIn isOrder hd hanswer, Channels.builds_ne_nil_iff] at hne
            exact ⟨hd, wanted, order, isOrder, rfl, ⟨error, c', hanswer⟩, hne⟩
    | getOrCreate => exact absurd rfl hne
    | evict => exact absurd rfl hne
    | dispose => exact absurd rfl hne
    | snapshot => exact absurd rfl hne
  · rintro ⟨hd, wanted, order, isOrder, rfl, ⟨error, c', hanswer⟩, hfirst⟩
    rw [drops_of_reconcileIn isOrder hd hanswer]
    exact Channels.builds_ne_nil_iff.2 hfirst

end Cache

/-! ## Whole histories -/

namespace Custody

variable {f : ChannelFactory} {events : List Event} {handle : Handle}

theorem known_run (f : ChannelFactory) (events : List Event) : (run f events).cache.Known := by
  induction events using List.reverseRecOn with
  | nil => exact Cache.known_new f
  | append_singleton events event ih =>
    rw [run_append, List.foldl_cons, List.foldl_nil]
    cases event with
    | operate op inRuntime =>
      rw [cache_operate]
      exact ih.perform (owns_run f events).keyed op
    | work task => rwa [cache_work]

/-- What gets lost when something happens. -/
def drops (s : Custody) : Event → List Handle
  | .operate op _ => s.cache.drops op
  | .work _ => []

/-- **An event adds what it drops to what is lost.** -/
theorem stranded_run_append (f : ChannelFactory) (events : List Event) (event : Event) :
    (run f (events ++ [event])).cache.stranded
      = (run f events).cache.stranded ++ (run f events).drops event := by
  have hknown := known_run f events
  rw [run_append, List.foldl_cons, List.foldl_nil]
  cases event with
  | operate op inRuntime =>
    rw [cache_operate]
    have hkeyed := (owns_run f events).keyed
    exact Cache.stranded_of_parts hknown (hknown.perform hkeyed op) (Cache.parts_perform hkeyed op)
  | work task => rw [cache_work, drops, List.append_nil]

/-- What is lost stays so. -/
theorem mem_stranded_run (h : handle ∈ (run f events).cache.stranded) (more : List Event) :
    handle ∈ (run f (events ++ more)).cache.stranded := by
  induction more using List.reverseRecOn with
  | nil => rwa [List.append_nil]
  | append_singleton more event ih =>
    rw [← List.append_assoc, stranded_run_append]
    exact List.mem_append_left _ ih

/-- Nothing is lost if nothing was dropped. -/
theorem stranded_run_eq_nil_iff : (run f events).cache.stranded = []
    ↔ ∀ earlier event later, events = earlier ++ event :: later →
      (run f earlier).drops event = [] := by
  constructor
  · rintro h earlier event later rfl
    -- what was dropped would still be lost
    refine List.eq_nil_iff_forall_not_mem.2 fun handle hmem => ?_
    have hdropped : handle ∈ (run f (earlier ++ [event])).cache.stranded :=
      stranded_run_append f earlier event ▸ List.mem_append_right _ hmem
    have hlost := mem_stranded_run hdropped later
    rw [List.append_assoc, List.singleton_append, h] at hlost
    cases hlost
  · intro h
    induction events using List.reverseRecOn with
    | nil => rfl
    | append_singleton events event ih =>
      rw [stranded_run_append, h events event [] rfl, List.append_nil]
      refine ih fun earlier event' later heq => h earlier event' (later ++ [event]) ?_
      rw [heq, List.append_assoc, List.cons_append]

/-- **Every connection that was made** is cached, or it was handed over, or it is lost. -/
theorem made_perm (f : ChannelFactory) (events : List Event) :
    (run f events).cache.channels.made.Perm
      ((run f events).cache.custody ++ (run f events).cache.stranded) := by
  have hknown := known_run f events
  have hcustody :
      ((run f events).cache.channels.made.filter (· ∈ (run f events).cache.custody)).Perm
        (run f events).cache.custody := by
    refine (List.perm_ext_iff_of_nodup (hknown.sound.nodup.of_map.filter _)
      (nodup_custody f events)).2 ?_
    intro handle
    rw [List.mem_filter, decide_eq_true_iff]
    exact ⟨And.right, fun hmem => ⟨hknown.made handle hmem, hmem⟩⟩
  have hparts := List.filter_append_perm (· ∈ (run f events).cache.custody)
    (run f events).cache.channels.made
  refine hparts.symm.trans (hcustody.append ?_)
  simp [Cache.stranded]

/-! ## What is passed on to be disposed of -/

/-- The connections that a task passes on to be disposed of. -/
def passes (s : Custody) : Event → List Handle
  | .operate .. => []
  | .work task => (s.tasks[task]?.getD []).take 1

/-- The connections that the tasks pass on while some events happen. -/
def disposals (s : Custody) : List Event → List Handle
  | [] => []
  | event :: events => s.passes event ++ (s.step event).disposals events

theorem closed_step (s : Custody) {event : Event} (h : ∀ op, event ≠ .operate op false) :
    (s.step event).closed = s.closed ++ s.passes event := by
  cases event with
  | operate op inRuntime =>
    cases inRuntime with
    | false => exact absurd rfl (h op)
    | true =>
      simp only [step, handOver, passes, List.append_nil]
      split <;> rfl
  | work task =>
    simp only [step, passes]
    split
    · rename_i htask
      rw [htask]
      rfl
    · rename_i hnone
      cases htask : s.tasks[task]? with
      | none => exact (List.append_nil _).symm
      | some work =>
        cases work with
        | nil => exact (List.append_nil _).symm
        | cons handle rest => exact absurd htask (hnone handle rest)

/-- **Inside a runtime** a connection is closed by being passed on to be disposed of. -/
theorem closed_foldl (s : Custody) {events : List Event}
    (h : ∀ op, .operate op false ∉ events) :
    (events.foldl step s).closed = s.closed ++ s.disposals events := by
  induction events generalizing s with
  | nil => exact (List.append_nil _).symm
  | cons event events ih =>
    rw [List.foldl_cons, ih _ fun op hmem => h op (List.mem_cons_of_mem _ hmem),
      closed_step s fun op heq => h op (heq ▸ List.mem_cons_self ..), disposals,
      List.append_assoc]

/-! ## Where every connection is -/

/-- **Where the connections are** that a cache has made in the course of some events, and what
becomes of those that it loses. -/
structure KeptOrDropped (f : ChannelFactory) (events : List Event) : Prop where
  nodup : (run f events).cache.channels.made.Nodup
  /-- A connection is cached, or it was handed over, or it is lost, and only one of these. -/
  made_perm : (run f events).cache.channels.made.Perm
    ((run f events).cache.handles ++ (run f events).cache.released ++ (run f events).cache.stranded)
  /-- Once the tasks have done their work, what was handed over is closed, each connection once. -/
  closed_perm : (run f events).Settled → (run f events).closed.Perm (run f events).cache.released
  /-- Inside a runtime it is closed by the tasks, which pass it on to be disposed of. -/
  closed_eq : (∀ op, .operate op false ∉ events) →
    (run f events).closed = disposals { cache := .new f } events
  /-- An operation adds what it drops to what is lost, and the work of the tasks adds nothing. -/
  stranded_eq : ∀ event, (run f (events ++ [event])).cache.stranded
    = (run f events).cache.stranded ++ (run f events).drops event
  /-- A reconciliation that is refused a connection drops all that it has made by then. -/
  drops_eq : ∀ wanted order isOrder inRuntime error c',
    (run f events).cache.isDisposed = false →
    (run f events).cache.reconcileIn order = (.error error, c') →
      (run f events).drops (.operate (.reconcile wanted order isOrder) inRuntime)
        = (run f events).cache.channels.builds ((run f events).cache.uncached order)
  /-- No other operation drops any. -/
  drops_ne_nil_iff : ∀ op inRuntime,
    (run f events).drops (.operate op inRuntime) ≠ [] ↔ (run f events).cache.FailsHalfway op
  /-- What is lost is never cached, handed over, closed or handed out, whatever happens then. -/
  lost : ∀ handle ∈ (run f events).cache.stranded, ∀ more,
    handle ∉ (run f (events ++ more)).cache.handles
      ∧ handle ∉ (run f (events ++ more)).cache.released
      ∧ handle ∉ (run f (events ++ more)).closed
      ∧ ∀ op, ¬((run f (events ++ more)).cache.perform op).1.Gives handle
  /-- Nothing is lost if no reconciliation has failed halfway. -/
  nothing_lost_iff : (run f events).cache.stranded = []
    ↔ ∀ earlier op inRuntime later, events = earlier ++ .operate op inRuntime :: later →
      ¬(run f earlier).cache.FailsHalfway op
  /-- Then, and only then, every connection is cached or closed once the tasks have done their
  work. -/
  accounted_iff : (run f events).Settled →
    ((∀ handle ∈ (run f events).cache.channels.made,
      (run f events).cache.handles.count handle + (run f events).closed.count handle = 1)
        ↔ (run f events).cache.stranded = [])

/-- **A connection is kept until it is passed on to be disposed of**, unless it was made by a
reconciliation that failed halfway. -/
theorem connections_kept_or_dropped (f : ChannelFactory) (events : List Event) :
    KeptOrDropped f events where
  nodup := (known_run f events).sound.nodup.of_map
  made_perm := made_perm f events
  closed_perm := closed_perm
  closed_eq := fun h => closed_foldl _ h
  stranded_eq := stranded_run_append f events
  drops_eq := fun _ _ isOrder _ _ _ hd h => Cache.drops_of_reconcileIn isOrder hd h
  drops_ne_nil_iff := fun _ _ => Cache.drops_ne_nil_iff
  lost := fun handle hlost more => by
    have hnot := fun more => (Cache.mem_stranded.1 (mem_stranded_run hlost more)).2
    have hcustody := not_or.1 (mt List.mem_append.2 (hnot more))
    refine ⟨hcustody.1, hcustody.2, fun hclosed => hcustody.2 ?_, fun op hgives => ?_⟩
    · exact (accounted_run f (events ++ more)).mem_iff.1 (List.mem_append_left _ hclosed)
    · -- what is handed out is cached afterwards
      refine hnot (more ++ [.operate op true]) (List.mem_append_left _ ?_)
      rw [← List.append_assoc, run_append, List.foldl_cons, List.foldl_nil, cache_operate]
      exact Cache.mem_handles_of_gives hgives
  nothing_lost_iff := by
    rw [stranded_run_eq_nil_iff]
    constructor
    · intro h earlier op inRuntime later heq hhalf
      exact Cache.drops_ne_nil_iff.2 hhalf (h earlier (.operate op inRuntime) later heq)
    · intro h earlier event later heq
      cases event with
      | operate op inRuntime =>
        exact not_not.1 fun hne => h earlier op inRuntime later heq (Cache.drops_ne_nil_iff.1 hne)
      | work task => rfl
  accounted_iff := fun hsettled => by
    have hcount : ∀ handle, (run f events).cache.channels.made.count handle
        = (run f events).cache.handles.count handle + (run f events).closed.count handle
          + (run f events).cache.stranded.count handle := fun handle => by
      rw [(made_perm f events).count_eq, Cache.custody, List.count_append, List.count_append,
        (closed_perm hsettled).count_eq]
    constructor
    · intro h
      refine List.eq_nil_iff_forall_not_mem.2 fun handle hlost => ?_
      have hmade := (Cache.mem_stranded.1 hlost).1
      have hone := hcount handle
      rw [h handle hmade, List.Nodup.count (known_run f events).sound.nodup.of_map,
        if_pos hmade] at hone
      have := List.count_pos_iff.2 hlost
      omega
    · intro h handle hmade
      have hone := hcount handle
      rw [h, List.count_nil, List.Nodup.count (known_run f events).sound.nodup.of_map,
        if_pos hmade] at hone
      omega

/-- A node for which a connection can be made and one for which none can are wanted: the connection
that is made first is lost. -/
theorem dropped_of_refused_node :
    let s := run (.refusing ["bad"])
      [.operate (.reconcile [⟨"a", 1⟩, ⟨"bad", 1⟩] [⟨"a", 1⟩, ⟨"bad", 1⟩]
        (by decide)) true]
    s.cache.channels.made = [⟨0, ⟨"a", 1⟩, false⟩] ∧ s.cache.handles = [] ∧ s.tasks = []
      ∧ s.closed = [] := by
  decide

end Custody

end ClusterLink
