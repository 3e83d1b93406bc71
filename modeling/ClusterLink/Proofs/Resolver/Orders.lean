import ClusterLink.Proofs.Resolver.Search
import Mathlib.Data.Nat.Find

/-!
# The order of the questions

Suppose that what a node replies depends on nothing but how often that node was asked before
(`Surroundings.Follows`). An attempt in which nobody answers well asks all of its nodes, so that
afterwards each node has been asked equally often, whatever the order was. Hence two resolutions
that start alike and arrange their questions differently come to the same end (`resolutions_agree`):
both find a member table, in the same attempt, or both fail, with the same complaints in another
order. Which table they find may depend on the order, unless there is only one.
-/

namespace ClusterLink

/-! ## Nodes with replies of their own -/

/-- **What the nodes reply**, each by how often it was asked before. -/
abbrev ReplyQueues : Type :=
  List Char × UInt16 → Nat → Option (Duration × Except Error (List Member))

/-- How often a node was asked. -/
def timesAsked (before : List Contact) (c : Contact) : Nat :=
  (before.map (·.1.key)).count c.1.key

theorem timesAsked_append (before after : List Contact) (c : Contact) :
    timesAsked (before ++ after) c = timesAsked before c + timesAsked after c := by
  rw [timesAsked, List.map_append, List.count_append]
  rfl

theorem timesAsked_of_perm {before before' : List Contact} (h : before.Perm before')
    (c : Contact) : timesAsked before c = timesAsked before' c :=
  (h.map _).count_eq _

/-- A node that is not among those asked was not asked. -/
theorem timesAsked_singleton_of_ne {c c' : Contact} (h : c.1.key ≠ c'.1.key) :
    timesAsked [c] c' = 0 := by
  rw [timesAsked, List.map_singleton, List.count_singleton, if_neg (by simpa using h)]

/-- **All nodes of the table are alike**: whoever reports members reports these. -/
def ReplyQueues.ReportOnly (queues : ReplyQueues) (table : List Member) : Prop :=
  ∀ node times delay members, queues node times = some (delay, .ok members) → members ≠ [] →
    members = table

/-- A table comes from a reply that was received in time. -/
theorem GossipOutcome.of_ofReply_eq_success {reply : Option (Except Error (List Member))}
    {members : List Member} (h : ofReply reply = .success members) :
    members ≠ [] ∧ reply = some (.ok members) := by
  cases reply with
  | none => cases h
  | some answer =>
    rw [ofReply, ofAnswer.eq_def] at h
    split at h
    · cases h
    · rename_i hne
      cases h
      exact ⟨hne, rfl⟩
    all_goals cases h

theorem Inquiry.reply_of_finalReply? {α : Type} {q : Inquiry α} {answer : α}
    (h : q.finalReply? = some answer) : ∃ comesAt, q.reply = some (comesAt, answer) := by
  obtain ⟨⟨comesAt, a⟩, hreply, hin⟩ := Option.bind_eq_some_iff.1 h
  obtain ⟨-, hanswer⟩ := Option.ite_none_right_eq_some.1 hin
  cases hanswer
  exact ⟨comesAt, hreply⟩

namespace Surroundings

/-- **Every node replies as its queue says.** -/
def Follows (e : Surroundings) (queues : ReplyQueues) : Prop :=
  ∀ before c, e.reply before c = queues c.1.key (timesAsked before c)

variable {e e' : Surroundings} {queues : ReplyQueues} {timeout : Duration}

/-- **A question comes to the same** if its node was asked equally often before. -/
theorem Follows.question_eq (h : e.Follows queues) (h' : e'.Follows queues)
    {before before' : List Contact} {c : Contact}
    (htimes : timesAsked before c = timesAsked before' c) :
    e.question timeout before c = e'.question timeout before' c := by
  rw [question, question, inquiry, inquiry, h before c, h' before' c, htimes]

/-- A table that is found was reported. -/
theorem Follows.exists_reply_of_found (h : e.Follows queues) {before : List Contact} {c : Contact}
    {source : EndPoint} {members : List Member}
    (hfound : (e.question timeout before c).found? = some (source, members)) :
    members ≠ [] ∧ ∃ times delay, queues c.1.key times = some (delay, .ok members) := by
  obtain ⟨-, houtcome⟩ := Question.outcome_of_found? hfound
  rw [question, Inquiry.poll_endsAt] at houtcome
  obtain ⟨hne, hfinal⟩ := GossipOutcome.of_ofReply_eq_success houtcome
  obtain ⟨comesAt, hreply⟩ := Inquiry.reply_of_finalReply? hfinal
  rw [inquiry, h before c] at hreply
  obtain ⟨⟨delay, answer⟩, hqueued, heq⟩ := Option.map_eq_some_iff.1 hreply
  cases heq
  exact ⟨hne, _, delay, hqueued⟩

/-! ## One attempt -/

/-- **The questions of an attempt do not depend on one another**: each comes to what it would have
come to as the first one. -/
theorem Follows.inquire (h : e.Follows queues) {start before left : List Contact}
    (hnodup : (left.map (·.1.key)).Nodup)
    (htimes : ∀ c ∈ left, timesAsked before c = timesAsked start c) :
    (e.inquire timeout before left).findSome? Question.found?
        = (left.map (e.question timeout start)).findSome? Question.found?
      ∧ ((e.inquire timeout before left).findSome? Question.found? = none →
        e.inquire timeout before left = left.map (e.question timeout start)) := by
  induction left generalizing before with
  | nil => exact ⟨rfl, fun _ => rfl⟩
  | cons c left ih =>
    have hfirst : e.question timeout before c = e.question timeout start c :=
      h.question_eq h (htimes c (List.mem_cons_self ..))
    obtain ⟨hnew, hrest⟩ := List.nodup_cons.1 hnodup
    -- the nodes that are left are others, and were not asked by asking this one
    have hrestTimes : ∀ c' ∈ left, timesAsked (before ++ [c]) c' = timesAsked start c' := by
      intro c' hc'
      have hne : c.1.key ≠ c'.1.key := fun heq =>
        hnew (List.mem_map.2 ⟨c', hc', heq.symm⟩)
      rw [timesAsked_append, timesAsked_singleton_of_ne hne, Nat.add_zero]
      exact htimes c' (List.mem_cons_of_mem _ hc')
    obtain ⟨ihfound, ihall⟩ := ih hrest hrestTimes
    cases hq : (e.question timeout before c).found? with
    | some found =>
      rw [inquire_of_found hq, List.findSome?_singleton, List.map_cons, List.findSome?_cons,
        ← hfirst, hq]
      exact ⟨rfl, nofun⟩
    | none =>
      rw [inquire_of_none hq, List.findSome?_cons, List.map_cons, List.findSome?_cons,
        ← hfirst, hq]
      exact ⟨ihfound, fun hnone => by rw [ihall hnone]⟩

end Surroundings

/-! ## Attempt after attempt -/

namespace Search

/-- **Two searches that differ in the order of their questions**, as far as the answers go. -/
structure Rearranges (queues : ReplyQueues) (x y : Search) : Prop where
  follows : x.surroundings.Follows queues
  follows' : y.surroundings.Follows queues
  timeout_eq : x.settings.gossipTimeout = y.settings.gossipTimeout
  nodup : ∀ attempt, ((x.contacts attempt).map (·.1.key)).Nodup
  perm : ∀ attempt, (x.contacts attempt).Perm (y.contacts attempt)

variable {queues : ReplyQueues} {x y : Search} {attempts : Nat}

/-- What each question of an attempt comes to, if it is asked first. -/
def replies (x : Search) (attempts : Nat) (c : Contact) : Question :=
  x.surroundings.question x.settings.gossipTimeout (Deed.contacts (x.deeds attempts)) c

namespace Rearranges

theorem symm (h : Rearranges queues x y) : Rearranges queues y x where
  follows := h.follows'
  follows' := h.follows
  timeout_eq := h.timeout_eq.symm
  nodup := fun attempt => ((h.perm attempt).map _).nodup_iff.1 (h.nodup attempt)
  perm := fun attempt => (h.perm attempt).symm

/-- The questions of an attempt come to what each would have come to as the first one. -/
theorem found?_eq (h : Rearranges queues x y) (attempts : Nat) :
    x.found? (attempts + 1)
        = ((x.contacts (attempts + 1)).map (x.replies attempts)).findSome? Question.found?
      ∧ (x.found? (attempts + 1) = none → x.questions (attempts + 1)
        = (x.contacts (attempts + 1)).map (x.replies attempts)) :=
  h.follows.inquire (h.nodup _) fun _ _ => rfl

/-- After attempts in which nobody answered well, every node was asked equally often. -/
theorem contacts_deeds_perm (h : Rearranges queues x y)
    (hnone : ∀ k, k < attempts → x.found? (k + 1) = none ∧ y.found? (k + 1) = none) :
    (Deed.contacts (x.deeds attempts)).Perm (Deed.contacts (y.deeds attempts)) := by
  have hcontacts : ∀ {z : Search} {k : Nat}, z.found? (k + 1) = none →
      Deed.contacts (z.deeds (k + 1)) = Deed.contacts (z.deeds k) ++ z.contacts (k + 1) := by
    intro z k hz
    have hasked : (z.questions (k + 1)).map (·.contact) = z.contacts (k + 1) :=
      (z.surroundings.contacts_inquire _ _ _).2 hz
    have hlast : Deed.contacts ((z.questions (k + 1)).map .ask) = z.contacts (k + 1) := by
      rw [← hasked, Deed.contacts, List.filterMap_map]
      exact congrFun List.filterMap_eq_map _
    calc Deed.contacts (z.deeds (k + 1))
        = Deed.contacts (z.deeds k ++ z.pause (k + 1))
          ++ Deed.contacts ((z.questions (k + 1)).map .ask) := List.filterMap_append
      _ = Deed.contacts (z.deeds k) ++ z.contacts (k + 1) := by rw [z.contacts_pause, hlast]
  induction attempts with
  | zero => exact .refl _
  | succ attempts ih =>
    obtain ⟨hx, hy⟩ := hnone attempts (Nat.lt_succ_self attempts)
    rw [hcontacts hx, hcontacts hy]
    exact (ih fun k hk => hnone k (Nat.lt_succ_of_lt hk)).append (h.perm _)

/-- **Each question then comes to the same** in both searches. -/
theorem replies_eq (h : Rearranges queues x y)
    (hnone : ∀ k, k < attempts → x.found? (k + 1) = none ∧ y.found? (k + 1) = none) :
    x.replies attempts = y.replies attempts := by
  funext c
  rw [replies, replies, h.timeout_eq]
  exact h.follows.question_eq h.follows' (timesAsked_of_perm (h.contacts_deeds_perm hnone) c)

/-- The same questions are asked in the next attempt, if nobody answers well. -/
theorem found?_eq_none (h : Rearranges queues x y)
    (hnone : ∀ k, k < attempts → x.found? (k + 1) = none ∧ y.found? (k + 1) = none)
    (hx : x.found? (attempts + 1) = none) : y.found? (attempts + 1) = none := by
  rw [(h.found?_eq attempts).1, h.replies_eq hnone, List.findSome?_eq_none_iff] at hx
  rw [(h.symm.found?_eq attempts).1, List.findSome?_eq_none_iff]
  exact fun q hq => hx q (((h.perm _).map _).mem_iff.2 hq)

/-- **Both searches find nothing in the same attempts.** -/
theorem none_of_none (h : Rearranges queues x y)
    (hx : ∀ k, k < attempts → x.found? (k + 1) = none) :
    ∀ k, k < attempts → x.found? (k + 1) = none ∧ y.found? (k + 1) = none := by
  induction attempts with
  | zero => exact fun k hk => absurd hk (Nat.not_lt_zero k)
  | succ attempts ih =>
    have hbefore := ih fun k hk => hx k (Nat.lt_succ_of_lt hk)
    intro k hk
    rcases Nat.lt_succ_iff_lt_or_eq.1 hk with hk | rfl
    · exact hbefore k hk
    · have hlast := hx k (Nat.lt_succ_self k)
      exact ⟨hlast, h.found?_eq_none hbefore hlast⟩

/-- **The questions come to the same** in an attempt in which nobody answers well. -/
theorem perm_questions (h : Rearranges queues x y)
    (hx : ∀ k, k < attempts + 1 → x.found? (k + 1) = none) :
    (x.questions (attempts + 1)).Perm (y.questions (attempts + 1)) := by
  have hnone := h.none_of_none hx
  obtain ⟨hlast, hlast'⟩ := hnone attempts (Nat.lt_succ_self attempts)
  rw [(h.found?_eq attempts).2 hlast, (h.symm.found?_eq attempts).2 hlast',
    h.replies_eq fun k hk => hnone k (Nat.lt_succ_of_lt hk)]
  exact (h.perm _).map _

/-- Where there is only one table, that is what is found. -/
theorem eq_of_reportOnly (h : Rearranges queues x y) {table members : List Member}
    {source : EndPoint} (honly : queues.ReportOnly table)
    (hx : x.found? (attempts + 1) = some (source, members)) : members = table := by
  rw [(h.found?_eq attempts).1, List.findSome?_map] at hx
  obtain ⟨c, -, hc⟩ := List.exists_of_findSome?_eq_some hx
  obtain ⟨hne, times, delay, hreply⟩ := h.follows.exists_reply_of_found hc
  exact honly _ times delay members hreply hne

end Rearranges

end Search

/-! ## The resolutions -/

/-- **Two resolutions have come to the same end.** -/
inductive Solo.Concord (queues : ReplyQueues) (seeds : List EndPoint) (maxAttempts id : Nat)
    (z z' : Solo) : Prop where
  /-- Both have found a member table, in the same attempt. -/
  | found (resolution resolution' : Resolution)
      (h : z.discovery.resolver.result? id = some (.ok resolution))
      (h' : z'.discovery.resolver.result? id = some (.ok resolution'))
      (hattempts : resolution.attempts = resolution'.attempts)
      (hsame : ∀ table, queues.ReportOnly table → resolution.members = resolution'.members
        ∧ z.discovery.cache.keys.Perm z'.discovery.cache.keys)
  /-- Both have failed, after the same questions at last, and complain of what came of them. They
  have left the seeds in the cache. -/
  | failed (questions questions' : List Question)
      (h : z.discovery.resolver.result? id
        = some (.error (Resolver.exhausted maxAttempts (questions.map Question.complaint))))
      (h' : z'.discovery.resolver.result? id
        = some (.error (Resolver.exhausted maxAttempts (questions'.map Question.complaint))))
      (hlast : questions.map .ask <:+ z.deeds) (hlast' : questions'.map .ask <:+ z'.deeds)
      (hperm : questions.Perm questions')
      (hseeds : z.discovery.cache.keys.Perm (EndPoint.keys (EndPoint.distinct seeds)))
      (hseeds' : z'.discovery.cache.keys.Perm (EndPoint.keys (EndPoint.distinct seeds)))

section

variable {e e' : Surroundings} {queues : ReplyQueues} {d : Discovery} {id : Nat}
  {now now' : Instant}

/-- The order of the questions is all that the searches differ in. -/
theorem Discovery.rearranges (he : e.Follows queues) (he' : e'.Follows queues)
    (hcache : d.cache.Ready) : Search.Rearranges queues (d.search e) (d.search e') where
  follows := he
  follows' := he'
  timeout_eq := rfl
  nodup := fun attempt => (d.perm_contacts e hcache attempt).1
  perm := fun attempt => (e.perm_arrange attempt _).trans (e'.perm_arrange attempt _).symm

variable (hstarted : d.resolver.tasks[id]? = some { backoff := .start d.resolver.settings.backoff })
  (hcache : d.cache.Ready)
  (hlive : ∀ n, (Solo.run e id d now n).discovery.resolver.isCancelled id = false)

include hstarted hcache hlive

/-- **A resolution that finds a table** keeps its members cached. -/
theorem Solo.exists_found {attempts : Nat} {source : EndPoint} {members : List Member}
    (hle : attempts + 1 ≤ d.resolver.settings.maxAttempts)
    (hnone : ∀ k, k < attempts → (d.search e).found? (k + 1) = none)
    (hfound : (d.search e).found? (attempts + 1) = some (source, members)) :
    ∃ n, ∀ m, n ≤ m →
      (Solo.run e id d now m).discovery.resolver.result? id
          = some (.ok ⟨members, source, attempts + 1,
            Duration.between now (now + Deed.total ((d.search e).deeds (attempts + 1)))⟩)
        ∧ (Solo.run e id d now m).discovery.cache.keys.Perm
          (EndPoint.keys (EndPoint.distinct (members.map (·.endpoint)))) := by
  obtain ⟨cache, hreaches, hready, -⟩ :=
    (d.search e).exists_beginning now d.resolver.log hcache rfl hle hnone
  obtain ⟨n, hn⟩ := Solo.shows_of_reaches hstarted hcache hlive
    (hreaches.trans ((d.search e).reaches_ended_of_found hfound))
  obtain ⟨cache', hcache', -, hkeys⟩ :=
    hready.reconcile (EndPoint.distinct (members.map (·.endpoint)))
  refine ⟨n, fun m hm => ⟨?_, ?_⟩⟩
  · rw [Resolver.result?, (hn m hm).holds.phase?_eq]
    rfl
  · rw [(hn m hm).cache_eq]
    show (cache.reconcile _).2.keys.Perm _
    rw [hcache']
    rwa [EndPoint.distinct_distinct] at hkeys

/-- **A resolution that finds none** fails, and keeps the seeds cached. -/
theorem Solo.exists_failed {attempts : Nat}
    (hlast : d.resolver.settings.maxAttempts = attempts + 1)
    (hnone : ∀ k, k < attempts + 1 → (d.search e).found? (k + 1) = none) :
    ∃ n, ∀ m, n ≤ m →
      (Solo.run e id d now m).discovery.resolver.result? id
          = some (.error (Resolver.exhausted (attempts + 1)
            (((d.search e).questions (attempts + 1)).map Question.complaint)))
        ∧ ((d.search e).questions (attempts + 1)).map .ask <:+ (Solo.run e id d now m).deeds
        ∧ (Solo.run e id d now m).discovery.cache.keys.Perm
          (EndPoint.keys (EndPoint.distinct d.resolver.seeds)) := by
  obtain ⟨cache, hreaches, hready, -⟩ :=
    (d.search e).exists_beginning now d.resolver.log hcache rfl
      (Nat.le_of_eq hlast.symm) fun k hk => hnone k (Nat.lt_succ_of_lt hk)
  obtain ⟨n, hn⟩ := Solo.shows_of_reaches hstarted hcache hlive (hreaches.trans
    ((d.search e).reaches_ended_of_none (hnone attempts (Nat.lt_succ_self attempts)) hlast))
  obtain ⟨cache', hcache', -, hkeys⟩ := hready.reconcile d.resolver.seeds
  refine ⟨n, fun m hm => ⟨?_, ?_, ?_⟩⟩
  · rw [Resolver.result?, (hn m hm).holds.phase?_eq, Search.exhausted_eq]
    rfl
  · rw [(hn m hm).deeds_eq]
    exact List.suffix_append _ _
  · rw [(hn m hm).cache_eq]
    show (cache.reconcile _).2.keys.Perm _
    rw [hcache']
    exact hkeys

end

/-- **Resolutions agree, whatever the order of their questions.** Two resolutions start with the
same cache, and every node replies as its queue says. Nobody cancels them, and nobody else uses the
cache. Then from some step on either both have found a member table, in the same attempt, or both
have failed: they complain of the same questions in some order, and have left exactly the seeds
cached. If all tables that are reported are the same, they find the same members and leave the same
endpoints cached. -/
theorem resolutions_agree (e e' : Surroundings) (queues : ReplyQueues) (he : e.Follows queues)
    (he' : e'.Follows queues) (d : Discovery) (id : Nat) (now now' : Instant)
    (hstarted : d.resolver.tasks[id]? = some { backoff := .start d.resolver.settings.backoff })
    (hmax : 1 ≤ d.resolver.settings.maxAttempts) (hcache : d.cache.Ready)
    (hlive : ∀ n, (Solo.run e id d now n).discovery.resolver.isCancelled id = false)
    (hlive' : ∀ n, (Solo.run e' id d now' n).discovery.resolver.isCancelled id = false) :
    ∃ n, ∀ m, n ≤ m →
      Solo.Concord queues d.resolver.seeds d.resolver.settings.maxAttempts id
        (Solo.run e id d now m) (Solo.run e' id d now' m) := by
  have hsearch := Discovery.rearranges (d := d) he he' hcache
  obtain ⟨last, hlast⟩ := Nat.exists_eq_add_of_le' hmax
  by_cases hsome : ∃ k, k < last + 1 ∧ ((d.search e).found? (k + 1)).isSome = true
  · -- the first attempt in which the one finds a table is the first one for the other
    obtain ⟨hle, hfound⟩ := Nat.find_spec hsome
    generalize hattempts : Nat.find hsome = attempts at hle hfound
    have hnone : ∀ k, k < attempts → (d.search e).found? (k + 1) = none := fun k hk =>
      Option.not_isSome_iff_eq_none.1 fun hk' =>
        Nat.find_min hsome (hattempts ▸ hk) ⟨Nat.lt_trans hk hle, hk'⟩
    have hboth := hsearch.none_of_none hnone
    have hfound' : ((d.search e').found? (attempts + 1)).isSome = true :=
      Option.isSome_iff_ne_none.2 fun hnone' => Option.isSome_iff_ne_none.1 hfound
        (hsearch.symm.found?_eq_none (fun k hk => (hboth k hk).symm) hnone')
    obtain ⟨⟨source, members⟩, hsource⟩ := Option.isSome_iff_exists.1 hfound
    obtain ⟨⟨source', members'⟩, hsource'⟩ := Option.isSome_iff_exists.1 hfound'
    obtain ⟨n, hn⟩ := Solo.exists_found hstarted hcache hlive (by omega) hnone hsource
    obtain ⟨n', hn'⟩ :=
      Solo.exists_found hstarted hcache hlive' (by omega) (fun k hk => (hboth k hk).2) hsource'
    refine ⟨max n n', fun m hm => ?_⟩
    obtain ⟨hresult, hkeys⟩ := hn m (Nat.max_le.1 hm).1
    obtain ⟨hresult', hkeys'⟩ := hn' m (Nat.max_le.1 hm).2
    refine .found _ _ hresult hresult' rfl fun table honly => ?_
    cases hsearch.eq_of_reportOnly honly hsource
    cases hsearch.symm.eq_of_reportOnly honly hsource'
    exact ⟨rfl, hkeys.trans hkeys'.symm⟩
  · have hall : ∀ k, k < last + 1 → (d.search e).found? (k + 1) = none := fun k hk =>
      Option.not_isSome_iff_eq_none.1 fun hk' => hsome ⟨k, hk, hk'⟩
    have hnone := hsearch.none_of_none hall
    obtain ⟨n, hn⟩ := Solo.exists_failed hstarted hcache hlive hlast hall
    obtain ⟨n', hn'⟩ := Solo.exists_failed hstarted hcache hlive' hlast fun k hk =>
      (hnone k hk).2
    refine ⟨max n n', fun m hm => ?_⟩
    obtain ⟨hresult, hasked, hkeys⟩ := hn m (Nat.max_le.1 hm).1
    obtain ⟨hresult', hasked', hkeys'⟩ := hn' m (Nat.max_le.1 hm).2
    rw [hlast]
    exact .failed _ _ hresult hresult' hasked hasked' (hsearch.perm_questions hall) hkeys hkeys'

/-- Every node replies to the second question it is asked, with itself as the only member. -/
def replyingLate : ReplyQueues := fun node times =>
  if times = 0 then none
  else some (Duration.ofMillis 20,
    .ok [⟨"1", ⟨String.ofList node.1, node.2⟩, .leader, true⟩])

/-- The nodes are asked in the order in which they are cached, or the other way round. -/
def askingInTurn (reversed : Bool) : Surroundings where
  arrange := fun _ contacts => if reversed then contacts.reverse else contacts
  perm_arrange := fun _ contacts => by
    cases reversed
    · exact .refl contacts
    · exact contacts.reverse_perm
  reply := fun before c => replyingLate c.1.key (timesAsked before c)
  draw := fun _ => 0.5
  callers := fun _ => []
  ofCallers := fun _ _ => nofun

/-- Two nodes are asked in both orders. Each search finds the table of the node that it asks first,
in the second attempt. -/
theorem resolutions_agree_of_reversed :
    ((askingInTurn false).Follows replyingLate ∧ (askingInTurn true).Follows replyingLate
        ∧ 1 ≤ twoNodes.resolver.settings.maxAttempts ∧ twoNodes.cache.Ready)
      ∧ (twoNodes.search (askingInTurn false)).found? 2
        = some (⟨"a", 1⟩, [⟨"1", ⟨"a", 1⟩, .leader, true⟩])
      ∧ (twoNodes.search (askingInTurn true)).found? 2
        = some (⟨"b", 2⟩, [⟨"1", ⟨"b", 2⟩, .leader, true⟩])
      ∧ ∃ n, ∀ m, n ≤ m → Solo.Concord replyingLate twoNodes.resolver.seeds
        twoNodes.resolver.settings.maxAttempts 0 (Solo.run (askingInTurn false) 0 twoNodes 7 m)
        (Solo.run (askingInTurn true) 0 twoNodes 7 m) := by
  have hcache : twoNodes.cache.Ready := by
    obtain ⟨c', hc', hready, -⟩ := Cache.Ready.reconcile (c := {})
      ⟨rfl, List.nodup_nil, fun _ _ => rfl⟩ [⟨"a", 1⟩, ⟨"b", 2⟩]
    rw [twoNodes, hc']
    exact hready
  -- both resolutions have ended after nine steps, and nobody calls them off before
  have hlive : ∀ reversed n, (Solo.run (askingInTurn reversed) 0 twoNodes 7
      n).discovery.resolver.isCancelled 0 = false := by
    intro reversed n
    have hended : ∃ result, (Solo.run (askingInTurn reversed) 0 twoNodes 7
        9).discovery.resolver.phase? 0 = some (.ended result) := by
      cases reversed <;> exact ⟨_, rfl⟩
    obtain ⟨result, hended⟩ := hended
    rcases Nat.lt_or_ge n 9 with hn | hn
    · have hall : ∀ k : Fin 9, (Solo.run (askingInTurn reversed) 0 twoNodes 7
          k).discovery.resolver.isCancelled 0 = false := by
        cases reversed <;> decide
      exact hall ⟨n, hn⟩
    · rw [Solo.discovery_run_of_ended hended (fun _ _ => rfl) hn]
      cases reversed <;> rfl
  exact ⟨⟨fun _ _ => rfl, fun _ _ => rfl, by decide, hcache⟩, rfl, rfl,
    resolutions_agree (askingInTurn false) (askingInTurn true) replyingLate (fun _ _ => rfl)
      (fun _ _ => rfl) twoNodes 0 7 7 (Resolver.tasks_join rfl) (by decide) hcache (hlive false)
      (hlive true)⟩

end ClusterLink
