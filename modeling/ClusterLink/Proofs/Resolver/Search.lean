import ClusterLink.Proofs.Resolver.Solitude

/-!
# What a resolution finds

A `Search` says what a resolution ought to do, without its phases: an attempt asks its nodes in turn
until one of them answers well (`Surroundings.inquire`), the first attempt asks the nodes that are
cached and the others the seeds, and between two attempts there is one delay (`Search.deeds`). A
resolution on its own, once it has been started, does that and reports that
(`resolution_follows_search`).
-/

namespace ClusterLink

/-! ## One attempt -/

namespace Question

/-- The member table that a node reports, and that node. -/
def found? (q : Question) : Option (EndPoint × List Member) :=
  match q.outcome with
  | .success members => some (q.contact.1, members)
  | _ => none

/-- What is said about a node that did not answer well. -/
def complaint (q : Question) : String :=
  q.contact.1.display ++ ": " ++
    match q.outcome with
    | .success _ => ""
    | .timeout => "timed out"
    | .empty => "empty member table"
    | .failed error => error.message

theorem complaint_eq (q : Question) :
    q.complaint = Resolver.complaint q.contact.1 q.outcome := by
  rw [complaint, Resolver.complaint]
  cases q.outcome <;> rfl

theorem outcome_of_found? {q : Question} {source : EndPoint} {members : List Member}
    (h : q.found? = some (source, members)) :
    q.contact.1 = source ∧ q.outcome = .success members := by
  unfold found? at h
  split at h
  · cases h
    exact ⟨rfl, ‹_›⟩
  · cases h

end Question

namespace Surroundings

variable (e : Surroundings) (timeout : Duration)

/-- **The questions of an attempt**: the nodes are asked in turn, until one of them answers well. -/
def inquire (before : List Contact) : List Contact → List Question
  | [] => []
  | c :: left =>
    match (e.question timeout before c).found? with
    | some _ => [e.question timeout before c]
    | none => e.question timeout before c :: inquire (before ++ [c]) left

variable {e timeout} {before left : List Contact} {c : Contact}

theorem inquire_of_found {found : EndPoint × List Member}
    (h : (e.question timeout before c).found? = some found) :
    e.inquire timeout before (c :: left) = [e.question timeout before c] := by
  rw [inquire, h]

theorem inquire_of_none (h : (e.question timeout before c).found? = none) :
    e.inquire timeout before (c :: left)
      = e.question timeout before c :: e.inquire timeout (before ++ [c]) left := by
  rw [inquire, h]

/-- **An attempt asks its nodes in order**, and leaves some out only after one that answered
well. -/
theorem contacts_inquire (e : Surroundings) (timeout : Duration) (before left : List Contact) :
    (e.inquire timeout before left).map (·.contact) <+: left
      ∧ ((e.inquire timeout before left).findSome? Question.found? = none →
        (e.inquire timeout before left).map (·.contact) = left) := by
  induction left generalizing before with
  | nil => exact ⟨List.prefix_rfl, fun _ => rfl⟩
  | cons c left ih =>
    obtain ⟨hinit, hall⟩ := ih (before ++ [c])
    cases hq : (e.question timeout before c).found? with
    | some found =>
      rw [inquire_of_found hq, List.findSome?_singleton, hq, List.map_singleton, contact_question]
      exact ⟨List.prefix_append [c] left, nofun⟩
    | none =>
      rw [inquire_of_none hq, List.findSome?_cons, hq, List.map_cons, contact_question]
      exact ⟨(List.prefix_cons_inj c).2 hinit, fun hnone => by rw [hall hnone]⟩

/-- **The question that is answered well is the last one.** -/
theorem getLast?_inquire {found : EndPoint × List Member}
    (h : (e.inquire timeout before left).findSome? Question.found? = some found) :
    ∃ q, (e.inquire timeout before left).getLast? = some q ∧ q.found? = some found := by
  induction left generalizing before with
  | nil => cases h
  | cons c left ih =>
    cases hq : (e.question timeout before c).found? with
    | some found' =>
      rw [inquire_of_found hq, List.findSome?_singleton, hq] at h
      cases h
      exact ⟨_, by rw [inquire_of_found hq]; rfl, hq⟩
    | none =>
      rw [inquire_of_none hq, List.findSome?_cons, hq] at h
      obtain ⟨q, hlast, hfound⟩ := ih h
      exact ⟨q, by rw [inquire_of_none hq, List.getLast?_cons, hlast]; rfl, hfound⟩

end Surroundings

/-! ## The whole search -/

/-- **What a resolution goes by.** -/
structure Search where
  surroundings : Surroundings
  settings : ResolverSettings
  /-- The entries of the cache at the start. -/
  first : List Contact
  /-- The entries of the cache once it has been filled with the seeds. -/
  later : List Contact

namespace Search

variable (x : Search)

/-- The nodes that an attempt asks, in order. -/
def contacts (attempt : Nat) : List Contact :=
  x.surroundings.arrange attempt (if attempt = 1 then x.first else x.later)

/-- The sequence of delays as it is after some attempts. -/
def backoff (attempts : Nat) : Backoff := Backoff.advance^[attempts] (.start x.settings.backoff)

/-- The delay before an attempt; the first one is not delayed. -/
def pause : Nat → List Deed
  | 0 | 1 => []
  | attempt + 2 =>
    [.sleep ((x.backoff attempt).next (x.surroundings.draw (attempt + 1))).1]

/-- **What has been done** by the end of an attempt. -/
def deeds : Nat → List Deed
  | 0 => []
  | attempt + 1 =>
    deeds attempt ++ x.pause (attempt + 1)
      ++ (x.surroundings.inquire x.settings.gossipTimeout (Deed.contacts (deeds attempt))
        (x.contacts (attempt + 1))).map .ask

/-- The questions of an attempt. -/
def questions (attempt : Nat) : List Question :=
  x.surroundings.inquire x.settings.gossipTimeout (Deed.contacts (x.deeds (attempt - 1)))
    (x.contacts attempt)

/-- What an attempt finds: the node that answered well, and its member table. -/
def found? (attempt : Nat) : Option (EndPoint × List Member) :=
  (x.questions attempt).findSome? Question.found?

/-- **What is said about a failed attempt.** -/
def complaints (attempt : Nat) : String :=
  match (x.questions attempt).map Question.complaint with
  | [] => "no endpoints to query"
  | complaints => "; ".intercalate complaints

/-- A delay asks nobody. -/
theorem contacts_pause (attempt : Nat) :
    Deed.contacts (x.deeds attempt ++ x.pause (attempt + 1)) = Deed.contacts (x.deeds attempt) := by
  cases attempt with
  | zero => rfl
  | succ attempt =>
    rw [Deed.contacts, List.filterMap_append]
    exact List.append_nil _

theorem exhausted_eq (attempt : Nat) :
    Resolver.exhausted attempt ((x.questions attempt).map Question.complaint)
      = .unavailable ("discovery exhausted after " ++ toString attempt ++ " attempts: "
        ++ x.complaints attempt) := by
  rw [Resolver.exhausted, Resolver.summary, complaints]
  cases (x.questions attempt).map Question.complaint <;> rfl

end Search

/-! ## Views that search -/

namespace Deed

/-- How long it takes to do all this, in nanoseconds. -/
def total (deeds : List Deed) : Nat := deeds.foldl (fun n deed => n + deed.time) 0

/-- What is reported of all this. -/
def reports (deeds : List Deed) : List Metric := deeds.filterMap report?

end Deed

namespace View

/-- **A resolution that was started at some instant**, when the given log was there already, and has
done the given deeds. -/
def doing (started : Instant) (log : List Metric) (deeds : List Deed) (cache : Cache)
    (backoff : Backoff) (phase : ResolutionPhase) : View where
  phase := phase
  started := started
  backoff := backoff
  cache := cache
  log := log ++ Deed.reports deeds
  now := started + Deed.total deeds
  deeds := deeds

/-- **A resolution that has ended**, and has reported so. -/
def ended (started : Instant) (log : List Metric) (deeds : List Deed) (cache : Cache)
    (backoff : Backoff) (attempts : Nat) (result : Except Error Resolution) : View :=
  let v := doing started log deeds cache backoff (.ended result)
  { v with log := v.log ++ [v.endReport v.now attempts result.isOk] }

/-- One view comes after another. -/
def Reaches (e : Surroundings) (seeds : List EndPoint) (settings : ResolverSettings)
    (v w : View) : Prop :=
  ∃ n, (View.next e seeds settings)^[n] v = w

namespace Reaches

variable {e : Surroundings} {seeds : List EndPoint} {settings : ResolverSettings} {u v w : View}

theorem refl (v : View) : Reaches e seeds settings v v := ⟨0, rfl⟩

theorem next (v : View) : Reaches e seeds settings v (v.next e seeds settings) := ⟨1, rfl⟩

theorem trans (h : Reaches e seeds settings u v) (h' : Reaches e seeds settings v w) :
    Reaches e seeds settings u w := by
  obtain ⟨m, rfl⟩ := h
  obtain ⟨n, rfl⟩ := h'
  exact ⟨n + m, Function.iterate_add_apply ..⟩

end Reaches

section

variable {e : Surroundings} {seeds : List EndPoint} {settings : ResolverSettings}
  {started : Instant} {log : List Metric} {deeds : List Deed} {cache : Cache} {backoff : Backoff}
  {attempt : Nat} {before left : List Contact} {failures : List String}

/-- A question that is not answered well leads to the next one. -/
theorem takeIn_of_none {q : Question} (h : q.found? = none) (phase : ResolutionPhase) :
    (doing started log deeds cache backoff phase).takeIn attempt left failures q
      = doing started log (deeds ++ [.ask q]) cache backoff
        (.ready attempt left (failures ++ [q.complaint])) := by
  unfold takeIn
  dsimp only [doing]
  split
  · rename_i members houtcome
    rw [Question.found?, houtcome] at h
    cases h
  · rename_i houtcome
    rw [Question.complaint_eq]
    simp [Deed.total, Deed.reports, Deed.report?, Deed.question?, Deed.time, Nat.add_assoc]

/-- A question that is answered well ends the resolution. -/
theorem takeIn_of_found {q : Question} {source : EndPoint} {members : List Member}
    (h : q.found? = some (source, members)) (phase : ResolutionPhase) :
    (doing started log deeds cache backoff phase).takeIn attempt left failures q
      = ended started log (deeds ++ [.ask q])
        (cache.reconcile (EndPoint.distinct (members.map (·.endpoint)))).2 backoff attempt
        (.ok ⟨members, source, attempt,
          Duration.between started (started + Deed.total (deeds ++ [.ask q]))⟩) := by
  obtain ⟨rfl, houtcome⟩ := Question.outcome_of_found? h
  simp [takeIn, houtcome, doing, ended, endReport, Deed.total, Deed.reports, Deed.report?,
    Deed.question?, Deed.time, Nat.add_assoc, Except.isOk, Except.toBool]

/-- **A node is asked**, and does not answer well. -/
theorem reaches_ask_of_none (hbefore : Deed.contacts deeds = before) {c : Contact}
    (h : (e.question settings.gossipTimeout before c).found? = none) :
    Reaches e seeds settings
      (doing started log deeds cache backoff (.ready attempt (c :: left) failures))
      (doing started log (deeds ++ [.ask (e.question settings.gossipTimeout before c)]) cache
        backoff (.ready attempt left
          (failures ++ [(e.question settings.gossipTimeout before c).complaint]))) := by
  subst hbefore
  rw [← takeIn_of_none h (.asking attempt c left failures)]
  exact (Reaches.next _).trans (.next _)

theorem contacts_ask (hbefore : Deed.contacts deeds = before) (c : Contact) :
    Deed.contacts (deeds ++ [.ask (e.question settings.gossipTimeout before c)])
      = before ++ [c] := by
  rw [Deed.contacts, List.filterMap_append, ← Deed.contacts, hbefore]
  simp [Deed.question?]

/-- **An attempt in which no node answers well** asks all of its nodes. -/
theorem reaches_of_none (hbefore : Deed.contacts deeds = before)
    (h : (e.inquire settings.gossipTimeout before left).findSome? Question.found? = none) :
    Reaches e seeds settings
      (doing started log deeds cache backoff (.ready attempt left failures))
      (doing started log (deeds ++ (e.inquire settings.gossipTimeout before left).map .ask)
        cache backoff (.ready attempt []
          (failures
            ++ (e.inquire settings.gossipTimeout before left).map Question.complaint))) := by
  induction left generalizing deeds before failures with
  | nil =>
    simp only [Surroundings.inquire, List.map_nil, List.append_nil]
    exact .refl _
  | cons c left ih =>
    cases hq : (e.question settings.gossipTimeout before c).found? with
    | some found =>
      rw [Surroundings.inquire_of_found hq, List.findSome?_singleton, hq] at h
      cases h
    | none =>
      rw [Surroundings.inquire_of_none hq, List.findSome?_cons, hq] at h
      rw [Surroundings.inquire_of_none hq, List.map_cons, List.map_cons, List.append_cons deeds,
        List.append_cons failures]
      exact (reaches_ask_of_none hbefore hq).trans (ih (contacts_ask hbefore c) h)

/-- **An attempt in which a node answers well** is the last one, and the members are cached. -/
theorem reaches_of_found (hbefore : Deed.contacts deeds = before) {source : EndPoint}
    {members : List Member}
    (h : (e.inquire settings.gossipTimeout before left).findSome? Question.found?
      = some (source, members)) :
    Reaches e seeds settings
      (doing started log deeds cache backoff (.ready attempt left failures))
      (ended started log (deeds ++ (e.inquire settings.gossipTimeout before left).map .ask)
        (cache.reconcile (EndPoint.distinct (members.map (·.endpoint)))).2 backoff attempt
        (.ok ⟨members, source, attempt, Duration.between started (started + Deed.total (deeds
          ++ (e.inquire settings.gossipTimeout before left).map .ask))⟩)) := by
  -- by induction on the nodes that are left: one that does not answer well is asked and passed over
  induction left generalizing deeds before failures with
  | nil => cases h
  | cons c left ih =>
    cases hq : (e.question settings.gossipTimeout before c).found? with
    | some found =>
      subst hbefore
      rw [Surroundings.inquire_of_found hq, List.findSome?_singleton, hq] at h
      cases h
      rw [Surroundings.inquire_of_found hq, List.map_singleton,
        ← takeIn_of_found hq (.asking attempt c left failures)]
      exact (Reaches.next _).trans (.next _)
    | none =>
      rw [Surroundings.inquire_of_none hq, List.findSome?_cons, hq] at h
      rw [Surroundings.inquire_of_none hq, List.map_cons, List.append_cons]
      have hasked : Deed.contacts (deeds
          ++ [.ask (e.question settings.gossipTimeout before c)]) = before ++ [c] :=
        contacts_ask hbefore c
      exact (reaches_ask_of_none hbefore hq).trans (ih hasked h)

/-- **A failed attempt is followed by a delay**, and then by another attempt with the seeds. -/
theorem reaches_pause (h : attempt < settings.maxAttempts) :
    Reaches e seeds settings
      (doing started log deeds cache backoff (.ready attempt [] failures))
      (doing started log (deeds ++ [.sleep (backoff.next (e.draw attempt)).1])
        (cache.reconcile seeds).2 backoff.advance (.ready (attempt + 1)
          (e.arrange (attempt + 1) (cache.reconcile seeds).2.entries) [])) := by
  have hfail : View.next e seeds settings
      (doing started log deeds cache backoff (.ready attempt [] failures))
      = doing started log deeds (cache.reconcile seeds).2 backoff.advance
        (.pausing attempt (backoff.next (e.draw attempt)).1) := if_pos h
  have hsleep : View.next e seeds settings (doing started log deeds (cache.reconcile seeds).2
      backoff.advance (.pausing attempt (backoff.next (e.draw attempt)).1))
      = doing started log (deeds ++ [.sleep (backoff.next (e.draw attempt)).1])
        (cache.reconcile seeds).2 backoff.advance (.ready (attempt + 1)
          (e.arrange (attempt + 1) (cache.reconcile seeds).2.entries) []) := by
    simp [View.next, doing, Deed.total, Deed.reports, Deed.report?, Deed.question?, Deed.time,
      Nat.add_assoc]
  rw [← hsleep, ← hfail]
  exact (Reaches.next _).trans (.next _)

/-- **The last attempt is followed by nothing**, and the resolution ends in an error. -/
theorem reaches_exhausted (h : ¬attempt < settings.maxAttempts) :
    Reaches e seeds settings
      (doing started log deeds cache backoff (.ready attempt [] failures))
      (ended started log deeds (cache.reconcile seeds).2 backoff attempt
        (.error (Resolver.exhausted attempt failures))) := by
  have hend : View.next e seeds settings
      (doing started log deeds cache backoff (.ready attempt [] failures))
      = ended started log deeds (cache.reconcile seeds).2 backoff attempt
        (.error (Resolver.exhausted attempt failures)) := if_neg h
  rw [← hend]
  exact .next _

/-- What has ended has ended for good. -/
theorem iterate_ended (result : Except Error Resolution) (n : Nat) :
    (View.next e seeds settings)^[n] (ended started log deeds cache backoff attempt result)
      = ended started log deeds cache backoff attempt result :=
  Function.iterate_fixed rfl n

end

end View

/-! ## Attempt after attempt -/

namespace Search

variable (x : Search) {seeds : List EndPoint} (started : Instant) (log : List Metric)
  {cache : Cache}

/-- **The view of a resolution that begins another attempt**, after the given number of them. -/
def beginning (attempts : Nat) (cache : Cache) : View :=
  .doing started log (x.deeds attempts ++ x.pause (attempts + 1)) cache (x.backoff attempts)
    (.ready (attempts + 1) (x.contacts (attempts + 1)) [])

variable {started log} {attempts : Nat}

/-- An attempt in which no node answers well has asked all of its nodes. -/
theorem reaches_failed (h : x.found? (attempts + 1) = none) :
    View.Reaches x.surroundings seeds x.settings (x.beginning started log attempts cache)
      (.doing started log (x.deeds (attempts + 1)) cache (x.backoff attempts)
        (.ready (attempts + 1) [] ((x.questions (attempts + 1)).map Question.complaint))) :=
  View.reaches_of_none (x.contacts_pause attempts) h

/-- **Another attempt follows**, after a delay, and it asks the seeds. -/
theorem reaches_beginning (h : x.found? (attempts + 1) = none)
    (hlt : attempts + 1 < x.settings.maxAttempts)
    (hlater : (cache.reconcile seeds).2.entries = x.later) :
    View.Reaches x.surroundings seeds x.settings (x.beginning started log attempts cache)
      (x.beginning started log (attempts + 1) (cache.reconcile seeds).2) := by
  have hbackoff : x.backoff (attempts + 1) = (x.backoff attempts).advance :=
    Function.iterate_succ_apply' ..
  have hcontacts : x.contacts (attempts + 2)
      = x.surroundings.arrange (attempts + 2) (cache.reconcile seeds).2.entries := by
    rw [contacts, if_neg (by omega), hlater]
  refine (x.reaches_failed h).trans ?_
  rw [beginning, hbackoff, hcontacts]
  exact View.reaches_pause hlt

/-- **The seeds are cached again and again**, but only the first time makes a difference. -/
theorem exists_beginning (started : Instant) (log : List Metric) (hready : cache.Ready)
    (hlater : (cache.reconcile seeds).2.entries = x.later)
    (hle : attempts + 1 ≤ x.settings.maxAttempts)
    (hnone : ∀ k, k < attempts → x.found? (k + 1) = none) :
    ∃ cache', View.Reaches x.surroundings seeds x.settings
        (x.beginning started log 0 cache) (x.beginning started log attempts cache')
      ∧ cache'.Ready ∧ (cache'.reconcile seeds).2.entries = x.later := by
  induction attempts with
  | zero => exact ⟨cache, .refl _, hready, hlater⟩
  | succ attempts ih =>
    obtain ⟨cache', hreaches, hready', hlater'⟩ :=
      ih (Nat.le_of_succ_le hle) fun k hk => hnone k (Nat.lt_succ_of_lt hk)
    have hnext : View.Reaches x.surroundings seeds x.settings
        (x.beginning started log attempts cache')
        (x.beginning started log (attempts + 1) (cache'.reconcile seeds).2) :=
      x.reaches_beginning (hnone attempts (Nat.lt_succ_self attempts)) hle hlater'
    -- a cache that has been filled with the seeds stays as it is when it is filled again
    obtain ⟨c, hc, hreadyc, hkeys⟩ := hready'.reconcile seeds
    obtain ⟨c', hc', -, -⟩ := hreadyc.reconcile seeds
    rw [hc] at hlater' hnext
    refine ⟨c, hreaches.trans hnext, hreadyc, ?_⟩
    rw [hc', Cache.entries_of_reconcile_of_keys hc' hkeys]
    exact hlater'

/-- **The first attempt in which a node answers well** decides, and the members are cached. -/
theorem reaches_ended_of_found {source : EndPoint} {members : List Member}
    (h : x.found? (attempts + 1) = some (source, members)) :
    View.Reaches x.surroundings seeds x.settings (x.beginning started log attempts cache)
      (.ended started log (x.deeds (attempts + 1))
        (cache.reconcile (EndPoint.distinct (members.map (·.endpoint)))).2 (x.backoff attempts)
        (attempts + 1) (.ok ⟨members, source, attempts + 1, Duration.between started
          (started + Deed.total (x.deeds (attempts + 1)))⟩)) :=
  View.reaches_of_found (x.contacts_pause attempts) h

theorem exists_ended_of_found (seeds : List EndPoint) (started : Instant) (log : List Metric)
    (cache : Cache) {source : EndPoint} {members : List Member}
    (h : x.found? (attempts + 1) = some (source, members)) :
    ∃ cache', View.Reaches x.surroundings seeds x.settings
      (x.beginning started log attempts cache)
      (.ended started log (x.deeds (attempts + 1)) cache' (x.backoff attempts) (attempts + 1)
        (.ok ⟨members, source, attempts + 1, Duration.between started
          (started + Deed.total (x.deeds (attempts + 1)))⟩)) :=
  ⟨_, x.reaches_ended_of_found h⟩

/-- **If there is none**, the resolution ends in an error after the last attempt. -/
theorem reaches_ended_of_none (h : x.found? (attempts + 1) = none)
    (hlast : x.settings.maxAttempts = attempts + 1) :
    View.Reaches x.surroundings seeds x.settings (x.beginning started log attempts cache)
      (.ended started log (x.deeds (attempts + 1)) (cache.reconcile seeds).2 (x.backoff attempts)
        (attempts + 1) (.error (.unavailable ("discovery exhausted after "
          ++ toString (attempts + 1) ++ " attempts: " ++ x.complaints (attempts + 1))))) := by
  rw [← exhausted_eq]
  exact (x.reaches_failed h).trans (View.reaches_exhausted (by omega))

end Search

/-! ## The resolution -/

/-- What a resolution goes by that starts in this state. -/
def Discovery.search (d : Discovery) (e : Surroundings) : Search where
  surroundings := e
  settings := d.resolver.settings
  first := d.cache.entries
  later := (d.cache.reconcile d.resolver.seeds).2.entries

namespace Solo

/-- **A resolution on its own** after some steps. -/
def run (e : Surroundings) (id : Nat) (d : Discovery) (now : Instant) (n : Nat) : Solo :=
  (Solo.next e id)^[n] { discovery := d, now := now }

/-- **The resolution has ended like this**: it has done the given deeds, which took as long as they
take and were reported, and then it has reported its end. -/
structure EndedAs (d : Discovery) (id : Nat) (now : Instant) (deeds : List Deed) (attempts : Nat)
    (result : Except Error Resolution) (z : Solo) : Prop where
  result?_eq : z.discovery.resolver.result? id = some result
  deeds_eq : z.deeds = deeds
  now_eq : z.now = now + Deed.total deeds
  log_eq : z.discovery.resolver.log = d.resolver.log ++ Deed.reports deeds
    ++ [.discovery (Duration.between now z.now) attempts result.isOk]

end Solo

/-- A caller that finds no resolution in flight starts one. -/
theorem Resolver.tasks_join {r : Resolver} (h : r.inFlight = none) :
    r.join.2.tasks[r.join.1]? = some { backoff := .start r.settings.backoff } := by
  rw [join, h]
  exact List.getElem?_concat_length

section

variable {e : Surroundings} {d : Discovery} {id : Nat} {now : Instant}
  (hstarted : d.resolver.tasks[id]? = some { backoff := .start d.resolver.settings.backoff })
  (hcache : d.cache.Ready)
  (hlive : ∀ n, (Solo.run e id d now n).discovery.resolver.isCancelled id = false)

include hstarted hcache hlive

/-- **Once its view has ended, the resolution shows it for good.** -/
theorem Solo.shows_of_reaches {deeds : List Deed} {cache : Cache} {backoff : Backoff}
    {attempts : Nat} {result : Except Error Resolution}
    (h : View.Reaches e d.resolver.seeds d.resolver.settings
      ((d.search e).beginning now d.resolver.log 0 d.cache)
      (.ended now d.resolver.log deeds cache backoff attempts result)) :
    ∃ n, ∀ m, n ≤ m → Shows d.resolver.seeds d.resolver.settings id (Solo.run e id d now m)
      (.ended now d.resolver.log deeds cache backoff attempts result) := by
  obtain ⟨k, hk⟩ := h
  -- the view of the resolution at its start
  let v : View :=
    ⟨.waiting, 0, .start d.resolver.settings.backoff, d.cache, d.resolver.log, now, []⟩
  have hshut : d.resolver.isShutDown = false := (Bool.or_eq_false_iff.1 (hlive 0)).1
  have hshows : Shows d.resolver.seeds d.resolver.settings id { discovery := d, now := now } v :=
    ⟨⟨hstarted, rfl, rfl, hshut, rfl⟩, rfl, rfl, rfl⟩
  have hbegin : v.next e d.resolver.seeds d.resolver.settings
      = (d.search e).beginning now d.resolver.log 0 d.cache := by
    simp [v, View.next, Search.beginning, View.doing, Search.deeds, Search.pause, Search.contacts,
      Discovery.search, Search.backoff, Deed.reports, Deed.total]
  refine ⟨k + 1, fun m hm => ?_⟩
  obtain ⟨j, rfl⟩ := Nat.exists_eq_add_of_le' hm
  have hview : (View.next e d.resolver.seeds d.resolver.settings)^[j + (k + 1)] v
      = .ended now d.resolver.log deeds cache backoff attempts result := by
    rw [Function.iterate_add_apply, Function.iterate_succ_apply, hbegin, hk, View.iterate_ended]
  exact hview ▸ (hshows.iterate hcache e hlive (j + (k + 1))).1

/-- Once its view has ended, a resolution has. -/
theorem Solo.endedAs_of_reaches {deeds : List Deed} {cache : Cache} {backoff : Backoff}
    {attempts : Nat} {result : Except Error Resolution}
    (h : View.Reaches e d.resolver.seeds d.resolver.settings
      ((d.search e).beginning now d.resolver.log 0 d.cache)
      (.ended now d.resolver.log deeds cache backoff attempts result)) :
    ∃ n, ∀ m, n ≤ m → (Solo.run e id d now m).EndedAs d id now deeds attempts result := by
  obtain ⟨n, hn⟩ := Solo.shows_of_reaches hstarted hcache hlive h
  refine ⟨n, fun m hm => ?_⟩
  have hend := hn m hm
  have hphase : (Solo.run e id d now m).discovery.resolver.phase? id
      = some (.ended result) := hend.holds.phase?_eq
  refine ⟨?_, hend.deeds_eq, hend.now_eq, ?_⟩
  · rw [Resolver.result?, hphase]
  · refine hend.holds.log_eq.trans ?_
    rw [show (Solo.run e id d now m).now = now + Deed.total deeds from hend.now_eq]
    rfl

end

/-- The nodes of an attempt are different, and are those that are cached or the seeds. -/
theorem Discovery.perm_contacts (d : Discovery) (e : Surroundings) (hcache : d.cache.Ready)
    (attempt : Nat) :
    (((d.search e).contacts attempt).map (·.1.key)).Nodup
      ∧ (attempt = 1 → ((d.search e).contacts attempt).Perm d.cache.entries)
      ∧ (attempt ≠ 1 → (((d.search e).contacts attempt).map (·.1.key)).Perm
        (EndPoint.keys (EndPoint.distinct d.resolver.seeds))) := by
  obtain ⟨c', hc', -, hkeys⟩ := hcache.reconcile d.resolver.seeds
  have hlater : (d.search e).later = c'.entries := by rw [search, hc']
  rw [Search.contacts, hlater]
  -- the first attempt takes the nodes that are cached, the others the seeds
  by_cases hattempt : attempt = 1
  · have hperm := e.perm_arrange attempt d.cache.entries
    rw [if_pos hattempt]
    refine ⟨(hperm.map _).nodup_iff.2 ?_, fun _ => hperm, fun hne => absurd hattempt hne⟩
    rw [← Cache.keys_eq]
    exact hcache.keyed
  · have hperm := (e.perm_arrange attempt c'.entries).map (·.1.key)
    rw [← Cache.keys_eq] at hperm
    rw [if_neg hattempt]
    exact ⟨(hperm.trans hkeys).nodup_iff.2 (EndPoint.nodup_keys_distinct _),
      fun h => absurd h hattempt, fun _ => hperm.trans hkeys⟩

/-- **A resolution does what its search says.** Every attempt asks different nodes, the first one
those that are cached and the others the seeds, in the order in which they are arranged, and stops
after the first one that answers well. From some step on, the resolution has the result of the first
attempt in which a node answers well, or else the error of the last attempt, and it has done and
reported what there was to do until then. -/
theorem resolution_follows_search (e : Surroundings) (d : Discovery) (id : Nat) (now : Instant)
    (hstarted : d.resolver.tasks[id]? = some { backoff := .start d.resolver.settings.backoff })
    (hmax : 1 ≤ d.resolver.settings.maxAttempts) (hcache : d.cache.Ready)
    (hlive : ∀ n, (Solo.run e id d now n).discovery.resolver.isCancelled id = false) :
    (∀ attempt, 1 ≤ attempt →
      (((d.search e).contacts attempt).map (·.1.key)).Nodup
      ∧ (attempt = 1 → ((d.search e).contacts attempt).Perm d.cache.entries)
      ∧ (attempt ≠ 1 → (((d.search e).contacts attempt).map (·.1.key)).Perm
        (EndPoint.keys (EndPoint.distinct d.resolver.seeds)))
      ∧ ((d.search e).questions attempt).map (·.contact) <+: (d.search e).contacts attempt
      ∧ ((d.search e).found? attempt = none →
        ((d.search e).questions attempt).map (·.contact) = (d.search e).contacts attempt)
      ∧ ∀ found, (d.search e).found? attempt = some found →
        ∃ q, ((d.search e).questions attempt).getLast? = some q ∧ q.found? = some found)
    ∧ (∀ attempt source members, 1 ≤ attempt →
      attempt ≤ d.resolver.settings.maxAttempts →
      (∀ k, 1 ≤ k → k < attempt → (d.search e).found? k = none) →
      (d.search e).found? attempt = some (source, members) →
      ∃ n, ∀ m, n ≤ m → (Solo.run e id d now m).EndedAs d id now
        ((d.search e).deeds attempt) attempt
        (.ok ⟨members, source, attempt,
          Duration.between now (now + Deed.total ((d.search e).deeds attempt))⟩))
    ∧ ((∀ k, 1 ≤ k → k ≤ d.resolver.settings.maxAttempts →
      (d.search e).found? k = none) →
      ∃ n, ∀ m, n ≤ m → (Solo.run e id d now m).EndedAs d id now
        ((d.search e).deeds d.resolver.settings.maxAttempts) d.resolver.settings.maxAttempts
        (.error (.unavailable ("discovery exhausted after "
          ++ toString d.resolver.settings.maxAttempts ++ " attempts: "
          ++ (d.search e).complaints d.resolver.settings.maxAttempts)))) := by
  refine ⟨fun attempt _ => ?_, fun attempt source members hone hle hnone hfound => ?_,
    fun hnone => ?_⟩
  · obtain ⟨hnodup, hfirst, hlater⟩ := d.perm_contacts e hcache attempt
    obtain ⟨hinit, hall⟩ := e.contacts_inquire d.resolver.settings.gossipTimeout
      (Deed.contacts ((d.search e).deeds (attempt - 1))) ((d.search e).contacts attempt)
    exact ⟨hnodup, hfirst, hlater, hinit, hall, fun found => Surroundings.getLast?_inquire⟩
  · obtain ⟨attempts, rfl⟩ := Nat.exists_eq_add_of_le' hone
    -- all attempts before this one have failed
    obtain ⟨cache, hreaches, -, -⟩ :=
      (d.search e).exists_beginning now d.resolver.log hcache rfl
        hle fun k hk => hnone (k + 1) (Nat.succ_pos k) (Nat.succ_lt_succ hk)
    obtain ⟨cache', hend⟩ :=
      (d.search e).exists_ended_of_found d.resolver.seeds now d.resolver.log cache hfound
    exact Solo.endedAs_of_reaches hstarted hcache hlive (hreaches.trans hend)
  · obtain ⟨attempts, hattempts⟩ := Nat.exists_eq_add_of_le' hmax
    rw [hattempts] at hnone ⊢
    obtain ⟨cache, hreaches, -, -⟩ :=
      (d.search e).exists_beginning now d.resolver.log hcache rfl
        (Nat.le_of_eq hattempts.symm) fun k hk => hnone (k + 1) (Nat.succ_pos k) (by omega)
    exact Solo.endedAs_of_reaches hstarted hcache hlive (hreaches.trans
      ((d.search e).reaches_ended_of_none (hnone _ (Nat.succ_pos _) (Nat.le_refl _)) hattempts))

namespace Solo

variable {e : Surroundings} {d : Discovery} {id : Nat} {now : Instant}

theorem steps_run (e : Surroundings) (id : Nat) (d : Discovery) (now : Instant) (n : Nat) :
    (run e id d now n).steps = n := by
  induction n with
  | zero => rfl
  | succ n ih =>
    rw [run, Function.iterate_succ_apply', ← run]
    have hmove : ((run e id d now n).move e id).steps = (run e id d now n).steps := by
      unfold move
      split <;> rfl
    exact (congrArg (· + 1) hmove).trans (congrArg (· + 1) ih)

/-- Nothing happens any more once a resolution has ended and the callers are quiet. -/
theorem discovery_run_of_ended {n : Nat} {result : Except Error Resolution}
    (hended : (run e id d now n).discovery.resolver.phase? id = some (.ended result))
    (hquiet : ∀ k, n ≤ k → e.callers k = []) {m : Nat} (hm : n ≤ m) :
    (run e id d now m).discovery = (run e id d now n).discovery := by
  induction hm with
  | refl => rfl
  | @step m hm ih =>
    have hmove : (run e id d now m).move e id = run e id d now m := by
      rw [move, ih, hended]
    have hnext : run e id d now (m + 1) = (run e id d now m).callersMove e := by
      rw [run, Function.iterate_succ_apply', ← run, next, hmove]
    rw [Nat.succ_eq_add_one, hnext, callersMove, steps_run, hquiet m hm]
    exact ih

end Solo

/-- A member at the node that is asked first. -/
def someMember : Member := ⟨"1", ⟨"b", 2⟩, .leader, true⟩

/-- Nobody answers the first two questions. Another caller joins meanwhile. -/
def silentAtFirst : Surroundings where
  arrange := fun _ contacts => contacts.reverse
  perm_arrange := fun _ contacts => contacts.reverse_perm
  reply := fun before _ =>
    if before.length < 2 then none else some (Duration.ofMillis 20, .ok [someMember])
  draw := fun _ => 0.5
  callers := fun n => if n = 0 then [.come, .advance 0, .advance 0, .advance 0] else []
  ofCallers := by
    intro n event hevent
    split at hevent
    · simp only [List.mem_cons, List.not_mem_nil, or_false] at hevent
      rcases hevent with rfl | rfl | rfl | rfl <;> trivial
    · cases hevent

/-- A resolution with two nodes has been started. -/
def twoNodes : Discovery where
  resolver :=
    (Resolver.join { seeds := [⟨"a", 1⟩, ⟨"b", 2⟩], settings := { maxAttempts := 2 } }).2
  cache := (({} : Cache).reconcile [⟨"a", 1⟩, ⟨"b", 2⟩]).2

/-- The first attempt fails and the second one does not. -/
theorem resolution_follows_search_second :
    (twoNodes.search silentAtFirst).found? 1 = none
      ∧ (twoNodes.search silentAtFirst).found? 2 = some (⟨"b", 2⟩, [someMember])
      ∧ ∃ n, ∀ m, n ≤ m → (Solo.run silentAtFirst 0 twoNodes 7 m).EndedAs twoNodes 0 7
        ((twoNodes.search silentAtFirst).deeds 2) 2
        (.ok ⟨[someMember], ⟨"b", 2⟩, 2,
          Duration.between 7 (7 + Deed.total ((twoNodes.search silentAtFirst).deeds 2))⟩) := by
  have hfirst : (twoNodes.search silentAtFirst).found? 1 = none := rfl
  have hsecond : (twoNodes.search silentAtFirst).found? 2
      = some (⟨"b", 2⟩, [someMember]) := rfl
  have hcache : twoNodes.cache.Ready := by
    obtain ⟨c', hc', hready, -⟩ := Cache.Ready.reconcile (c := {})
      ⟨rfl, List.nodup_nil, fun _ _ => rfl⟩ [⟨"a", 1⟩, ⟨"b", 2⟩]
    rw [twoNodes, hc']
    exact hready
  have hended : ∃ result, (Solo.run silentAtFirst 0 twoNodes 7 9).discovery.resolver.phase? 0
      = some (.ended result) := ⟨_, rfl⟩
  obtain ⟨result, hended⟩ := hended
  -- the resolution has ended after nine steps, and nobody calls it off before
  have hlive : ∀ n,
      (Solo.run silentAtFirst 0 twoNodes 7 n).discovery.resolver.isCancelled 0 = false := by
    intro n
    rcases Nat.lt_or_ge n 9 with hn | hn
    · have hall : ∀ k : Fin 9,
          (Solo.run silentAtFirst 0 twoNodes 7 k).discovery.resolver.isCancelled 0 = false := by
        decide
      exact hall ⟨n, hn⟩
    · rw [Solo.discovery_run_of_ended hended (fun k hk => if_neg (by omega)) hn]
      rfl
  obtain ⟨-, hresult, -⟩ := resolution_follows_search silentAtFirst twoNodes 0 7
    (Resolver.tasks_join rfl) (by decide) hcache hlive
  refine ⟨hfirst, hsecond,
    hresult 2 ⟨"b", 2⟩ [someMember] (by decide) (by decide) ?_ hsecond⟩
  intro k hone hlt
  cases Nat.le_antisymm (Nat.le_of_lt_succ hlt) hone
  exact hfirst

end ClusterLink
