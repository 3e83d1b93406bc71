import ClusterLink.Proofs.Provider.Traffic

/-!
# Reading a watched stream

A caller reads a stream under a watch while everything else goes on: others call on their
connections and read streams of their own, runs end, the connection is reset, and the provider is
disposed of (`ReadingEvent`). The source may give anything in any order, failures after failures and
items after them, and it may be asked on after its end.

Whatever comes in between, the watch knows whether the source has failed before, and nothing else
(`ReadingRun.hasSeenFailure_iff`). So what it shows to the provider depends on the source alone, and
only what comes of it depends on the provider at that instant. The main statement is
`watched_stream_reads_as_its_source`.
-/

namespace ClusterLink

variable {α : Type}

/-! ## One question -/

/-- The status of a failure. -/
def StreamPoll.failure? : StreamPoll α → Option Status
  | .failure status => some status
  | _ => none

namespace StreamWatch

/-- **What a watch shows to the provider**: a failure, unless it has seen one before. -/
def shows? (w : StreamWatch) (polled : StreamPoll α) : Option Status :=
  if w.hasSeenFailure then none else polled.failure?

/-- **A watch passes on what the source gives**, notes a failure, and shows the first one. -/
theorem poll_eq (w : StreamWatch) (p : Provider) (polled : StreamPoll α) (now : Instant)
    (inRuntime : Bool) :
    w.poll p polled now inRuntime
      = (polled, { w with hasSeenFailure := w.hasSeenFailure || polled.failure?.isSome },
        (w.shows? polled).elim p fun status => p.observe w.generation status now inRuntime) := by
  obtain ⟨generation, seen⟩ := w
  cases polled <;> cases seen <;> rfl

end StreamWatch

/-- A failure that says something about the cluster. -/
theorem FailureClass.ne_other_iff {failure : FailureClass} :
    failure ≠ .other ↔ failure = .unavailable ∨ ∃ leader, failure = .notLeader leader := by
  cases failure <;> simp

namespace Provider

/-- A stream that is opened is under a watch that has seen nothing, and the provider stays as it
is. -/
theorem openStream_ok (p : Provider) (generation : Nat) (stream : α) (now : Instant)
    (inRuntime : Bool) : p.openStream generation (.ok stream) now inRuntime
      = (.ok (stream, { generation := generation }), p) := rfl

/-- A new generation is another provider. -/
theorem advance_ne (p : Provider) (now : Instant) (inRuntime : Bool) (trigger : Trigger) :
    p.advance now inRuntime trigger ≠ p := fun h =>
  Nat.succ_ne_self p.generation
    ((generation_advance p now inRuntime trigger).symm.trans (congrArg _ h))

/-- **A signal changes the provider just if it is accepted.** -/
theorem observe_ne_iff {p : Provider} (ha : p.isAbandoned = false) {generation : Nat}
    {status : Status} {now : Instant} {inRuntime : Bool} :
    p.observe generation status now inRuntime ≠ p
      ↔ p.isDisposed = false ∧ p.generation = generation ∧ status.classify ≠ .other := by
  rw [observe_of_accepts? ha]
  cases haccepts : p.accepts? generation status with
  | none =>
    refine iff_of_false (fun h => h rfl) fun ⟨hd, hg, hclass⟩ => ?_
    rcases accepts?_eq_none.1 haccepts with hover | hother | hsilent
    · cases hd.symm.trans hover
    · exact hother hg
    · exact hclass hsilent
  | some trigger =>
    obtain ⟨hd, hg, htrigger⟩ := accepts?_eq_some.1 haccepts
    refine iff_of_true (advance_ne p now inRuntime trigger) ⟨hd, hg, fun hother => ?_⟩
    cases (triggerOf_eq_none.2 hother).symm.trans htrigger

end Provider

/-! ## Reading -/

/-- **What may happen while a stream is read.** -/
inductive ReadingEvent (α : Type) where
  /-- The watched stream is asked, and its source gives this. -/
  | poll (polled : StreamPoll α) (now : Instant) (inRuntime : Bool)
  /-- Something else happens to the provider, its callers and the streams of others. -/
  | meanwhile (event : TrafficEvent)

namespace ReadingEvent

/-- What the source gives. -/
def polled? : ReadingEvent α → Option (StreamPoll α)
  | .poll polled _ _ => some polled
  | .meanwhile _ => none

/-- The status that the source fails with. -/
def failure? (event : ReadingEvent α) : Option Status :=
  event.polled?.bind StreamPoll.failure?

end ReadingEvent

/-- **A stream that is read amid the traffic**, with what its reader has received. -/
structure Reading (α : Type) where
  traffic : Traffic
  watch : StreamWatch
  received : List (StreamPoll α) := []

namespace Reading

/-- The provider that the watch shows failures to. -/
abbrev provider (r : Reading α) : Provider := r.traffic.service.provider

/-- A stream over a connection of the generation is opened. -/
def opened (traffic : Traffic) (generation : Nat) : Reading α :=
  { traffic := traffic, watch := { generation := generation } }

/-- **What an event does.** -/
def perform (r : Reading α) : ReadingEvent α → Reading α
  | .poll polled now inRuntime =>
    let (given, watch, p) := r.watch.poll r.provider polled now inRuntime
    { traffic := { r.traffic with service := { r.traffic.service with provider := p } }
      watch := watch
      received := r.received ++ [given] }
  | .meanwhile event => { r with traffic := r.traffic.perform event }

/-- What an event shows to the provider. -/
def shows? (r : Reading α) (event : ReadingEvent α) : Option Status :=
  event.polled?.bind r.watch.shows?

/-! ### One event -/

theorem received_perform (r : Reading α) (event : ReadingEvent α) :
    (r.perform event).received = r.received ++ event.polled?.toList := by
  cases event with
  | poll polled now inRuntime => rfl
  | meanwhile event => exact (List.append_nil _).symm

theorem generation_perform (r : Reading α) (event : ReadingEvent α) :
    (r.perform event).watch.generation = r.watch.generation := by
  cases event with
  | poll polled now inRuntime =>
    exact CallEvent.generation_poll r.watch r.provider polled now inRuntime
  | meanwhile event => rfl

/-- The watch notes the failures of the source, and nothing else. -/
theorem hasSeenFailure_perform (r : Reading α) (event : ReadingEvent α) :
    (r.perform event).watch.hasSeenFailure = (r.watch.hasSeenFailure || event.failure?.isSome) := by
  cases event with
  | poll polled now inRuntime =>
    exact congrArg (·.2.1.hasSeenFailure) (r.watch.poll_eq r.provider polled now inRuntime)
  | meanwhile event => exact (Bool.or_false _).symm

theorem shows?_eq (r : Reading α) (event : ReadingEvent α) :
    r.shows? event = if r.watch.hasSeenFailure then none else event.failure? := by
  cases event with
  | poll polled now inRuntime => rfl
  | meanwhile event => exact (ite_self none).symm

/-- **A question reaches the provider by what it shows alone.** -/
theorem provider_perform_poll (r : Reading α) (polled : StreamPoll α) (now : Instant)
    (inRuntime : Bool) : (r.perform (.poll polled now inRuntime)).provider
      = (r.shows? (.poll polled now inRuntime)).elim r.provider fun status =>
        r.provider.observe r.watch.generation status now inRuntime :=
  congrArg (·.2.2) (r.watch.poll_eq r.provider polled now inRuntime)

/-- Every event is a change of the provider. -/
theorem change_perform {r : Reading α} (ha : r.provider.isAbandoned = false)
    (event : ReadingEvent α) :
    Provider.Change r.provider (r.perform event).provider := by
  cases event with
  | poll polled now inRuntime =>
    rw [provider_perform_poll]
    cases r.shows? (.poll polled now inRuntime) with
    | none => exact .stay
    | some status => exact Provider.change_observe _ _ status now inRuntime
  | meanwhile event => exact Traffic.change_perform ha event

end Reading

/-! ## Whole readings -/

/-- **A stream is read from the instant on at which it was opened.** -/
structure ReadingRun (α : Type) where
  config : BackoffConfig
  /-- What happened to the provider before, of which the first `opened` events count. -/
  before : Nat → TrafficEvent
  opened : Nat
  /-- The generation of the connection that the stream came from. -/
  generation : Nat
  events : Nat → ReadingEvent α

namespace ReadingRun

variable (x : ReadingRun α)

/-- **The stream after the first `n` of the events.** -/
def state : Nat → Reading α
  | 0 => .opened (trafficHistory x.config x.before x.opened) x.generation
  | n + 1 => (state n).perform (x.events n)

/-- The provider at an instant. -/
abbrev provider (n : Nat) : Provider := (x.state n).provider

/-- What the watch shows to the provider at an instant. -/
abbrev shown (n : Nat) : Option Status := (x.state n).shows? (x.events n)

/-- What the source gave before an instant, in order. -/
def polledBefore (n : Nat) : List (StreamPoll α) :=
  (List.range n).filterMap fun k => (x.events k).polled?

/-- **The source fails at this instant for the first time.** -/
structure FailsFirst (n : Nat) (status : Status) : Prop where
  fails : (x.events n).failure? = some status
  first : ∀ k < n, (x.events k).failure? = none

theorem isAbandoned_provider (n : Nat) : (x.provider n).isAbandoned = false := by
  induction n with
  | zero => exact (sound_trafficHistory x.config x.before x.opened).isAbandoned_eq
  | succ n ih => exact (Reading.change_perform ih (x.events n)).isAbandoned_eq.trans ih

/-- The watch is over a stream of the same generation all along. -/
theorem generation_watch (n : Nat) : (x.state n).watch.generation = x.generation := by
  induction n with
  | zero => rfl
  | succ n ih => exact (Reading.generation_perform _ (x.events n)).trans ih

/-- **The reader gets what the source gives.** -/
theorem received_eq (n : Nat) : (x.state n).received = x.polledBefore n := by
  induction n with
  | zero => rfl
  | succ n ih =>
    rw [polledBefore, List.range_succ, List.filterMap_append, ← polledBefore, ← ih]
    refine (Reading.received_perform _ (x.events n)).trans (congrArg _ ?_)
    cases h : (x.events n).polled? <;> simp [h]

/-- **A watch knows whether the source has failed before.** -/
theorem hasSeenFailure_iff (n : Nat) :
    (x.state n).watch.hasSeenFailure = true ↔ ∃ k < n, (x.events k).failure? ≠ none := by
  induction n with
  | zero => exact iff_of_false Bool.false_ne_true fun ⟨_, hk, _⟩ => Nat.not_lt_zero _ hk
  | succ n ih =>
    rw [state, Reading.hasSeenFailure_perform, Bool.or_eq_true, ih, Option.isSome_iff_ne_none,
      Nat.exists_lt_succ_right]

variable {x} {m n : Nat} {status : Status}

/-! ### The first failure -/

/-- No source fails for the first time at two instants. -/
theorem FailsFirst.instant_eq {status' : Status} (hm : x.FailsFirst m status)
    (hn : x.FailsFirst n status') : m = n := by
  have hlt : ∀ {m n status status'}, x.FailsFirst m status →
      x.FailsFirst n status' → ¬m < n :=
    fun hm hn hmn => Option.some_ne_none _ (hm.fails.symm.trans (hn.first _ hmn))
  exact Nat.le_antisymm (Nat.not_lt.1 (hlt hn hm)) (Nat.not_lt.1 (hlt hm hn))

/-- A source that fails fails for the first time some day. -/
theorem exists_failsFirst (h : ∃ n, (x.events n).failure? ≠ none) :
    ∃ n status, x.FailsFirst n status := by
  obtain ⟨status, hstatus⟩ := Option.ne_none_iff_exists'.1 (Nat.find_spec h)
  exact ⟨Nat.find h, status, hstatus, fun k hk => Decidable.not_not.1 (Nat.find_min h hk)⟩

/-- **What is shown is the first failure of the source**, at the instant it comes. -/
theorem shown_eq_some_iff : x.shown n = some status ↔ x.FailsFirst n status := by
  have hseen := x.hasSeenFailure_iff n
  rw [shown, Reading.shows?_eq]
  cases h : (x.state n).watch.hasSeenFailure with
  | true =>
    obtain ⟨k, hk, hfailed⟩ := hseen.1 h
    exact iff_of_false (by simp) fun hfirst => hfailed (hfirst.first k hk)
  | false =>
    have hnone : ∀ k < n, (x.events k).failure? = none := by
      intro k hk
      by_contra hfailed
      exact Bool.false_ne_true (h.symm.trans (hseen.2 ⟨k, hk, hfailed⟩))
    exact ⟨fun hfails => ⟨hfails, hnone⟩, fun hfirst => hfirst.fails⟩

variable (x) in
/-- **A source that fails is shown once**, and no other is shown at all. -/
theorem exists_failure_iff :
    (∃ n, (x.events n).failure? ≠ none) ↔ ∃! n, x.shown n ≠ none := by
  have hshown : ∀ n, x.shown n ≠ none ↔ ∃ status, x.FailsFirst n status := by
    intro n
    rw [Option.ne_none_iff_exists']
    exact exists_congr fun status => shown_eq_some_iff
  simp only [ExistsUnique, hshown]
  constructor
  · intro h
    obtain ⟨n, status, hfirst⟩ := exists_failsFirst h
    exact ⟨n, ⟨status, hfirst⟩, fun m ⟨status', hfirst'⟩ => hfirst'.instant_eq hfirst⟩
  · rintro ⟨n, ⟨status, hfirst⟩, -⟩
    exact ⟨n, Option.ne_none_iff_exists'.2 ⟨status, hfirst.fails⟩⟩

/-! ### What comes of a question -/

section

variable {polled : StreamPoll α} {now : Instant} {inRuntime : Bool}
  (h : x.events n = .poll polled now inRuntime)

include h

/-- **What comes of a question** is up to what is shown. -/
theorem provider_succ_of_poll : x.provider (n + 1)
    = (x.shown n).elim (x.provider n) fun status =>
      (x.provider n).observe x.generation status now inRuntime := by
  rw [provider, shown, state, h, Reading.provider_perform_poll, generation_watch]

/-- **A question changes the provider** just if it brings the first failure and this is accepted. -/
theorem provider_succ_ne_iff : x.provider (n + 1) ≠ x.provider n
    ↔ ∃ status, x.FailsFirst n status
      ∧ (status.classify = .unavailable ∨ ∃ leader, status.classify = .notLeader leader)
      ∧ (x.provider n).generation = x.generation ∧ (x.provider n).isDisposed = false := by
  rw [provider_succ_of_poll h]
  cases hshown : x.shown n with
  | none =>
    refine iff_of_false (fun h => h rfl) fun ⟨status, hfirst, _⟩ => ?_
    cases hshown.symm.trans (shown_eq_some_iff.2 hfirst)
  | some status =>
    have hfirst : x.FailsFirst n status := shown_eq_some_iff.1 hshown
    rw [Option.elim_some, Provider.observe_ne_iff (x.isAbandoned_provider n),
      FailureClass.ne_other_iff]
    constructor
    · rintro ⟨hd, hg, hclass⟩
      exact ⟨status, hfirst, hclass, hg, hd⟩
    · rintro ⟨status', hfirst', hclass, hg, hd⟩
      cases hfirst.fails.symm.trans hfirst'.fails
      exact ⟨hd, hg, hclass⟩

/-- **The first failure of a source begins a new generation** if it is accepted. -/
theorem provider_succ_of_failsFirst (hfirst : x.FailsFirst n status) {trigger : Trigger}
    (haccepts : (x.provider n).accepts? x.generation status = some trigger) :
    x.provider (n + 1) = (x.provider n).advance now inRuntime trigger := by
  rw [provider_succ_of_poll h, shown_eq_some_iff.2 hfirst, Option.elim_some,
    Provider.observe_of_accepts? (x.isAbandoned_provider n), haccepts, Option.elim_some]

end

end ReadingRun

/-! ## The result -/

/-- **A watched stream reads as its source does**, whatever happens meanwhile, and the provider is
shown its first failure alone. Opening it leaves the provider as it is. At any instant the reader
has received what the source has given so far, and the watch tells whether there was a failure among
it. Something is shown just when the source fails for the first time: never if it does not fail, and
once if it does. A question changes the provider just if it brings the first failure, the status of
this says that the node is unavailable or who leads in its place, the provider is not disposed of,
and its generation is still that of the stream; then a new generation begins, with the trigger that
the status asks for. -/
theorem watched_stream_reads_as_its_source (x : ReadingRun α) :
    (∀ {S : Type} (p : Provider) (stream : S) now inRuntime,
      p.openStream x.generation (.ok stream) now inRuntime = (.ok (stream, (x.state 0).watch), p))
    ∧ (∀ n, (x.state n).received = x.polledBefore n)
    ∧ (∀ n, (x.state n).watch.hasSeenFailure = true
      ↔ ∃ k < n, (x.events k).failure? ≠ none)
    ∧ (∀ n status, x.shown n = some status ↔ x.FailsFirst n status)
    ∧ ((∃ n, (x.events n).failure? ≠ none) ↔ ∃! n, x.shown n ≠ none)
    ∧ ∀ n polled now inRuntime, x.events n = .poll polled now inRuntime →
      (x.provider (n + 1) = (x.shown n).elim (x.provider n) fun status =>
        (x.provider n).observe x.generation status now inRuntime)
      ∧ (x.provider (n + 1) ≠ x.provider n ↔ ∃ status, x.FailsFirst n status
        ∧ (status.classify = .unavailable ∨ ∃ leader, status.classify = .notLeader leader)
        ∧ (x.provider n).generation = x.generation ∧ (x.provider n).isDisposed = false)
      ∧ ∀ status, x.FailsFirst n status → (x.provider n).generation = x.generation →
        (x.provider n).isDisposed = false → ∀ trigger,
        Provider.triggerOf status.classify = some trigger →
        x.provider (n + 1) = (x.provider n).advance now inRuntime trigger :=
  ⟨fun p stream now inRuntime => p.openStream_ok x.generation stream now inRuntime, x.received_eq,
    x.hasSeenFailure_iff, fun _ _ => ReadingRun.shown_eq_some_iff, x.exists_failure_iff,
    fun _ _ _ _ h => ⟨ReadingRun.provider_succ_of_poll h, ReadingRun.provider_succ_ne_iff h,
      fun _ hfirst hg hd _ htrigger => ReadingRun.provider_succ_of_failsFirst h hfirst
        (Provider.accepts?_eq_some.2 ⟨hd, hg, htrigger⟩)⟩⟩

end ClusterLink
