import ClusterLink.Resolver.Basic

/-!
# The steps of a resolution

A resolution goes through its phases one step at a time. What it does on its own is `step`; what
comes of asking a node is handed to `takeIn`. The cache is an argument and a result of each step,
since others use it too.

A step goes from one point at which the resolution waits to the next. So at the end of an attempt
one step looks at the token, changes the cache and publishes the result (`takeIn` with `succeed`,
`failAttempt`), though each of the three locks only what it needs. What another thread may do
between two of them is left out: a resolution that has looked at its token goes through with the
rest, and finds the cache as it was then. The steps of callers are finer (`advanceCall`), as a
resolver may be shut down between two of them.
-/

namespace ClusterLink.Resolver

/-- Records how far a resolution has come. -/
def setPhase (r : Resolver) (id : Nat) (phase : ResolutionPhase) : Resolver :=
  { r with tasks := r.tasks.modify id fun t => { t with phase := phase } }

/-- **Ends a resolution.** It makes room for the next one, and unless it was cancelled its result
is published. -/
def finish (r : Resolver) (id attempts : Nat) (result : Except Error Resolution) (now : Instant) :
    Resolver :=
  match r.tasks[id]? with
  | none => r
  | some task =>
    let r := { r.setPhase id (.ended result) with
      inFlight := if r.inFlight.any (·.id == id) then none else r.inFlight }
    if result matches .error .cancelled then r
    else
      { r with
        lastResult := some result
        log :=
          r.log ++ [Metric.discovery (Duration.between task.started now) attempts result.isOk] }

/-- Begins an attempt: the cached nodes are to be asked in the order that `arrange` gives them. -/
def beginAttempt (r : Resolver) (cache : Cache) (id attempt : Nat)
    (arrange : List Contact → List Contact) (now : Instant) : Resolver :=
  match cache.snapshot with
  | .error error => r.finish id attempt (.error error) now
  | .ok contacts => r.setPhase id (.ready attempt (arrange contacts) [])

/-- Sets the time of the start. -/
def setStarted (r : Resolver) (id : Nat) (now : Instant) : Resolver :=
  { r with tasks := r.tasks.modify id fun t => { t with started := now } }

/-- What is said about an attempt in which no node was asked. -/
def nothingAsked : String := "no endpoints to query"

/-- The summary of a failed attempt. -/
def summary (failures : List String) : String :=
  if failures.isEmpty then nothingAsked else "; ".intercalate failures

/-- The error of a resolution whose last attempt failed. -/
def exhausted (attempts : Nat) (failures : List String) : Error :=
  .unavailable
    ("discovery exhausted after " ++ toString attempts ++ " attempts: " ++ summary failures)

/-- **Ends an attempt in which no node answered well**: the seeds are cached again, and unless it
was the last attempt a delay begins. -/
def failAttempt (r : Resolver) (cache : Cache) (id attempt : Nat) (failures : List String)
    (now : Instant) (draw : Float) : Resolver × Cache :=
  match cache.reconcile r.seeds with
  | (.error error, cache) => (r.finish id attempt (.error error) now, cache)
  | (.ok (), cache) =>
    if attempt < r.settings.maxAttempts then
      match r.tasks[id]? with
      | none => (r, cache)
      | some task =>
        let (delay, backoff) := task.backoff.next draw
        let phase := ResolutionPhase.pausing attempt delay
        ({ r with tasks := r.tasks.modify id fun t =>
            { t with backoff := backoff, phase := phase } }, cache)
    else (r.finish id attempt (.error (exhausted attempt failures)) now, cache)

/-- **Ends an attempt with a member table**: the members are cached, and the resolution is over. -/
def succeed (r : Resolver) (cache : Cache) (id attempt : Nat) (source : EndPoint)
    (members : List Member) (now : Instant) : Resolver × Cache :=
  match cache.reconcile (EndPoint.distinct (members.map (·.endpoint))) with
  | (.error error, cache) => (r.finish id attempt (.error error) now, cache)
  | (.ok (), cache) =>
    match r.tasks[id]? with
    | none => (r, cache)
    | some task =>
      let resolution : Resolution :=
        ⟨members, source, attempt, Duration.between task.started now⟩
      (r.finish id attempt (.ok resolution) now, cache)

/-- What is said about a node that did not answer well. -/
def complaint (asked : EndPoint) (outcome : GossipOutcome) : String :=
  asked.display ++ ": " ++ outcome.complaint?.getD ""

/-- The report that a node was asked. -/
def askedReport (asked : EndPoint) (outcome : GossipOutcome) : Metric :=
  .gossipCall asked.display outcome.label

/-- **Takes in what came of asking a node.** A resolution that was cancelled meanwhile looks at no
answer, and ends. -/
def takeIn (r : Resolver) (cache : Cache) (id : Nat) (outcome : GossipOutcome) (now : Instant) :
    Resolver × Cache :=
  match r.phase? id with
  | some (.asking attempt asked left failures) =>
    if r.isCancelled id then (r.finish id attempt (.error .cancelled) now, cache)
    else
      let r := { r with log := r.log ++ [askedReport asked.1 outcome] }
      match outcome with
      | .success members => r.succeed cache id attempt asked.1 members now
      | other =>
        (r.setPhase id (.ready attempt left (failures ++ [complaint asked.1 other])), cache)
  | _ => (r, cache)

/-- What a resolution does next on its own. -/
inductive Next where
  /-- Nothing: it waits, or it is over. -/
  | idle
  /-- It has changed. -/
  | moved
  /-- It has asked a node, and waits for the answer. -/
  | asked (contact : Contact)

/-- **One step of a resolution.** `resumed` tells whether the delay it waits for has passed. -/
def step (r : Resolver) (cache : Cache) (id : Nat) (resumed : Bool)
    (arrange : List Contact → List Contact) (now : Instant) (draw : Float) :
    Next × Resolver × Cache :=
  match r.phase? id with
  | some .waiting =>
    (.moved, (r.setStarted id now).beginAttempt cache id 1 arrange now, cache)
  | some (.ready attempt [] failures) =>
    (.moved, r.failAttempt cache id attempt failures now draw)
  | some (.ready attempt (contact :: left) failures) =>
    if r.isCancelled id then (.moved, r.finish id attempt (.error .cancelled) now, cache)
    else (.asked contact, r.setPhase id (.asking attempt contact left failures), cache)
  | some (.asking attempt _ _ _) =>
    if r.isCancelled id then (.moved, r.finish id attempt (.error .cancelled) now, cache)
    else (.idle, r, cache)
  | some (.pausing attempt _) =>
    if r.isCancelled id then (.moved, r.finish id attempt (.error .cancelled) now, cache)
    else if resumed then (.moved, r.beginAttempt cache id (attempt + 1) arrange now, cache)
    else (.idle, r, cache)
  | _ => (.idle, r, cache)

/-- The task of a resolution breaks down over the node that it asks. Nothing is published. A
resolution that was cancelled does not get to that. -/
def breakDown (r : Resolver) (id : Nat) : Resolver :=
  match r.phase? id with
  | some (.asking ..) => if r.isCancelled id then r else r.setPhase id .brokenDown
  | _ => r

end ClusterLink.Resolver
