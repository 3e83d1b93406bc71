import ClusterLink.Client.Description
import ClusterLink.Scenario.Schedule
import ClusterLink.Scenario.Step

/-!
# Sessions

A session takes one step after another in a scripted world, and reports on the parts after each of
them. Before the next step everything that can happen at that moment has happened.

What a session shows is numbered: connections in the order in which they are first seen, and
connections handed out to callers in the order in which they are returned.
-/

namespace ClusterLink.Scenario

/-- **A session.** -/
structure Session where
  kind : SessionKind
  world : World
  config : Option ClientConfig := none
  handles : List Handle := []
  /-- Connections that the session itself closed. -/
  closed : List Handle := []
  infos : List Connection := []
  tasks : List (String × Nat) := []
  /-- The callers whose token has a name. -/
  tokens : List (String × Nat) := []
  /-- The reports of the world up to the last step. -/
  events : List Metric := []
  /-- Whether a caller broke down that the session waited for. -/
  isBroken : Bool := false

namespace Session

/-! ## Numbers -/

/-- The number of a connection, which is a new one if it was not seen before. -/
def numberOf (s : Session) (h : Handle) : Nat × Session :=
  match s.handles.idxOf? h with
  | some n => (n, s)
  | none => (s.handles.length, { s with handles := s.handles ++ [h] })

/-- Shows a connection that was handed out. -/
def showConnection (s : Session) (c : Connection) : Outcome × Session :=
  let (n, s) := s.numberOf c.handle
  (.connection s.infos.length n c, { s with infos := s.infos ++ [c] })

/-- Shows what a caller got. -/
def showAnswer (s : Session) : Answer → Outcome × Session
  | .resolution r => (.resolution r, s)
  | .connection c => s.showConnection c
  | .link l =>
    let (n, s) := s.numberOf l.handle
    (.link n l, s)
  | .error e => (.error e, s)

/-- Numbers the connections of a snapshot in order. -/
def numberAll (s : Session) :
    List (EndPoint × Handle) → List (EndPoint × EndPoint × Nat) × Session
  | [] => ([], s)
  | (e, h) :: rest =>
    let (n, s) := s.numberOf h
    let (rows, s) := s.numberAll rest
    ((e, h.endpoint, n) :: rows, s)

/-! ## Parts within reach -/

/-- Whether the session has a provider and still owns it. -/
def holdsProvider (s : Session) : Bool :=
  (s.kind = .provider || s.kind = .client) && s.world.ownsProvider

/-- Whether the session has a client and still owns it. -/
def holdsClient (s : Session) : Bool := s.world.hasClient && s.world.ownsClient

/-- Whether the part that a step acts on is there. A request to a part that is gone would never
be answered, so it is not made. -/
def reaches (s : Session) : Step → Bool
  | .request .current _ _ | .request (.force _) _ _ => s.holdsProvider
  | .reset .. | .disposeProvider | .describe .provider => s.holdsProvider
  | .request .info _ _ | .request (.forceReconnect _) _ _ => s.holdsClient
  | .triggerReconnect _ | .shutdown => s.holdsClient
  | .request .refresh _ _ => s.world.site.resolver.isSome
  | _ => true

/-! ## Reports -/

/-- Sorts texts by their characters. -/
def sortTexts (ss : List String) : List String := ss.mergeSort fun a b => decide (a ≤ b)

/-- Takes the reports that the parts have made out of the world. -/
def takeEvents (s : Session) : List Metric × Session :=
  let w := s.world
  let resolverLog := (w.site.resolver.map (·.log)).getD []
  let site : Site :=
    { cache := { w.site.cache with log := [] }
      resolver := w.site.resolver.map fun r => { r with log := [] } }
  (w.site.cache.log ++ resolverLog ++ w.provider.log,
    { s with world := (w.setSite site).setProvider { w.provider with log := [] } })

/-- Whether a connection is closed. -/
def isClosed (s : Session) (h : Handle) : Bool :=
  s.world.site.cache.isClosed h || s.closed.contains h

/-- What is shown of the cache. -/
def cacheView (s : Session) : Option (Option (List String)) :=
  let cache := s.world.site.cache
  if s.kind = .provider then none
  else if cache.isDisposed then some none
  else some (some (sortTexts (cache.endpoints.map (·.display))))

/-- What is shown of the scripted runs. -/
def runViews (s : Session) : List RunView :=
  let p := s.world.provider
  p.runs.zipIdx.map fun (r, k) =>
    ⟨r.trigger, s.world.records.getD k .running, p.isRunCancelled k⟩

/-- Whether a caller in the background is over. -/
def isTaskOver (s : Session) (index : Nat) : Bool :=
  !(s.world.waiters[index]?.any Waiter.isLive)

/-- **Reports on the parts**, after a step that gave the outcome. -/
def report (s : Session) (outcome : Outcome) : Report × Session :=
  let (events, s) := s.takeEvents
  let w := s.world
  ({ outcome := outcome
     time := w.now
     events := if w.isMeasured then sortTexts (events.map Metric.line) else []
     tasks := (s.tasks.mergeSort fun a b => decide (a.1 ≤ b.1)).map fun t =>
       (t.1, s.isTaskOver t.2)
     closed := s.handles.map s.isClosed
     cache := s.cacheView
     resolver := w.site.resolver.map fun r => (r.isResolving, r.lastResult)
     provider := if s.holdsProvider then some w.provider else none
     runs := if s.kind = .provider then some s.runViews else none
     shutdown := if s.holdsClient then some w.client.isShutDown else none
     featureCalls := w.featureCalls }, s)

/-! ## Steps -/

/-- Changes the world. -/
def mapWorld (s : Session) (f : World → World) : Session := { s with world := f s.world }

/-- Changes the world and lets it settle; the step gives nothing to show. -/
def act (s : Session) (f : World → World) : Outcome × Session :=
  (.done, s.mapWorld fun w => (f w).settle)

/-- Changes the cache. -/
def withCache {α : Type} (s : Session) (f : Cache → α × Cache)
    (view : α → Session → Outcome × Session) :
    Outcome × Session :=
  let (answer, cache) := f s.world.site.cache
  view answer (s.mapWorld fun w => (w.setCache cache).settle)

/-- The place of a task in the background. -/
def task? (s : Session) (name : String) : Option Nat := (s.tasks.find? (·.1 == name)).map (·.2)

/-- The place of the caller whose token has a name; the last one that was given it. -/
def token? (s : Session) (name : String) : Option Nat :=
  (s.tokens.find? (·.1 == name)).map (·.2)

/-- Forgets a task in the background. -/
def forget (s : Session) (name : String) : Session :=
  { s with tasks := s.tasks.filter (·.1 != name) }

/-- Lets a caller wait, and shows what it gets. The session breaks down with the caller. -/
def await (s : Session) (index : Nat) : Outcome × Session :=
  let s := s.mapWorld (·.await index)
  match s.world.waiters[index]?.map Waiter.phase with
  | some (.done answer) => s.showAnswer answer
  | some .brokenDown => (.nothing, { s with isBroken := true })
  | _ => (.nothing, s)

/-- A request of the session. -/
def request (s : Session) (r : Request) (token : Option Bool) (task : Option String) :
    Outcome × Session :=
  let (index, w) := s.world.addWaiter { request := r, token := token }
  let s := { s with world := w }
  match task with
  | none => s.await index
  | some name =>
    let others := s.forget name
    let tokens := if token.isSome then (name, index) :: s.tokens else s.tokens
    (.started, { others with tasks := others.tasks ++ [(name, index)], tokens := tokens }.mapWorld
      World.settle)

/-- Cancels the token of a caller. -/
def cancelToken (w : World) (index : Nat) : World :=
  { w with waiters := w.waiters.modify index fun x =>
    { x with token := x.token.map fun _ => true } }

/-- Makes a caller give up; it leaves the resolution that it waits for. -/
def abortWaiter (w : World) (index : Nat) : World :=
  match w.waiters[index]? with
  | none => w
  | some x =>
    let v := match x.phase with
      | .refreshing call => w.setSite (w.site.mapResolver (·.quit call))
      | _ => w
    if x.isLive then v.setWaiter index .gone else w

/-- A connection that was handed out. -/
def info? (s : Session) (n : Nat) : Option Connection := s.infos[n]?

/-- Shows the failure of a call to the provider. -/
def observe (s : Session) (c : Connection) (status : Status) : Session :=
  s.mapWorld fun w => w.setProvider (w.provider.observe c.generation status w.instant true)

/-- Shows what a call was answered with, once the provider has seen the answer. -/
def showCall {α : Type} (s : Session)
    (answered : Except Status α × Provider) : Outcome × Session :=
  let outcome : Outcome := match answered.1 with
    | .ok _ => .passed
    | .error status => .status status
  (outcome, s.mapWorld fun w => (w.setProvider answered.2).settle)

/-- Takes the items of a watched stream, one after the other. -/
def takeItems (s : Session) (watch : StreamWatch) :
    Nat → List (Option Status) →
      List StreamRow × StreamWatch × List (Option Status) × Session
  | 0, items => ([], watch, items, s)
  | _, [] => ([], watch, [], s)
  | take + 1, item :: items =>
    let polled : StreamPoll Unit := match item with
      | none => .item ()
      | some status => .failure status
    let (_, watch, p) := watch.poll s.world.provider polled s.world.instant true
    let s := s.mapWorld (·.setProvider p)
    let row : StreamRow :=
      ⟨items.length + 1, item, watch.hasSeenFailure,
        if s.holdsProvider then some p.generation else none⟩
    let (rows, watch, rest, s) := takeItems s watch take items
    (row :: rows, watch, rest, s)

/-- Reads the member table on a connection, as a call of its own. -/
def gossipVia (s : Session) (c : Connection) : Outcome × Session :=
  let (timed, nodes) := gossipRead s.world.nodes c.handle.endpoint
  let s := s.mapWorld fun w => ({ w with nodes := nodes }.elapse (timerMillis timed.delay)).sync
  let (answer, p) := s.world.provider.call c.generation timed.reply.raw s.world.instant true
  match answer with
  | .ok n => (.members n, s)
  | .error status => (.status status, s.mapWorld fun w => (w.setProvider p).settle)

/-- Describes a part. -/
def describe (s : Session) (subject : Subject) : Outcome :=
  let w := s.world
  match subject with
  | .cache => .text w.site.cache.shape.render
  | .provider => .text w.provider.shape.render
  | .resolver => ((w.site.resolver.map fun r => Outcome.text r.shape.render).getD .unsupported)
  | .client => (s.config.map fun c => Outcome.text (w.client.shape c).render).getD .unsupported
  | .handle n =>
    (s.handles[n]?.map fun h => Outcome.text (h.shape (s.isClosed h)).render).getD .unsupported
  | .watch n =>
    (s.infos[n]?.map fun c =>
      Outcome.text (Connection.watchShape c.generation (!w.provider.isAbandoned)).render).getD
        .unsupported

/-- Shows the resolver, if there is one. -/
def withResolver (s : Session) (view : Resolver → Outcome) : Outcome × Session :=
  ((s.world.site.resolver.map view).getD .unsupported, s)

/-- Shows what was last found. -/
def lastResult (r : Resolver) : Outcome :=
  match r.lastResult with
  | none => .nothing
  | some (.ok resolution) => .resolution resolution
  | some (.error error) => .error error

/-- **Takes a step**, apart from the report. -/
def perform (s : Session) (step : Step) : Outcome × Session :=
  let s := s.mapWorld World.sync
  if !s.reaches step then (.unsupported, s) else
  match step with
  | .setNode change => s.act fun w => { w with nodes := changeScript w.nodes change }
  | .advance d => s.act (·.elapse (timerMillis d))
  | .request r token task => s.request r token task
  | .join name =>
    match s.task? name with
    | none => (.noTask, s)
    | some index => (s.forget name).await index
  | .cancel name =>
    match s.token? name with
    | none => (.done, s)
    | some index => s.act (cancelToken · index)
  | .abort name =>
    match s.task? name with
    | none => (.done, s)
    | some index => (s.forget name).act (abortWaiter · index)
  | .get e =>
    s.withCache (·.getOrCreate e) fun answer s =>
      match answer with
      | .error error => (.error error, s)
      | .ok h =>
        let (n, s) := s.numberOf h
        (.handle n h, s)
  | .reconcile es =>
    s.withCache (·.reconcile es) fun answer s =>
      match answer with
      | .error error => (.error error, s)
      | .ok () => (.done, s)
  | .evict e => s.withCache (·.evict e) fun found s => (.flag found, s)
  | .disposeCache => s.withCache (fun c => ((), c.dispose)) fun () s => (.done, s)
  | .contains e => (.flag (s.world.site.cache.contains e), s)
  | .size => (.size s.world.site.cache.size, s)
  | .snapshot =>
    match s.world.site.cache.snapshot with
    | .error error => (.error error, s)
    | .ok rows =>
      let (rows, s) := s.numberAll (rows.mergeSort fun a b => decide (a.1.display ≤ b.1.display))
      (.snapshot rows, s)
  | .markClosed n => (.done, { s with closed := s.closed ++ s.handles[n]?.toList })
  | .created => (.flags (s.handles.map fun _ => true), s)
  | .lastResult => s.withResolver lastResult
  | .seeds => s.withResolver fun r => .endpoints r.seeds
  | .settings => s.withResolver fun r => .settings r.settings
  | .startRefresh =>
    match s.world.site.resolver with
    | none => (.unsupported, s)
    | some r =>
      (.flag r.startRefresh.1, s.mapWorld fun w => (w.setResolver r.startRefresh.2).settle)
  | .shutdownResolver => s.act fun w => w.setSite (w.site.mapResolver Resolver.shutdown)
  | .mode =>
    match s.world.client.settings.mode, s.world.site.resolver with
    | .single node, _ => (.mode (.inl node), s)
    | .gossip, some r => (.mode (.inr r.seeds.length), s)
    | .gossip, none => (.unsupported, s)
  | .reset leader inRuntime =>
    s.act fun w => w.setProvider (w.provider.reset w.instant inRuntime (.ofLeader? leader))
  | .disposeProvider => s.act fun w => w.setProvider w.provider.dispose
  | .dropProvider => s.act fun w => { w with ownsProvider := false }
  | .dropClient => s.act fun w => { w with ownsClient := false }
  | .observe n status =>
    match s.info? n with
    | none => (.unsupported, s)
    | some c => (.observed status.classify c.generation, (s.observe c status).mapWorld World.settle)
  | .call n failure =>
    match s.info? n with
    | none => (.unsupported, s)
    | some c =>
      let answer : Except Status Unit := failure.elim (.ok ()) .error
      s.showCall (s.world.provider.call c.generation answer s.world.instant true)
  | .gossipVia n =>
    match s.info? n with
    | none => (.unsupported, s)
    | some c => s.gossipVia c
  | .openStream n status =>
    match s.info? n with
    | none => (.unsupported, s)
    | some c =>
      let answer : Except Status Unit := .error status
      s.showCall (s.world.provider.openStream c.generation answer s.world.instant true)
  | .stream n items take describe =>
    match s.info? n with
    | none => (.unsupported, s)
    | some c =>
      let (rows, watch, rest, s) := s.takeItems { generation := c.generation } take items
      let text := if describe then
          some (watch.shape (!s.world.provider.isAbandoned)).render
        else none
      (.stream rows watch.hasSeenFailure rest.length text, s.mapWorld World.settle)
  | .triggerReconnect leader =>
    s.act fun w => { w with client := w.client.triggerReconnect leader w.instant true }
  | .shutdown => s.act fun w => { w with client := w.client.shutdown }
  | .config => ((s.config.map Outcome.config).getD .unsupported, s)
  | .describe subject => (s.describe subject, s)

/-- Takes the steps in turn and reports after each. -/
def performAll (s : Session) : List Step → List Report × Session
  | [] => ([], s)
  | step :: steps =>
    let (outcome, s) := s.perform step
    let (report, s) := s.report outcome
    let (reports, s) := s.performAll steps
    (report :: reports, s)

/-- How a session ends. -/
inductive Ending where
  | reports (rs : List Report)
  /-- A caller broke down. -/
  | broken

/-- **Runs a session** from its start. -/
def run (s : Session) (steps : List Step) : Ending :=
  let (first, s) := (s.mapWorld World.settle).report .init
  let (reports, s) := s.performAll steps
  if s.isBroken then .broken else .reports (first :: reports)

end Session

end ClusterLink.Scenario
