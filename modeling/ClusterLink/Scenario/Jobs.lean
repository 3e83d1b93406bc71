import ClusterLink.Scenario.World

/-!
# The steps of jobs

`World.stepJob` lets one job take one step. A resolution asks nodes, a run connects or follows its
script, the refresh in the background waits for its ticks, and a caller waits for what it asked for.
-/

namespace ClusterLink.Scenario.World

/-! ## Resolutions -/

/-- Asks the node of a contact. The clock is set when the call is made. The resolution breaks down
if the call has to carry its deadline and cannot. -/
def askMembers (w : World) (r : Resolver) (id : Nat) (node : EndPoint) : Pending × World :=
  let timeout := r.settings.gossipTimeout
  match if w.isRemote then Wire.carriedDeadline? timeout else some timeout with
  | none => (.nothing, w.setResolver (r.breakDown id))
  | some carried =>
    let (timed, nodes) := gossipRead w.nodes node
    let timed := timed.cutOff carried timeout
    (.gossip ⟨some (w.timer timed.delay, timed.reply), w.timer timeout⟩,
      { w.sync with nodes := nodes })

/-- Gives a resolution the outcome of its question. -/
def giveOutcome (w : World) (id : Nat) (outcome : GossipOutcome) : World :=
  w.setSite (w.site.takeIn id outcome w.instant)

/-- Lets a resolution take a step that needs nothing from outside. -/
def stepFreely (w : World) (id : Nat) (resumed : Bool) : Option (Pending × World) :=
  let (next, site) := w.site.stepResolution id resumed (fun contacts => contacts) w.instant draw
  let v := w.setSite site
  match next with
  | .idle => none
  | .moved => some (.nothing, v)
  | .asked contact => site.resolver.map (v.askMembers · id contact.2.endpoint)

/-- **One step of a resolution.** -/
def stepResolution (w : World) (id : Nat) (pending : Pending) : Option (Pending × World) :=
  match w.site.resolver with
  | none => none
  | some r =>
    match r.phase? id, r.isCancelled id, pending with
    | some (.asking ..), false, .gossip inquiry =>
      (inquiry.poll w.now).map fun
        | none => (.nothing, w.giveOutcome id (.ofReply none))
        | some reply =>
          match reply.answer? r.settings.gossipTimeout with
          | none => (.nothing, w.sync.setResolver (r.breakDown id))
          | some answer => (.nothing, w.sync.giveOutcome id (.ofReply (some answer)))
    | some (.pausing _ delay), false, .nothing => some (.pause (w.timer delay), w)
    | some (.pausing ..), false, .pause wakesAt => w.stepFreely id (wakesAt ≤ w.now)
    | _, _, _ => w.stepFreely id false

/-! ## Attempts to connect -/

/-- Asks a node for its capabilities. -/
def askFeatures (w : World) (node : EndPoint) (deadline : Duration) : Pending × World :=
  let timed := featuresCall w.nodes node
  (.features (w.timer timed.delay) timed.reply (w.timer deadline),
    { w.sync with featureCalls := w.featureCalls + 1 })

/-- What has come of a question about capabilities, so far. -/
def featuresAnswer? (w : World) : Pending → Option (Option (Except Status MethodTable))
  | .features comesAt reply deadline =>
    if comesAt ≤ w.now && comesAt < deadline then some (some reply)
    else if deadline ≤ w.now then some none
    else none
  | _ => none

/-- One step of a run that connects to the cluster. -/
def stepClusterRun (w : World) (run : Nat) (pending : Pending) : Option (Pending × World) :=
  let cancelled := w.provider.isRunCancelled run
  match w.client.attempt run, cancelled, w.featuresAnswer? pending with
  | .ended _, _, _ | .brokenDown, _, _ => none
  | .negotiating _, false, some answer =>
    let v := if answer.isSome then w.sync else w
    some (.nothing, { v with client := v.client.takeIn run answer v.reportInstant draw })
  | _, _, _ =>
    let (next, client) := w.client.stepRun run (fun ms => ms) w.reportInstant draw
    let v := { w with client := client }
    match next with
    | .idle => none
    | .moved => some (.nothing, v)
    | .asked handle deadline => some (v.askFeatures handle.endpoint deadline)

/-! ## Scripted runs -/

/-- Puts a run on record. -/
def record (w : World) (run : Nat) (r : RunRecord) : World :=
  let padding := List.replicate (run + 1 - w.records.length) RunRecord.running
  { w with records := (w.records ++ padding).set run r }

/-- Ends a scripted run. -/
def endRun (w : World) (run : Nat) (result : Except Error Link) : World :=
  w.setProvider (w.provider.finish run result w.reportInstant draw)

/-- Lets a scripted run do what it does after its delay. -/
def actRun (w : World) (run : Nat) (script : RunScript) (trigger : Trigger) : World :=
  let w := w.sync
  match script.ending with
  | .breakdown => (w.record run .brokenDown).setProvider (w.provider.breakDown run)
  | .failure error => (w.record run .failed).endRun run (.error error)
  | .connect node =>
    match w.site.cache.dial (runTarget node trigger) with
    | (.error error, cache) => (w.setCache cache).endRun run (.error error)
    | (.ok handle, cache) =>
      ((w.setCache cache).record run .ok).endRun run (.ok ⟨handle, script.capabilities⟩)

/-- One step of a scripted run. -/
def stepScriptedRun (w : World) (scripts : List RunScript) (run : Nat) (pending : Pending) :
    Option (Pending × World) :=
  match w.provider.runs[run]? with
  | none => none
  | some r =>
    match r.phase with
    | .working =>
      let script := scripts.getD run {}
      if script.honorsCancel && w.provider.isRunCancelled run then
        some (.nothing, (w.record run .cancelled).endRun run (.error .cancelled))
      else
        match pending with
        | .pause wakesAt =>
          if wakesAt ≤ w.now then some (.nothing, w.actRun run script r.trigger) else none
        | _ =>
          let w := w.record run .running
          if script.delay.isZero then some (.nothing, w.actRun run script r.trigger)
          else some (.pause (w.timer script.delay), w)
    | _ => none

/-- **One step of a run.** -/
def stepRun (w : World) (run : Nat) (pending : Pending) : Option (Pending × World) :=
  match w.runScripts with
  | none => w.stepClusterRun run pending
  | some scripts => w.stepScriptedRun scripts run pending

/-! ## Callers -/

/-- A caller gives up since it was told to. -/
def cancelWaiter (w : World) (index : Nat) : World :=
  w.setWaiter index (.done (.error .cancelled))

/-- The first step of a caller. -/
def beginWaiter (w : World) (index : Nat) (x : Waiter) : World :=
  match x.request with
  | .refresh => w.setRefreshCall index .fresh
  | .current => w.setCall index .asking
  | .force trigger => w.setCall index (.forcing trigger)
  | .info => w.setCall index (w.client.connectionInfo x.isCancelled)
  | .forceReconnect leader => w.setCall index (w.client.forceReconnect leader)
  | .connect _ => w.setWaiter index (.connecting .waiting)

/-- One step of a caller of the resolver. -/
def stepRefreshCall (w : World) (index : Nat) (x : Waiter) (call : RefreshCall) :
    Option (Pending × World) :=
  match w.site.resolver with
  | none => none
  | some r =>
    (r.advanceCall call x.isCancelled).map fun (call, r) =>
      (.nothing, (w.setResolver r).setRefreshCall index call)

/-- One step of a caller of the provider. -/
def stepCall (w : World) (index : Nat) (x : Waiter)
    (call : CallPhase) : Option (Pending × World) :=
  if x.isCancelled then some (.nothing, w.cancelWaiter index)
  else
    match call, w.provider.advanceCall call w.instant draw with
    | .waiting _, (.waiting _, _) => none
    | _, (call, p) => some (.nothing, (w.setProvider p).setCall index call)

/-- One step of a caller that connects by itself. -/
def stepConnecting (w : World) (index : Nat) (x : Waiter) (phase : ConnectPhase)
    (pending : Pending) : Option (Pending × World) :=
  match phase, x.isCancelled, w.featuresAnswer? pending with
  | .ended (.ok link), _, _ => some (.nothing, w.setWaiter index (.done (.link link)))
  | .ended (.error error), _, _ => some (.nothing, w.setWaiter index (.done (.error error)))
  | .brokenDown, _, _ => some (.nothing, w.setWaiter index .brokenDown)
  | .negotiating _, false, some answer =>
    some (.nothing, w.setWaiter index (.connecting (phase.takeIn answer)))
  | _, cancelled, _ =>
    let trigger := match x.request with
      | .connect trigger => trigger
      | _ => .rediscover
    let (next, phase, site) := phase.step w.client.settings trigger cancelled (fun ms => ms) w.site
    let v := (w.setSite site).setWaiter index (.connecting phase)
    match next with
    | .idle => none
    | .moved => some (.nothing, v)
    | .asked handle deadline => some (v.askFeatures handle.endpoint deadline)

/-- **One step of a caller.** -/
def stepWaiter (w : World) (index : Nat) (pending : Pending) : Option (Pending × World) :=
  match w.waiters[index]? with
  | none => none
  | some x =>
    match x.phase with
    | .fresh => some (.nothing, w.beginWaiter index x)
    | .refreshing call => w.stepRefreshCall index x call
    | .calling call => w.stepCall index x call
    | .connecting phase => w.stepConnecting index x phase pending
    | .done _ | .gone | .brokenDown => none

/-! ## The refresh in the background -/

/-- One step of the refresh in the background. A timer that ends early makes its tick come early,
and the ticks after it are due as if it had come in time. -/
def stepRefresher (w : World) (pending : Pending) : Option (Pending × World) :=
  match w.site.resolver.map Resolver.refresh, pending with
  | some (.ticking due), .pause wakesAt =>
    if wakesAt ≤ w.now then
      (w.site.stepRefresh? (max due w.virtualInstant)).map fun site => (.nothing, w.setSite site)
    else none
  | some (.ticking due), _ => some (.pause (w.alarm due), w)
  | _, _ => (w.site.stepRefresh? w.virtualInstant).map fun site => (.nothing, w.setSite site)

/-! ## Jobs -/

/-- **One step of a job**; `none` if it has to wait or is over. -/
def stepJob (w : World) (job : Job) : Option (Pending × World) :=
  match job.kind with
  | .resolution id => w.stepResolution id job.pending
  | .run run => w.stepRun run job.pending
  | .refresher => w.stepRefresher job.pending
  | .waiter index => w.stepWaiter index job.pending

/-- Whether a job is over. -/
def isOver (w : World) : JobKind → Bool
  | .resolution id => (w.site.result? id).isSome
  | .run run =>
    match w.provider.runs[run]? with
    | some { phase := .working, .. } => false
    | _ => true
  | .refresher => !(w.site.resolver.any fun r => !r.refresh.isOff)
  | .waiter index => !(w.waiters[index]?.any Waiter.isLive)

end ClusterLink.Scenario.World
