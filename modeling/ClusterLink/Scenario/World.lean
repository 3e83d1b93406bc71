import ClusterLink.Client.Basic
import ClusterLink.Provider.Watch
import ClusterLink.Resolver.Inquiry
import ClusterLink.Scenario.Script

/-!
# The scripted world

A scenario runs the parts of a client in a world of scripted nodes and virtual time. What goes on in
it are *jobs*: resolutions, runs, the refresh in the background, and callers that wait. A job works
until it has to wait; a job that can go on again is put at the end of a queue. Time stands still
while a job can go on, and then jumps to the next moment that a job waits for.

Timers go by the virtual time. The parts themselves read a clock, which is set to the virtual time
whenever a scenario takes a step, a scripted call is made or answered, or something is reported, and
stands still in between.
-/

namespace ClusterLink.Scenario

/-! ## Callers -/

/-- What a caller asks for. -/
inductive Request where
  | refresh
  | current
  | force (trigger : Trigger)
  | info
  | forceReconnect (leader : Option EndPoint)
  | connect (trigger : Trigger)

/-- What a caller gets. -/
inductive Answer where
  | resolution (r : Resolution)
  | connection (c : Connection)
  | link (l : Link)
  | error (e : Error)

/-- The answer to a request for the connection. -/
def Answer.ofConnection : Except Error Connection → Answer
  | .ok c => .connection c
  | .error e => .error e

/-- The answer to a request for a resolution. -/
def Answer.ofResolution : Except Error Resolution → Answer
  | .ok r => .resolution r
  | .error e => .error e

/-- How far a caller has come. -/
inductive WaiterPhase where
  | fresh
  | refreshing (call : RefreshCall)
  | calling (call : CallPhase)
  | connecting (phase : ConnectPhase)
  | done (answer : Answer)
  /-- It was made to give up. -/
  | gone
  /-- It broke down. -/
  | brokenDown

/-- **A caller that waits.** -/
structure Waiter where
  request : Request
  /-- Whether the token of the caller is cancelled; `none` if it has no token. -/
  token : Option Bool := none
  phase : WaiterPhase := .fresh

/-- Whether the caller has been told to stop. -/
def Waiter.isCancelled (w : Waiter) : Bool := w.token == some true

/-- The answer that the caller has got. -/
def Waiter.answer? (w : Waiter) : Option Answer :=
  match w.phase with
  | .done answer => some answer
  | _ => none

/-- Whether the caller still waits. -/
def Waiter.isLive (w : Waiter) : Bool :=
  match w.phase with
  | .done _ | .gone | .brokenDown => false
  | _ => true

/-! ## Jobs -/

/-- What a job works on. -/
inductive JobKind where
  | resolution (id : Nat)
  | run (run : Nat)
  | refresher
  | waiter (index : Nat)
  deriving DecidableEq, Repr

/-- What a job waits for, apart from other jobs. Times are in milliseconds. -/
inductive Pending where
  | nothing
  | gossip (inquiry : Inquiry GossipReply)
  /-- What comes of a question about capabilities: the reply, or the end of the time for it. -/
  | features (comesAt : Nat) (reply : Except Status MethodTable) (deadline : Nat)
  | pause (wakesAt : Nat)

/-- **A job.** -/
structure Job where
  kind : JobKind
  pending : Pending := .nothing

/-- When the job wants to be woken. -/
def Pending.times : Pending → List Nat
  | .nothing => []
  | .gossip inquiry => [inquiry.endsAt]
  | .features comesAt _ deadline => [comesAt, deadline]
  | .pause wakesAt => [wakesAt]

/-! ## The world -/

/-- **The scripted world.** -/
structure World where
  client : Client
  nodes : List NodeScript := []
  /-- The scripts of the runs; `none` if the runs connect to the cluster. -/
  runScripts : Option (List RunScript) := none
  /-- What is on record about scripted runs. -/
  records : List RunRecord := []
  /-- Whether member tables are asked for by calls that carry their deadline. -/
  isRemote : Bool := false
  /-- The virtual time, in milliseconds. -/
  now : Nat := 0
  /-- The time that the parts read, in milliseconds. -/
  clock : Nat := 0
  /-- Whether reports are taken. -/
  isMeasured : Bool := true
  /-- The jobs, in the order in which they began to wait. -/
  jobs : List Job := []
  /-- The jobs that can go on, in order. -/
  queue : List JobKind := []
  waiters : List Waiter := []
  /-- How many runs and resolutions have a job already. -/
  knownRuns : Nat := 0
  knownResolutions : Nat := 0
  hasRefresher : Bool := false
  /-- How many questions about capabilities were asked. -/
  featureCalls : Nat := 0
  /-- Whether there is a client, and not only some of its parts. -/
  hasClient : Bool := false
  /-- Whether the scenario itself still owns the client. -/
  ownsClient : Bool := true
  /-- Whether the scenario itself still owns the provider. -/
  ownsProvider : Bool := true

namespace World

/-- The instant of the virtual time. -/
def virtualInstant (w : World) : Instant := w.now * nanosPerMilli

/-- The instant that the clock shows. -/
def instant (w : World) : Instant := w.clock * nanosPerMilli

/-- The instant that the clock shows to a run that has just reported its end. -/
def reportInstant (w : World) : Instant := if w.isMeasured then w.virtualInstant else w.instant

/-- Sets the clock. -/
def sync (w : World) : World := { w with clock := w.now }

/-- When a timer goes off that is set now. -/
def timer (w : World) (d : Duration) : Nat := w.now + timerMillis d

/-- When a timer goes off that is set now to an instant. -/
def alarm (w : World) (due : Instant) : Nat :=
  min ((due + (nanosPerMilli - 1)) / nanosPerMilli) (w.now + longestTimer)

/-- Where in its range a random number lies. -/
def draw : Float := 0.5

def provider (w : World) : Provider := w.client.provider

def setProvider (w : World) (p : Provider) : World :=
  { w with client := { w.client with provider := p } }

def site (w : World) : Site := w.client.site

def setSite (w : World) (s : Site) : World := { w with client := { w.client with site := s } }

def setCache (w : World) (c : Cache) : World := w.setSite { w.site with cache := c }

def setResolver (w : World) (r : Resolver) : World := w.setSite { w.site with resolver := some r }

/-- Changes a caller. -/
def setWaiter (w : World) (index : Nat) (phase : WaiterPhase) : World :=
  { w with waiters := w.waiters.modify index fun x => { x with phase := phase } }

/-- Records how far a caller of the resolver has come. -/
def setRefreshCall (w : World) (index : Nat) : RefreshCall → World
  | .done result => w.setWaiter index (.done (.ofResolution result))
  | .gone => w.setWaiter index .gone
  | call => w.setWaiter index (.refreshing call)

/-- Records how far a caller of the provider has come. -/
def setCall (w : World) (index : Nat) : CallPhase → World
  | .done result => w.setWaiter index (.done (.ofConnection result))
  | .brokenDown => w.setWaiter index .brokenDown
  | .gone => w.setWaiter index .gone
  | call => w.setWaiter index (.calling call)

/-- How many reports have been made. -/
def reportCount (w : World) : Nat :=
  w.site.cache.log.length + (w.site.resolver.map (·.log.length)).getD 0 + w.provider.log.length

/-- Sets the clock if there are more reports than before. -/
def noteReports (w : World) (before : Nat) : World :=
  if w.isMeasured && before < w.reportCount then w.sync else w

/-! ## New jobs -/

/-- Adds a job, which can go on at once. -/
def addJob (w : World) (kind : JobKind) : World :=
  { w with jobs := w.jobs ++ [{ kind := kind }] }

/-- The numbers from `first` up to but not including `last`. -/
def numbersFrom (first last : Nat) : List Nat := (List.range (last - first)).map (first + ·)

/-- Adds jobs for the runs, the resolutions and the refresh that were started. -/
def addStarted (w : World) : World :=
  let w := (numbersFrom w.knownRuns w.provider.runs.length).foldl (fun w k => w.addJob (.run k)) w
  let w := { w with knownRuns := w.provider.runs.length }
  match w.site.resolver with
  | none => w
  | some r =>
    let w := (numbersFrom w.knownResolutions r.tasks.length).foldl
      (fun w k => w.addJob (.resolution k)) w
    let w := { w with knownResolutions := r.tasks.length }
    if r.refresh.isStarting && !w.hasRefresher then
      { w.addJob .refresher with hasRefresher := true }
    else w

/-- Adds a caller and its job. The answer is its place. -/
def addWaiter (w : World) (waiter : Waiter) : Nat × World :=
  (w.waiters.length, { w with waiters := w.waiters ++ [waiter] }.addJob (.waiter w.waiters.length))

/-! ## Owners -/

/-- Whether a request keeps the client in use. -/
def usesClient : Request → Bool
  | .info | .forceReconnect _ => true
  | _ => false

/-- Whether a request keeps the provider in use. -/
def usesProvider : Request → Bool
  | .current | .force _ => true
  | _ => false

/-- Whether anyone still owns the client. -/
def isClientOwned (w : World) : Bool :=
  w.hasClient && (w.ownsClient || w.waiters.any fun x => x.isLive && usesClient x.request)

/-- Whether anyone still owns the provider. -/
def isProviderOwned (w : World) : Bool :=
  w.ownsProvider || w.isClientOwned || w.waiters.any fun x => x.isLive && usesProvider x.request

end World

end ClusterLink.Scenario
