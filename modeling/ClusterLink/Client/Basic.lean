import ClusterLink.Client.Attempt
import ClusterLink.Client.Options
import ClusterLink.Provider.Caller
import ClusterLink.Resolver.Refresh
import ClusterLink.Resolver.Steps

/-!
# The client

A client wires the parts together: the cache, the resolver of a cluster, and the provider, whose
runs connect to the cluster. It hands out the provider's connection, resets it on request, and shuts
everything down. Once it is shut down it stays so: callers are turned away, requests to reconnect do
nothing, and the cache is empty.

A run of the provider works in steps (`Client.stepRun`). When its attempt to connect is over, the
run ends with that result.
-/

namespace ClusterLink

/-- **A client of a cluster or of a single node.** -/
structure Client where
  settings : ConnectSettings
  site : Site := {}
  provider : Provider
  /-- How far the runs of the provider have come, in order; one without an entry has not begun. -/
  attempts : List ConnectPhase := []
  isShutDown : Bool := false

namespace Client

/-- The reason for turning callers away after the client was shut down. -/
def disposedError : Error := .disposed .clusterClient

/-- How a client with the given configuration connects. -/
def settingsOf (config : ClientConfig) : ConnectSettings where
  mode := match config.topology with
    | .single node => .single node
    | .cluster _ => .gossip
  selector := config.selector
  negotiationTimeout := config.negotiationTimeout

/-- **Makes a client.** The seeds of a cluster are cached, and the refresh in the background
starts if it has an interval. -/
def new (config : ClientConfig) (factory : ChannelFactory) : Except Error Client :=
  let cache : Cache := { channels := { factory := factory } }
  let client (site : Site) : Client :=
    { settings := settingsOf config, site := site, provider := .new config.reconnectBackoff }
  match config.topology with
  | .single _ => .ok (client { cache := cache })
  | .cluster seeds =>
    match Resolver.new seeds config.resolver cache with
    | (.error error, _) => .error error
    | (.ok resolver, cache) =>
      .ok (client { cache := cache, resolver := some resolver.startRefresh.2 })

/-! ## For callers -/

/-- **A caller asks for the connection**, and may bring a token of its own: how the call begins. -/
def connectionInfo (c : Client) (isCancelled : Bool) : CallPhase :=
  if c.isShutDown then .done (.error disposedError)
  else if isCancelled then .done (.error .cancelled)
  else .asking

/-- **Asks for a new connection** and does not wait for it. -/
def triggerReconnect (c : Client) (leader : Option EndPoint) (now : Instant) (inRuntime : Bool) :
    Client :=
  if c.isShutDown then c
  else { c with provider := c.provider.reset now inRuntime (.ofLeader? leader) }

/-- A caller asks for a new connection, and then for the connection: how the call begins. -/
def forceReconnect (c : Client) (leader : Option EndPoint) : CallPhase :=
  if c.isShutDown then .done (.error disposedError) else .forcing (.ofLeader? leader)

/-- **Shuts the client down.** Nothing is done if that was done before, or if somebody else has
begun it. The resolver, the provider and the cache go down one after another, in one step here;
others that come in between find the parts that are left still up. -/
def shutdown (c : Client) : Client :=
  if c.isShutDown then c
  else
    { c with
      isShutDown := true
      site := c.site.shutdown
      provider := c.provider.dispose }

/-! ## Runs -/

/-- How far a run has come in connecting. -/
def attempt (c : Client) (run : Nat) : ConnectPhase := c.attempts.getD run .waiting

/-- Records how far a run has come in connecting. -/
def setAttempt (c : Client) (run : Nat) (phase : ConnectPhase) : Client :=
  let padding := List.replicate (run + 1 - c.attempts.length) ConnectPhase.waiting
  { c with attempts := (c.attempts ++ padding).set run phase }

/-- Ends a run whose attempt to connect is over. -/
def settleRun (c : Client) (run : Nat) (now : Instant) (draw : Float) : Client :=
  match c.attempt run with
  | .ended result => { c with provider := c.provider.finish run result now draw }
  | .brokenDown => { c with provider := c.provider.breakDown run }
  | _ => c

/-- **One step of a run**, which has not ended. -/
def stepRun (c : Client) (run : Nat) (shuffle : List Member → List Member) (now : Instant)
    (draw : Float) : ConnectNext × Client :=
  match c.provider.runs[run]? with
  | none => (.idle, c)
  | some r =>
    let (next, phase, site) :=
      (c.attempt run).step c.settings r.trigger (c.provider.isRunCancelled run) shuffle c.site
    (next, ({ c with site := site }.setAttempt run phase).settleRun run now draw)

/-- **A run learns what its node can do**; `none` if the answer did not come in time. -/
def takeIn (c : Client) (run : Nat) (answer : Option (Except Status MethodTable)) (now : Instant)
    (draw : Float) : Client :=
  (c.setAttempt run ((c.attempt run).takeIn answer)).settleRun run now draw

end Client

end ClusterLink
