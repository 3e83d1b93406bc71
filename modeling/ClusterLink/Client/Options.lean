import ClusterLink.Node.Selection
import ClusterLink.Resolver.Settings

/-!
# Configuration of a client

A client is configured by options, each of which may be left unset (`ClientOptions`). Building a
configuration (`ClientOptions.build`) reads the addresses, puts in the defaults and checks the
result; the first flaw in a fixed order is reported. A configuration names either gossip seeds, from
which the cluster is discovered, or a single node.
-/

namespace ClusterLink

/-- How a client finds its nodes. -/
inductive Topology where
  | cluster (seeds : List EndPoint)
  | single (node : EndPoint)
  deriving DecidableEq, Repr, Inhabited

/-- **The configuration of a client.** -/
structure ClientConfig where
  topology : Topology
  resolver : ResolverSettings
  selector : NodeSelector
  reconnectBackoff : BackoffConfig
  connectTimeout : Duration
  keepAliveInterval : Duration
  keepAliveTimeout : Duration
  /-- How long a node may take to tell its capabilities; `none` if it is not asked. -/
  negotiationTimeout : Option Duration
  tls : Bool

/-! ## Options -/

/-- **The options of a client**, as far as they are set. -/
structure ClientOptions where
  gossipSeeds : List String := []
  singleNode : Option String := none
  gossipTimeout : Option Duration := none
  discoveryInterval : Option Duration := none
  maxAttempts : Option Nat := none
  preference : NodePreference := .standard
  randomizeTies : Bool := false
  discoveryBackoff : Option BackoffConfig := none
  reconnectBackoff : Option BackoffConfig := none
  connectTimeout : Option Duration := none
  /-- The interval and the timeout of keep-alive messages. -/
  keepAlive : Option (Duration × Duration) := none
  negotiate : Option Bool := none
  negotiationTimeout : Option Duration := none
  tls : Bool := false

instance : Inhabited ClientOptions := ⟨{}⟩

namespace ClientOptions

/-- How long a connection may take to be made, unless another time is set. -/
def defaultConnectTimeout : Duration := Duration.ofMillis 5000

/-- The interval and the timeout of keep-alive messages, unless others are set. -/
def defaultKeepAlive : Duration × Duration := (Duration.ofMillis 10000, Duration.ofMillis 10000)

/-- How long a node may take to tell its capabilities, unless another time is set. -/
def defaultNegotiationTimeout : Duration := Duration.ofMillis 5000

/-- Replaces the seeds. -/
def withSeeds (o : ClientOptions) (seeds : List String) : ClientOptions :=
  { o with gossipSeeds := seeds }

/-- Adds a seed after the others. -/
def addSeed (o : ClientOptions) (seed : String) : ClientOptions :=
  { o with gossipSeeds := o.gossipSeeds ++ [seed] }

/-- **What can be set**, one thing at a time. -/
inductive Setting where
  | seeds (seeds : List String)
  | seed (seed : String)
  | singleNode (node : String)
  | gossipTimeout (timeout : Duration)
  | discoveryInterval (interval : Duration)
  | maxAttempts (attempts : Nat)
  | preference (preference : NodePreference)
  | randomizeTies (isEnabled : Bool)
  | discoveryBackoff (backoff : BackoffConfig)
  | reconnectBackoff (backoff : BackoffConfig)
  | connectTimeout (timeout : Duration)
  | keepAlive (interval timeout : Duration)
  | negotiate (isEnabled : Bool)
  | negotiationTimeout (timeout : Duration)
  | tls

/-- The options with one more thing set. -/
def set (o : ClientOptions) : Setting → ClientOptions
  | .seeds seeds => o.withSeeds seeds
  | .seed seed => o.addSeed seed
  | .singleNode node => { o with singleNode := some node }
  | .gossipTimeout timeout => { o with gossipTimeout := some timeout }
  | .discoveryInterval interval => { o with discoveryInterval := some interval }
  | .maxAttempts attempts => { o with maxAttempts := some attempts }
  | .preference preference => { o with preference := preference }
  | .randomizeTies isEnabled => { o with randomizeTies := isEnabled }
  | .discoveryBackoff backoff => { o with discoveryBackoff := some backoff }
  | .reconnectBackoff backoff => { o with reconnectBackoff := some backoff }
  | .connectTimeout timeout => { o with connectTimeout := some timeout }
  | .keepAlive interval timeout => { o with keepAlive := some (interval, timeout) }
  | .negotiate isEnabled => { o with negotiate := some isEnabled }
  | .negotiationTimeout timeout => { o with negotiationTimeout := some timeout }
  | .tls => { o with tls := true }

/-- **The options as they are set**, from the first setting to the last. -/
def ofSettings (settings : List Setting) : ClientOptions := settings.foldl set {}

/-- Reads where the client looks for nodes: seeds or a single node, but not both. -/
def topology (o : ClientOptions) : Except Error Topology :=
  match o.gossipSeeds, o.singleNode with
  | [], none => .error (.config "either gossip seeds or a single node is required")
  | [], some node => (EndPoint.ofText node).map .single
  | seeds, none => (seeds.mapM EndPoint.ofText).map .cluster
  | _, some _ => .error (.config "gossip seeds and a single node are mutually exclusive")

/-- The resolver settings, defaults put in. -/
def resolverSettings (o : ClientOptions) : ResolverSettings where
  gossipTimeout := o.gossipTimeout.getD ({} : ResolverSettings).gossipTimeout
  maxAttempts := o.maxAttempts.getD ({} : ResolverSettings).maxAttempts
  backoff := o.discoveryBackoff.getD {}
  interval := o.discoveryInterval

/-- Fails with a configuration error unless the condition holds. -/
def require (condition : Bool) (message : String) : Except Error Unit :=
  if condition then .ok () else .error (.config message)

/-- **Builds the configuration.** -/
def build (o : ClientOptions) : Except Error ClientConfig := do
  let topology ← o.topology
  let settings := o.resolverSettings
  require (!settings.gossipTimeout.isZero) "gossip_timeout cannot be zero"
  require (!settings.interval.any Duration.isZero) "discovery_interval cannot be zero"
  require (settings.maxAttempts != 0) "max_discover_attempts must be at least 1"
  settings.backoff.validate
  let reconnectBackoff := o.reconnectBackoff.getD {}
  reconnectBackoff.validate
  let connectTimeout := o.connectTimeout.getD defaultConnectTimeout
  require (!connectTimeout.isZero) "connect_timeout cannot be zero"
  let keepAlive := o.keepAlive.getD defaultKeepAlive
  require (!keepAlive.1.isZero && !keepAlive.2.isZero)
    "keep-alive interval and timeout cannot be zero"
  let negotiationTimeout := o.negotiationTimeout.getD defaultNegotiationTimeout
  require (!negotiationTimeout.isZero) "negotiation_timeout cannot be zero"
  return {
    topology := topology
    resolver := settings
    selector := ⟨o.preference, o.randomizeTies⟩
    reconnectBackoff := reconnectBackoff
    connectTimeout := connectTimeout
    keepAliveInterval := keepAlive.1
    keepAliveTimeout := keepAlive.2
    negotiationTimeout := if o.negotiate.getD true then some negotiationTimeout else none
    tls := o.tls }

end ClientOptions

end ClusterLink
