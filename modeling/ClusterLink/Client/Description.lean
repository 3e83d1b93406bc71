import ClusterLink.Client.Basic
import ClusterLink.Decimal.Shortest
import ClusterLink.Provider.Watch
import ClusterLink.Text.Record

/-!
# Descriptions for logs

The parts of a client can be described in one line, for logs. A description names the kind of thing
and the most telling of its fields; two dots stand for the others.
-/

namespace ClusterLink

open Text (Shape)

def EndPoint.shape (e : EndPoint) : Shape :=
  .record "EndPoint" [("host", .text e.host), ("port", .ofNat e.port.toNat)] false

def Duration.shape (d : Duration) : Shape := .word d.brief

def NodePreference.shape (p : NodePreference) : Shape := .word p.name

def BackoffConfig.shape (c : BackoffConfig) : Shape :=
  .record "BackoffConfig"
    [("initial", c.initial.shape), ("max", c.max.shape),
      ("multiplier", .word (Decimal.brief c.multiplier)),
      ("jitter", .word (Decimal.brief c.jitter))] false

def ResolverSettings.shape (s : ResolverSettings) : Shape :=
  .record "ResolverSettings"
    [("gossip_timeout", s.gossipTimeout.shape), ("max_discover_attempts", .ofNat s.maxAttempts),
      ("backoff", s.backoff.shape),
      ("discovery_interval", .ofOption (s.interval.map (·.shape)))] false

def Topology.shape : Topology → Shape
  | .cluster seeds => .variant "Cluster" (.list (seeds.map (·.shape)))
  | .single node => .variant "SingleNode" node.shape

def ClientOptions.shape (o : ClientOptions) : Shape :=
  .record "ClientConfigBuilder"
    [("gossip_seeds", .list (o.gossipSeeds.map .text)),
      ("single_node", .ofOption (o.singleNode.map .text)),
      ("node_preference", o.preference.shape)] true

def ClientConfig.shape (c : ClientConfig) : Shape :=
  .record "ClientConfig"
    [("topology", c.topology.shape), ("gossip_timeout", c.resolver.gossipTimeout.shape),
      ("discovery_interval", .ofOption (c.resolver.interval.map (·.shape))),
      ("max_discover_attempts", .ofNat c.resolver.maxAttempts),
      ("node_preference", c.selector.preference.shape),
      ("randomize_ties", .ofBool c.selector.randomizeTies),
      ("connect_timeout", c.connectTimeout.shape),
      ("negotiation_timeout", .ofOption (c.negotiationTimeout.map (·.shape))),
      ("tls", .ofBool c.tls)] true

def Handle.shape (h : Handle) (isClosed : Bool) : Shape :=
  .record "ConnectionHandle"
    [("endpoint", h.endpoint.shape), ("tls", .ofBool h.tls), ("closed", .ofBool isClosed)] true

def Cache.shape (c : Cache) : Shape :=
  .record "ConnectionCache"
    [("endpoints", .list (c.endpoints.map (·.shape))), ("disposed", .ofBool c.isDisposed)] true

def Trigger.shape : Trigger → Shape
  | .rediscover => .word "Rediscover"
  | .newLeader leader => .variant "NewLeader" leader.shape

def Provider.shape (p : Provider) : Shape :=
  .record "ConnectionProvider"
    [("generation", .ofNat p.generation), ("trigger", p.trigger.shape),
      ("slot", .text p.slot.name), ("disposed", .ofBool p.isDisposed)] true

def Resolver.shape (r : Resolver) : Shape :=
  .record "GossipResolver"
    [("seeds", .list (r.seeds.map (·.shape))), ("settings", r.settings.shape),
      ("resolving", .ofBool r.isResolving)] true

def Client.shape (c : Client) (config : ClientConfig) : Shape :=
  .record "ClusterClient"
    [("config", config.shape), ("provider", c.provider.shape),
      ("shutdown", .ofBool c.isShutDown)] true

/-- The part of a connection that watches for failed calls. It is attached as long as there is a
provider to tell. -/
def Connection.watchShape (generation : Nat) (isAttached : Bool) : Shape :=
  .record "LeaderChangeDetector"
    [("generation", .ofNat generation), ("attached", .ofBool isAttached)] false

def StreamWatch.shape (w : StreamWatch) (isAttached : Bool) : Shape :=
  .record "DetectingStream"
    [("detector", Connection.watchShape w.generation isAttached),
      ("observed", .ofBool w.hasSeenFailure)] true

end ClusterLink
