import ClusterLink.Scenario.Session

/-!
# How sessions begin

A session begins with the parts that it exercises, freshly made. It may fail to begin, as the parts
may fail to be made.
-/

namespace ClusterLink.Scenario

/-- What the sessions have in common. -/
structure Setting where
  nodes : List NodeScript := []
  factory : ChannelFactory := {}
  isMeasured : Bool := true
  /-- Whether member tables are asked for by calls that carry their deadline. -/
  isRemote : Bool := false

/-- The world of a session, given the parts. -/
def Setting.world (c : Setting) (client : Client) : World where
  client := client
  nodes := c.nodes
  isMeasured := c.isMeasured
  isRemote := c.isRemote

/-- The parts of a session without a provider of its own. -/
def partsOf (site : Site) (settings : ConnectSettings) : Client where
  settings := settings
  site := site
  provider := .new {}

/-- How a session connects that never does. -/
def idleSettings : ConnectSettings := ⟨.gossip, ⟨.standard, false⟩, none⟩

/-- A cache without entries. -/
def Setting.cache (c : Setting) : Cache := { channels := { factory := c.factory } }

/-- **A session with a cache.** -/
def Session.ofCache (c : Setting) : Session where
  kind := .cache
  world := c.world (partsOf { cache := c.cache } idleSettings)

/-- **A session with a resolver.** The cache may have been disposed of before. -/
def Session.ofResolver (c : Setting) (seeds : List EndPoint) (settings : ResolverSettings)
    (isDisposed : Bool) : Except Error Session :=
  let cache := if isDisposed then c.cache.dispose else c.cache
  match Resolver.new seeds settings cache with
  | (.error error, _) => .error error
  | (.ok r, cache) =>
    .ok { kind := .resolver
          world := c.world (partsOf { cache := cache, resolver := some r } idleSettings) }

/-- **A session with an attempt to connect.** The node is a single one, or found by a resolver. -/
def Session.ofFactory (c : Setting) (selector : NodeSelector) (negotiation : Option Duration)
    (single : Option EndPoint) (seeds : List EndPoint) (settings : ResolverSettings) :
    Except Error Session :=
  match single with
  | some node =>
    .ok { kind := .factory
          world :=
            c.world (partsOf { cache := c.cache } ⟨.single node, selector, negotiation⟩) }
  | none =>
    match Resolver.new seeds settings c.cache with
    | (.error error, _) => .error error
    | (.ok r, cache) =>
      .ok { kind := .factory
            world := c.world
              (partsOf { cache := cache, resolver := some r }
                ⟨.gossip, selector, negotiation⟩) }

/-- **A session with a provider**, whose runs are scripted. -/
def Session.ofProvider (c : Setting) (backoff : BackoffConfig) (scripts : List RunScript) :
    Session where
  kind := .provider
  world :=
    { c.world { partsOf { cache := c.cache } idleSettings with provider := .new backoff } with
      runScripts := some scripts }

/-- **A session with a client.** -/
def Session.ofClient (c : Setting) (options : ClientOptions) : Except Error Session :=
  options.build.bind fun config =>
    (Client.new config c.factory).map fun client =>
      { kind := .client
        world := { c.world client with hasClient := true }
        config := some config }

end ClusterLink.Scenario
