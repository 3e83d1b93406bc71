import ClusterLink.Time.Duration

/-!
# What is measured

The parts of the library report what they do as `Metric`s: the end of a discovery, each gossip call,
each reset of the connection, each attempt to connect, and the connections that the cache makes and
gives up. A part keeps its reports in the order in which it makes them.

`Metric.measurements` turns a report into counters and recorded values for a metrics collector.
-/

namespace ClusterLink

/-- What happened to a cached connection. -/
inductive ConnectionEvent where
  | created
  | evicted
  deriving DecidableEq, Repr

def ConnectionEvent.name : ConnectionEvent → String
  | .created => "created"
  | .evicted => "evicted"

/-- **One report.** -/
inductive Metric where
  /-- A resolution ended, all its attempts included. -/
  | discovery (duration : Duration) (attempts : Nat) (success : Bool)
  /-- A gossip call ended. -/
  | gossipCall (endpoint outcome : String)
  /-- The connection was reset. -/
  | reconnect (trigger : String)
  /-- An attempt to connect ended. -/
  | connect (duration : Duration) (success : Bool)
  | connection (endpoint : String) (event : ConnectionEvent)
  deriving DecidableEq, Repr

/-- A change to a counter or a value recorded, with labels. -/
inductive Measurement where
  | increment (name : String) (labels : List (String × String)) (amount : Nat)
  | record (name : String) (labels : List (String × String)) (value : Float)

namespace Metric

/-- The label of an outcome. -/
def statusLabel (success : Bool) : String := if success then "success" else "error"

/-- **The measurements of a report**, in order. -/
def measurements : Metric → List Measurement
  | .discovery duration attempts success =>
    let labels := [("status", statusLabel success)]
    [.increment "evdb_client_discoveries_total" labels 1,
      .record "evdb_client_discovery_duration_seconds" labels duration.seconds,
      .record "evdb_client_discovery_attempts" [] (UInt64.ofNat attempts).toFloat]
  | .gossipCall endpoint outcome =>
    [.increment "evdb_client_gossip_calls_total" [("endpoint", endpoint), ("outcome", outcome)] 1]
  | .reconnect trigger => [.increment "evdb_client_reconnects_total" [("trigger", trigger)] 1]
  | .connect _ success =>
    [.increment "evdb_client_connects_total" [("status", statusLabel success)] 1]
  | .connection endpoint event =>
    [.increment "evdb_client_connections_total" [("endpoint", endpoint), ("event", event.name)] 1]

/-- The line that summarizes a report. -/
def line : Metric → String
  | .discovery _ attempts success => s!"discovery {attempts} {success}"
  | .gossipCall endpoint outcome => s!"gossip {endpoint} {outcome}"
  | .reconnect trigger => s!"reconnect {trigger}"
  | .connect _ success => s!"connect {success}"
  | .connection endpoint event => s!"connection {endpoint} {event.name}"

end Metric

end ClusterLink
