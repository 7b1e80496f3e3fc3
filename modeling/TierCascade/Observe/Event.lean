import TierCascade.Sample
/-!
# Events

What the cascade reports while it runs. Each event has a level, a message and named fields; the name
of the event itself is one by which reports can be told apart.
-/

namespace TierCascade

/-- The weight of an event. -/
inductive Level where
  | error
  | warn
  | info
  | debug
  deriving Repr, DecidableEq

def Level.name : Level → String
  | .error => "ERROR"
  | .warn => "WARN"
  | .info => "INFO"
  | .debug => "DEBUG"

/-- The place of a level, the gravest one first. -/
def Level.rank : Level → Nat
  | .error => 1
  | .warn => 2
  | .info => 3
  | .debug => 4

inductive Event where
  | anomaly (a : Aggregate)
  | rejected (tier : Tier) (series reason : String)
  | sinkFailed (tier : Tier) (series : String) (unitId : Nat) (error : String)
  | redelivered (unitId attempt : Nat) (reason : String)
  | deadLettered (unitId attempts : Nat) (series reason : String)
  | windowClosed (tier : Tier) (series : String) (timestamp : Int)
  | started (version : String) (workers : Nat)
  | stopping (reason : String) (inFlight : Nat)
  deriving DecidableEq

inductive Detail where
  | text (s : String)
  | integer (n : Int)
  | real (x : Float)
  deriving DecidableEq

namespace Event

def name : Event → String
  | anomaly _ => "anomaly_detected"
  | rejected .. => "sample_rejected"
  | sinkFailed .. => "sink_failed"
  | redelivered .. => "unit_redelivered"
  | deadLettered .. => "unit_dead_lettered"
  | windowClosed .. => "window_closed"
  | started .. => "pipeline_started"
  | stopping .. => "pipeline_shutdown"

def level : Event → Level
  | anomaly a => match a.severity with | .high => .warn | _ => .info
  | rejected .. | sinkFailed .. => .warn
  | redelivered .. | started .. | stopping .. => .info
  | deadLettered .. => .error
  | windowClosed .. => .debug

def message : Event → String
  | anomaly a =>
    match a.severity with
    | .high => "High severity anomaly detected"
    | _ => "Anomaly detected"
  | rejected .. => "Dropped invalid sample"
  | sinkFailed .. => "Sink call failed, unit of work will be redelivered"
  | redelivered .. => "Redelivering failed unit of work"
  | deadLettered .. => "Unit of work exhausted redelivery attempts"
  | windowClosed .. => "Forwarding aggregate to next stage"
  | started .. => "Metric cascade started"
  | stopping .. => "Metric cascade shutting down"

def details : Event → List (String × Detail)
  | anomaly a =>
    [("key", .text a.series.canonical), ("granularity", .text a.tier.name),
      ("severity", .integer a.severity.level), ("value", .real a.value), ("mean", .real a.mean),
      ("std_dev", .real a.deviation), ("z_score", .real a.score), ("timestamp", .integer a.timestamp)]
  | rejected tier series reason =>
    [("granularity", .text tier.name), ("key", .text series), ("reason", .text reason)]
  | sinkFailed tier series unitId error =>
    [("granularity", .text tier.name), ("key", .text series), ("unit_id", .integer unitId),
      ("error", .text error)]
  | redelivered unitId attempt reason =>
    [("unit_id", .integer unitId), ("attempt", .integer attempt), ("reason", .text reason)]
  | deadLettered unitId attempts series reason =>
    [("unit_id", .integer unitId), ("attempts", .integer attempts), ("key", .text series),
      ("reason", .text reason)]
  | windowClosed tier series timestamp =>
    [("granularity", .text tier.name), ("key", .text series), ("timestamp", .integer timestamp)]
  | started version workers => [("version", .text version), ("workers", .integer workers)]
  | stopping reason inFlight => [("reason", .text reason), ("in_flight", .integer inFlight)]

end Event

end TierCascade
