import TierCascade.Health.Condition
import TierCascade.Stage.Basic
import TierCascade.Wire.Sample
/-!
# Reports on the wire

The wire form of what a running cascade reports about itself: the counts of its ledger, the states
held at its tiers, and its health.
-/

namespace TierCascade

def Tally.json (t : Tally) : Json :=
  .object [("emitted", .nat t.emitted), ("acked", .nat t.acked), ("failed", .nat t.failed),
    ("redelivered", .nat t.redelivered), ("dead_lettered", .nat t.deadLettered),
    ("in_flight", .nat t.inFlight)]

def Tally.decoder : Decoder Tally :=
  .record "Tally"
    (.cons "emitted" (.natural 64) .required <| .cons "acked" (.natural 64) .required <|
      .cons "failed" (.natural 64) .required <| .cons "redelivered" (.natural 64) .required <|
      .cons "dead_lettered" (.natural 64) .required <| .cons "in_flight" (.natural 64) .required .nil)
    fun (emitted, acked, failed, redelivered, deadLettered, inFlight, ()) =>
      ⟨emitted, acked, failed, redelivered, deadLettered, inFlight⟩

def TierCensus.json (c : TierCensus) : Json :=
  .object [("granularity", c.tier.json), ("workers", .nat c.workers), ("states", .nat c.states)]

def TierCensus.decoder : Decoder TierCensus :=
  .record "TierCensus"
    (.cons "granularity" Tier.decoder .required <| .cons "workers" (.natural 64) .required <|
      .cons "states" (.natural 64) .required .nil)
    fun (tier, workers, states, ()) => ⟨tier, workers, states⟩

def Status.json (s : Status) : Json := .string s.name

def Status.decoder : Decoder Status := .variant Status.named?

def Condition.json (c : Condition) : Json :=
  .object <| ("status", c.status.json) :: Json.optionalMember "message" .string c.message
    ++ [("last_check_timestamp", .int c.checkedAt)]

def Condition.decoder : Decoder Condition :=
  .record "Condition"
    (.cons "status" Status.decoder .required <| .cons "message" (.option .string) (.optional none) <|
      .cons "last_check_timestamp" .timestamp .required .nil)
    fun (status, message, checkedAt, ()) => ⟨status, message, checkedAt⟩

def HealthReport.json (r : HealthReport) : Json :=
  .object [("status", r.status.json),
    ("components", .object (r.parts.entries.map fun e => (e.1, e.2.json)))]

def HealthReport.decoder : Decoder HealthReport :=
  .record "HealthReport"
    (.cons "status" Status.decoder .required <|
      .cons "components" (.map Condition.decoder) .required .nil)
    fun (status, parts, ()) => ⟨status, parts⟩

def Readiness.json (r : Readiness) : Json :=
  .object <| ("ready", .bool r.ready) :: Json.optionalMember "reason" .string r.reason

def Readiness.decoder : Decoder Readiness :=
  .record "Readiness"
    (.cons "ready" .bool .required <| .cons "reason" (.option .string) (.optional none) .nil)
    fun (ready, reason, ()) => ⟨ready, reason⟩

/-- What a running cascade says about its work: its name, the counts of its ledger and the census of
its tiers. -/
structure StatsReport where
  name : String
  tally : Tally
  census : List TierCensus
  deriving Repr, DecidableEq

def StatsReport.json (r : StatsReport) : Json :=
  .object [("instance", .string r.name), ("source", r.tally.json),
    ("stages", .array (r.census.map TierCensus.json))]

def StatsReport.decoder : Decoder StatsReport :=
  .record "StatsReport"
    (.cons "instance" .string .required <| .cons "source" Tally.decoder .required <|
      .cons "stages" (.list TierCensus.decoder) .required .nil)
    fun (name, tally, census, ()) => ⟨name, tally, census⟩

def workerJson (worker : Nat) : Json := .nat worker

def workerDecoder : Decoder Nat := .natural 64

/-- What a state says of its series; `real` writes its numbers. The moments behind the statistics
are kept back. -/
def SeriesState.members (real : Float → Json) (s : SeriesState) : List (String × Json) :=
  [("sampleCount", .nat s.count), ("lastValue", real s.lastValue),
    ("lastTimestamp", .int s.lastTimestamp), ("runningMean", real s.moments.mean),
    ("runningStdDev", real s.deviation), ("min", real s.min), ("max", real s.max),
    ("openedAt", .int s.openedAt), ("lastEmittedTimestamp", .option .int s.lastEmitted),
    ("anomalySnooze", .nat s.quiet)]

def SeriesState.json (s : SeriesState) : Json := .object (s.members .float)

end TierCascade
