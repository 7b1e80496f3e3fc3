import TierCascade.Console.Display
import TierCascade.Intake
import TierCascade.Plant.Schedule
import TierCascade.Sink.Recorder
import TierCascade.Text.Instant
import TierCascade.Wire.Report
/-!
# Replaying a fixture

A fixture is a file of samples. It is run through a cascade of its own that records every tier, and
the aggregates are shown in the order of their times.
-/

namespace TierCascade.Console

structure ReplayOptions where
  warmup : Option Nat
  cooldown : Option Nat
  anomaliesOnly : Bool
  tier : Option Tier
  verbose : Bool
  deriving Repr, DecidableEq

/-- The settings of a replay: all tiers are stored. -/
def ReplayOptions.settings (o : ReplayOptions) : Settings :=
  let standard := Settings.standard
  { standard with
    stored := .all true
    tuning := { standard.tuning with
      warmup := o.warmup.getD standard.tuning.warmup
      cooldown := o.cooldown.getD standard.tuning.cooldown } }

def ReplayOptions.selects (o : ReplayOptions) (a : Aggregate) : Bool :=
  (!o.anomaliesOnly || a.isAnomaly) && o.tier.all (· == a.tier)

structure TierSummary where
  tier : Tier
  streams : Nat
  aggregates : Nat
  anomalies : Nat
  deriving Repr, DecidableEq

def TierSummary.json (s : TierSummary) : Json :=
  .object [("tier", s.tier.json), ("streams", .nat s.streams), ("aggregates", .nat s.aggregates),
    ("anomalies", .nat s.anomalies)]

def TierSummary.of (as : List Aggregate) (census : TierCensus) : TierSummary :=
  let own := as.filter (·.tier == census.tier)
  ⟨census.tier, census.states, own.length, (own.filter (·.isAnomaly)).length⟩

structure ReplayReport where
  samples : Nat
  skipped : Nat
  tally : Tally
  summary : List TierSummary
  aggregates : List Aggregate
  deriving DecidableEq

def ReplayReport.json (r : ReplayReport) : Json :=
  .object [("samples", .nat r.samples), ("skipped", .nat r.skipped), ("source", r.tally.json),
    ("summary", .array (r.summary.map TierSummary.json)),
    ("aggregates", .array (r.aggregates.map Aggregate.json))]

/-- Aggregates are shown by time, then by tier, then by the text of their series. -/
def shownBefore (a b : Aggregate) : Bool :=
  ((compare a.timestamp b.timestamp).then <| (compare a.tier b.tier).then <|
    compare a.series.canonical b.series.canonical) != .gt

/-- What a finished cascade says of a replay. Aggregates that are shown at one place stay in the
order in which they were recorded. -/
def ReplayReport.of (samples skipped : Nat) (tally : Tally) (census : List TierCensus)
    (recorded : List Aggregate) : ReplayReport :=
  let aggregates := recorded.mergeSort shownBefore
  ⟨samples, skipped, tally, census.map (TierSummary.of aggregates), aggregates⟩

def replay (s : Settings) (xs : List Sample) (skipped : Nat) : Except Complaint ReplayReport := do
  let p : Plant Recorder ← (Plant.launch s (Recorder.new []) .empty 0).mapError fun failure =>
    ⟨"Failed to start pipeline", [failure.message]⟩
  let c := Recorder.collaborator
  let p := p.run s c none xs
  let census ← p.census.mapError fun failure => ⟨failure.message, []⟩
  let p := p.conclude s c (p.loop.exit.getD .drained)
  return .of xs.length skipped p.ledger.tally census p.sinks.stored.reverse

def ReplayReport.select (o : ReplayOptions) (r : ReplayReport) : ReplayReport :=
  { r with aggregates := r.aggregates.filter o.selects }

/-! ### Showing a replay -/

def aggregateRow (ink : Ink) (a : Aggregate) : List String :=
  [a.tier.name, a.series.canonical, instantText a.timestamp, valueText a.value, valueText a.mean,
    valueText a.deviation, valueText a.score, ink.severity a.severity, toString a.count]

def summaryRow (s : TierSummary) : List String :=
  [s.tier.name, toString s.streams, toString s.aggregates, toString s.anomalies]

def ReplayReport.lines (ink : Ink) (path : String) (r : ReplayReport) : List String :=
  heading ink "Replay"
    ++ ["Fixture:  " ++ ink.paint (.colored .cyan) path, "Samples:  " ++ toString r.samples]
    ++ (if 0 < r.skipped then [ink.warning (toString r.skipped ++ " malformed line(s) skipped")] else [])
    ++ [""]
    ++ rowsLines ink ["Tier", "Key", "Time", "Value", "Mean", "Std Dev", "Z", "Severity", "N"]
      (r.aggregates.map (aggregateRow ink))
    ++ [""]
    ++ rowsLines ink ["Tier", "Streams", "Aggregates", "Anomalies"] (r.summary.map summaryRow)
    ++ [ink.success (toString r.tally.acked ++ " unit(s) acked, " ++ toString r.tally.deadLettered
      ++ " dead-lettered")]

def verboseLines (ink : Ink) (s : Settings) (readings : List Reading) : List String :=
  ((Reading.complaints readings).map fun c => ink.warning ("line " ++ toString c.1 ++ ": " ++ c.2))
    ++ [ink.info ("Replaying " ++ toString (Reading.samples readings).length ++ " samples (warmup "
      ++ toString s.tuning.warmup ++ ", cooldown " ++ toString s.tuning.cooldown ++ ")")]

def readFixture (content : List UInt8) : Option (List Reading) :=
  (String.fromUTF8? ⟨content.toArray⟩).map fun text => (textLines text.toList).map Reading.ofLine

def ReplayOptions.display (o : ReplayOptions) (ink : Ink) (format : Format) (path : String)
    (content : Option (List UInt8)) : Display :=
  match content.bind readFixture with
  | none => .failed ("Failed to read fixture " ++ path) []
  | some readings =>
    Display.after (if o.verbose then verboseLines ink o.settings readings else []) <|
      let skipped := (Reading.complaints readings).length
      match replay o.settings (Reading.samples readings) skipped, format with
      | .error complaint, _ => ⟨[], some complaint⟩
      | .ok r, .json => .shown (jsonLines (r.select o).json)
      | .ok r, .table => .shown ((r.select o).lines ink path)

end TierCascade.Console
