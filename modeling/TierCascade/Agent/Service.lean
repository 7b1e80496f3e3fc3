import TierCascade.Agent.Input
import TierCascade.Agent.Options
import TierCascade.Observe.Filter
import TierCascade.Plant.Schedule
import TierCascade.Sink.LineFile
import TierCascade.Sink.Recorder
/-!
# The agent

One life of the agent: it loads its options, opens the file for aggregates, starts the cascade,
hands it the samples of its input, and stops once the input is drained. Anomalies are reported as
events.

If the input breaks off, the samples before are handled as always, and the agent says so at its end.
-/

namespace TierCascade

/-- Where an agent runs: its environment, its standard input, and the files and folders around it. -/
structure AgentSite where
  environment : AgentOptions.Environment
  standardInput : List UInt8
  surroundings : Surroundings

inductive AgentFault where
  | options (fault : OptionFault)
  | output (path : String)
  | start (failure : Failure)
  | input (fault : InputFault)
  deriving DecidableEq

def AgentFault.message : AgentFault → String
  | options fault => fault.message
  | output path => "Failed to open " ++ path
  | start _ => "Failed to start pipeline"
  | input _ => "Sample reader failed"

/-- What an agent did once it was started: the name it reports by, the events it reported, what it
read of its input, the counts of its ledger, and the aggregates in its file. -/
structure AgentRecord where
  name : String
  events : List Event
  inflow : Inflow
  tally : Tally
  stored : List Aggregate

namespace AgentRecord

def reported (r : AgentRecord) (filter : Filter) : List Event :=
  r.events.filter fun e => filter.passes cascadeReporter e.level

def reporter : String := "cascade_agent"

/-- The counts that an agent names at its end, if a filter lets them through. Those of its input are
left out if it broke off. -/
def totals (r : AgentRecord) (filter : Filter) : Option (List (String × Nat)) :=
  let read :=
    if r.inflow.fault.isNone && filter.passes (reporter ++ "::input") .info then
      [("samples", r.inflow.samples.length), ("lines", r.inflow.lines)]
    else []
  if filter.passes reporter .info then
    some (read ++ [("emitted", r.tally.emitted), ("acked", r.tally.acked),
      ("redelivered", r.tally.redelivered), ("dead_lettered", r.tally.deadLettered),
      ("in_flight", r.tally.inFlight)])
  else none

end AgentRecord

namespace AgentSite

def text (site : AgentSite) (path : String) : Option String :=
  (site.surroundings.read? path).bind fun bytes => (utf8Line? bytes).map String.ofList

def inflow (site : AgentSite) (options : AgentOptions) : Inflow :=
  match options.input with
  | none => .ofBytes site.standardInput
  | some path =>
    match site.surroundings.read? path with
    | some bytes => .ofBytes bytes
    | none => .missing path

def board : Board :=
  let parts := [Part.source, Part.topology, Part.store, Part.notifier]
  (parts.foldl (fun b part => b.update part.name ⟨.healthy, none, 0⟩) Board.empty).setReady true

/-- Hands the samples of an input to a cascade that was just started, and stops it. The recorder
stands for the file of aggregates and for the reports of anomalies. -/
def handle (options : AgentOptions) (inflow : Inflow) (file : Place) (p : Plant Recorder) : AgentRecord :=
  let s := options.settings
  let p := Plant.run s Recorder.collaborator none inflow.samples p
  let p := p.conclude s Recorder.collaborator (p.loop.exit.getD .drained)
  { name := options.name
    events := p.journal.reverse ++ p.sinks.notified.reverse.map .anomaly
    inflow
    tally := p.ledger.tally
    stored := file.keep p.sinks.stored.reverse }

/-- Runs an agent to its end, or says why it does not start. The file of aggregates is there before the
input is read. -/
def start (site : AgentSite) : Except AgentFault AgentRecord := do
  let options ← (AgentOptions.load site.text site.environment).mapError .options
  match site.surroundings.open? options.output with
  | none => throw (.output options.output)
  | some (surroundings, file) =>
    let p ← (Plant.launch options.settings (.new []) board 0).mapError .start
    return handle options ({ site with surroundings }.inflow options) file p

/-- The life of an agent: its complaint at the end, if it has one, and what it did, if it was
started. -/
def run (site : AgentSite) : Option AgentFault × Option AgentRecord :=
  match site.start with
  | .error fault => (some fault, none)
  | .ok record => (record.inflow.fault.map .input, some record)

end AgentSite

end TierCascade
