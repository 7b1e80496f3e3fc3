import TierCascade.Console.Arguments
import TierCascade.Console.Client
import TierCascade.Console.Replay
import TierCascade.Console.Route
/-!
# The console program

One call of the console: its arguments are read, the command is carried out, and the outcome is
shown. Everything the program needs from outside is a `Site`: a variable of the environment, the
files, and the agents that answer requests.
-/

namespace TierCascade.Console

/-- What a call can ask for. -/
inductive Errand where
  | replay (path : String) (options : ReplayOptions)
  | route (query : RouteQuery)
  | ask (question : Question)

structure Call where
  address : Option String
  format : Format
  errand : Errand

def commandNames : List String := ["replay", "route", "health", "stats"]

def generalOptions : List Opt :=
  [.value "api-url" none fun _ => true, .value "format" (some 'f') fun s => (Format.named? s).isSome,
    .flag "verbose" (some 'v'), .help, .version]

def isTier (s : String) : Bool := (Tier.read? s).isSome

def replayOptions : List Opt :=
  [.value "warmup" none fun s => (unsigned? 64 s).isSome,
    .value "cooldown" none fun s => (narrow? 32 s).isSome,
    .flag "anomalies-only" none, .value "granularity" (some 'g') isTier, .help]

def routeOptions : List Opt :=
  [.value "account" none fun _ => true, .value "metric" none fun _ => true,
    ⟨"criteria", none, .values, fun _ => true⟩, .value "granularity" none isTier,
    .value "workers" none fun s => (unsigned? 64 s).isSome,
    .value "grouping" none fun s => (Grouping.read? s).isSome, .help]

def optionsOf (command : String) : List Opt :=
  if command = "replay" then replayOptions else if command = "route" then routeOptions else [.help]

def roomOf (command : String) : Nat := if command = "replay" then 1 else 0

def readCommand (command : String) (verbose : Bool) (arguments : List String) : Except Halt Errand := do
  let (g, _) ← readArguments (optionsOf command) (fun _ => false) (roomOf command) .nothing arguments
  match command, g.words with
  | "replay", [path] =>
    return .replay path
      { warmup := (g.value? "warmup").bind (unsigned? 64)
        cooldown := (g.value? "cooldown").bind (narrow? 32)
        anomaliesOnly := g.has "anomalies-only"
        tier := (g.value? "granularity").bind Tier.read?
        verbose }
  | "route", [] =>
    match g.value? "account", g.value? "metric" with
    | some account, some metric =>
      return .route
        { account
          metric
          criteria := g.values "criteria"
          tier := ((g.value? "granularity").bind Tier.read?).getD .raw
          workers := (g.value? "workers").bind (unsigned? 64)
          grouping := (g.value? "grouping").bind Grouping.read? }
    | _, _ => throw .refused
  | "health", [] => return .ask .health
  | "stats", [] => return .ask .stats
  | _, _ => throw .refused

def readHelp (arguments : List String) : Halt :=
  match arguments with
  | [] => .help
  | [command] => if ("help" :: commandNames).contains command then .help else .refused
  | _ => .refused

/-- Reads the arguments of a call. No word may stand before the command, and a call without one is
refused. -/
def Call.ofArguments (arguments : List String) : Except Halt Call := do
  let isCommand (word : String) : Bool := ("help" :: commandNames).contains word
  let (g, command) ← readArguments generalOptions isCommand 0 .nothing arguments
  match command with
  | some (command, rest) =>
    if command = "help" then throw (readHelp rest)
    return ⟨g.value? "api-url", ((g.value? "format").bind Format.named?).getD .table,
      ← readCommand command (g.has "verbose") rest⟩
  | none => throw .refused

def Call.path? (call : Call) : Option String :=
  match call.errand with
  | .replay path _ => some path
  | .route _ | .ask _ => none

/-! ### Carrying a call out -/

/-- The surroundings of a call. -/
structure Site where
  address : Option String
  file : String → Option (List UInt8)
  agent : Request → Reply

structure Ending where
  code : Nat
  display : Display
  request : Option Request

def usualAddress : String := "http://localhost:8080"

def Question.requestAt (q : Question) (address : String) : Except Complaint Request := do
  q.request (← agentAddress address)

def Call.run (call : Call) (ink : Ink) (site : Site) : Display × Option Request :=
  match call.errand with
  | .replay path options => (options.display ink call.format path (site.file path), none)
  | .route query => (query.display ink call.format, none)
  | .ask question =>
    let address := call.address.getD (site.address.getD usualAddress)
    match question.requestAt address with
    | .error complaint => (⟨[], some complaint⟩, none)
    | .ok request => (question.display ink call.format (site.agent request), some request)

def versionLine : String := "cascade " ++ version

def usageLine : String := "Usage: cascade [OPTIONS] <COMMAND>"

/-- Runs the program. A call that is refused ends with code two, a command that fails with code
one. -/
def runProgram (ink : Ink) (site : Site) (arguments : List String) : Ending :=
  match Call.ofArguments arguments with
  | .error .version => ⟨0, .shown [versionLine], none⟩
  | .error .help => ⟨0, .shown [usageLine], none⟩
  | .error .refused => ⟨2, .failed usageLine [], none⟩
  | .ok call =>
    let (display, request) := call.run ink site
    ⟨if display.complaint.isSome then 1 else 0, display, request⟩

def complaintText (c : Complaint) : String := "Error: " ++ c.context

end TierCascade.Console
