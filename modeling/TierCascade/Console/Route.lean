import TierCascade.Console.Display
import TierCascade.Settings
import TierCascade.Wire.Settings
/-!
# Asking for a route

Which worker a series goes to at a tier, with the tier's own number of workers and grouping unless
others are asked for.
-/

namespace TierCascade.Console

structure RouteQuery where
  account : String
  metric : String
  criteria : List String
  tier : Tier
  workers : Option Nat
  grouping : Option Grouping
  deriving Repr, DecidableEq

/-- Splits a text at its first equals sign. -/
def splitAtEquals : List Char → Option (List Char × List Char)
  | [] => none
  | '=' :: rest => some ([], rest)
  | c :: rest => (splitAtEquals rest).map fun (name, value) => (c :: name, value)

/-- A criterion: a name that is not empty, an equals sign and a value. -/
def criterion? (text : String) : Option (String × String) :=
  match splitAtEquals text.toList with
  | none | some ([], _) => none
  | some (name, value) => some (String.ofList name, String.ofList value)

/-- The criteria of some texts, or the first text that holds none. -/
def readCriteria (texts : List String) : Except String (List (String × String)) :=
  texts.mapM fun text => match criterion? text with
    | some c => .ok c
    | none => .error text

structure RouteAnswer where
  series : String
  tier : Tier
  routing : Routing
  worker : Nat
  deriving Repr, DecidableEq

def RouteAnswer.json (r : RouteAnswer) : Json :=
  .object [("key", .string r.series), ("granularity", r.tier.json), ("grouping", r.routing.grouping.json),
    ("workers", .nat r.routing.workers), ("worker", .nat r.worker)]

namespace RouteQuery

def series? (q : RouteQuery) : Except String Series :=
  (readCriteria q.criteria).map fun criteria => ⟨q.account, q.metric, .ofEntries criteria⟩

/-- The routing that a question is about: what it asks for, and else what is standard at the tier. -/
def routing (q : RouteQuery) : Routing :=
  ⟨q.workers.getD (Settings.standard.workersOf q.tier), q.grouping.getD (Settings.standard.groupingOf q.tier)⟩

def answer (q : RouteQuery) : Except Complaint RouteAnswer := do
  let series ← q.series?.mapError fun text =>
    ⟨"Invalid criteria '" ++ text ++ "', expected KEY=VALUE", []⟩
  let routing ← (Routing.make q.routing.workers q.routing.grouping).mapError fun failure =>
    ⟨"Invalid partitioner settings", [failure.message]⟩
  return ⟨series.canonical, q.tier, routing, routing.route series⟩

def display (q : RouteQuery) (ink : Ink) (format : Format) : Display :=
  match q.answer, format with
  | .error complaint, _ => ⟨[], some complaint⟩
  | .ok r, .json => .shown (jsonLines r.json)
  | .ok r, .table => .shown <| heading ink "Route" ++
    ["Key:       " ++ ink.paint (.colored .cyan) r.series,
      "Tier:      " ++ r.tier.name,
      "Grouping:  " ++ r.routing.grouping.name,
      "Workers:   " ++ toString r.routing.workers,
      "Worker:    " ++ ink.paint (.signal .green) (workerName r.worker)]

end RouteQuery

end TierCascade.Console
