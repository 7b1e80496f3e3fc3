import TierCascade.Decimal.Scaling
import TierCascade.Json.Value
import TierCascade.Observe.Event
/-!
# Events on the wire

An event is written as one object: its level, its message and its name, the instance that reports
it, and then its own fields.

A log is a text of such objects. Whoever reads it back scales the digits of its numbers.
-/

namespace TierCascade

def Detail.json (real : Float → Json) : Detail → Json
  | .text s => .string s
  | .integer n => .int n
  | .real x => real x

def Event.members (real : Float → Json) (reporter : String) (e : Event) : List (String × Json) :=
  [("level", .string e.level.name), ("message", .string e.message), ("event", .string e.name),
    ("instance", .string reporter)] ++ e.details.map fun d => (d.1, d.2.json real)

def Event.json (real : Float → Json) (reporter : String) (e : Event) : Json :=
  .object (e.members real reporter)

/-- A number as it is read back from a log. -/
def loggedReal (x : Float) : Json :=
  match Json.float x with
  | .number n => .float n.scaled
  | j => j

/-- An event as it is read back from a log, its members in the order of their names. -/
def Event.logged (reporter : String) (e : Event) : Json :=
  .object ((e.members loggedReal reporter).mergeSort fun a b => a.1 ≤ b.1)

end TierCascade
