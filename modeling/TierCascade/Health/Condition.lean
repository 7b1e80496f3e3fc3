import TierCascade.Data.OrderedMap
import TierCascade.Unit.Ledger
/-!
# Health

The condition of a part of the system, and what follows for the whole: it is as well as its worst
part.
-/

namespace TierCascade

/-- How well a part does. A degraded one still works, but loses or delays some of its work. -/
inductive Status where
  | healthy
  | degraded
  | unhealthy
  deriving Repr, DecidableEq, Inhabited

namespace Status

def name : Status → String
  | healthy => "healthy"
  | degraded => "degraded"
  | unhealthy => "unhealthy"

def named? (s : String) : Option Status := [healthy, degraded, unhealthy].find? fun v => v.name == s

def isOperational : Status → Bool
  | healthy | degraded => true
  | unhealthy => false

end Status

/-- What is known of a part, and the time at which it was found out, in seconds. -/
structure Condition where
  status : Status
  message : Option String
  checkedAt : Int
  deriving Repr, DecidableEq

/-- The condition of the ledger: units that were given up are lost for good. -/
def Condition.ofTally (t : Tally) (now : Int) : Condition :=
  if 0 < t.deadLettered then
    ⟨.degraded, some (toString t.deadLettered ++ " unit(s) dead-lettered after exhausting redelivery"),
      now⟩
  else ⟨.healthy, none, now⟩

/-- The conditions of all parts that were reported, and the status of the whole. -/
structure HealthReport where
  status : Status
  parts : OrderedMap String Condition
  deriving DecidableEq

def worstStatus (parts : OrderedMap String Condition) : Status :=
  if parts.values.any (·.status == .unhealthy) then .unhealthy
  else if parts.values.any (·.status == .degraded) then .degraded
  else .healthy

/-- Whether work can be handed in, and if not, why. -/
structure Readiness where
  ready : Bool
  reason : Option String
  deriving Repr, DecidableEq

structure Board where
  parts : OrderedMap String Condition
  ready : Bool
  deriving DecidableEq

namespace Board

def empty : Board := ⟨.empty, false⟩

def update (b : Board) (part : String) (c : Condition) : Board :=
  { b with parts := b.parts.insert part c }

def setReady (b : Board) (ready : Bool) : Board := { b with ready }

def report (b : Board) : HealthReport := ⟨worstStatus b.parts, b.parts⟩

/-- Whether work can be handed in: the system has to be set up, and no part may have broken down. -/
def readiness (b : Board) : Readiness :=
  if ¬ b.ready then ⟨false, some "Pipeline not yet initialized"⟩
  else if b.report.status = .unhealthy then ⟨false, some "Critical component unhealthy"⟩
  else ⟨true, none⟩

end Board

end TierCascade
