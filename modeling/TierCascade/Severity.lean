/-!
# Severities

How far a value lies from what its series led to expect.
-/

namespace TierCascade

/-- The band that a value falls into. -/
inductive Severity where
  | normal
  | moderate
  | high
  deriving Repr, DecidableEq, Inhabited

namespace Severity

def all : List Severity := [normal, moderate, high]

/-- Severities as numbers, a graver one being greater. -/
def level : Severity → Nat
  | normal => 0
  | moderate => 1
  | high => 2

def isAnomalous : Severity → Bool
  | normal => false
  | moderate | high => true

def name : Severity → String
  | normal => "normal"
  | moderate => "moderate"
  | high => "high"

def named? (s : String) : Option Severity := all.find? fun v => v.name == s

end Severity

end TierCascade
