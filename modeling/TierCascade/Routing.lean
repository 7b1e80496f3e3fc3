import TierCascade.Failure
import TierCascade.Hash.Xxh3
import TierCascade.Series
/-!
# Routing

Every series has one worker at each tier. Which one follows from a hash of its text, so that it is
the same at every call and after every restart.
-/

namespace TierCascade

/-- Which part of a series selects its worker. -/
inductive Grouping where
  | key
  | metric
  | global
  deriving Repr, DecidableEq, Inhabited

namespace Grouping

def name : Grouping → String
  | key => "key"
  | metric => "metric"
  | global => "global"

def all : List Grouping := [key, metric, global]

def named? (s : String) : Option Grouping := all.find? fun g => g.name == s

def read? (s : String) : Option Grouping := named? s.toLower

def unknownMessage (s : String) : String := "unknown grouping '" ++ s.toLower ++ "'"

/-- The text by which a grouping tells series apart. -/
def text? : Grouping → Series → Option String
  | key, s => some s.canonical
  | metric, s => some s.stem
  | global, _ => none

end Grouping

def workerName (worker : Nat) : String := "worker-" ++ toString worker

/-- How a tier spreads series over its workers. -/
structure Routing where
  workers : Nat
  grouping : Grouping
  deriving Repr, DecidableEq, Inhabited

/-- A routing, unless there is no worker to route to. -/
def Routing.make (workers : Nat) (grouping : Grouping) : Except Failure Routing :=
  if workers = 0 then .error (.settings .noWorker) else .ok ⟨workers, grouping⟩

def Routing.route (r : Routing) (s : Series) : Nat :=
  match r.grouping.text? s with
  | some text => (xxh3 text.toUTF8).toNat % r.workers
  | none => 0

theorem Routing.route_lt (r : Routing) (s : Series) (h : 0 < r.workers) : r.route s < r.workers := by
  unfold Routing.route
  split
  · exact Nat.mod_lt _ h
  · exact h

end TierCascade
