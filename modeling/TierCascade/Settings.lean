import TierCascade.Detector.Tuning
import TierCascade.Routing
import TierCascade.Sink.Budget
import TierCascade.Unit.Budget
/-!
# Settings

Everything that can be set about a cascade. The two finest tiers take in the most and have several
workers by default, with the criteria spread over them; the coarser ones have one.
-/

namespace TierCascade

structure Settings where
  tuning : Tuning
  stored : PerTier Bool
  workers : PerTier (Option Nat)
  grouping : PerTier (Option Grouping)
  capacity : Nat
  calls : CallBudget
  redelivery : RedeliveryBudget
  deriving Repr, DecidableEq

namespace Settings

def standard : Settings :=
  { tuning := .standard
    stored := ⟨false, false, true, true, true, true⟩
    workers := .all none
    grouping := .all none
    capacity := 1024
    calls := .standard
    redelivery := .standard }

def workersOf (s : Settings) (t : Tier) : Nat :=
  (s.workers.get t).getD (match t with | .raw | .minute => 8 | _ => 1)

def groupingOf (s : Settings) (t : Tier) : Grouping :=
  (s.grouping.get t).getD (match t with | .raw | .minute => .key | _ => .metric)

def routing (s : Settings) (t : Tier) : Routing := ⟨s.workersOf t, s.groupingOf t⟩

def totalWorkers (s : Settings) : Nat := Tier.all.foldl (fun n t => n + s.workersOf t) 0

def idleTier? (s : Settings) : Option Tier := Tier.all.find? fun t => s.workersOf t == 0

def check (s : Settings) : Except SettingsFault Unit := do
  s.tuning.check
  match s.idleTier? with
  | some t => throw (.workers t)
  | none =>
    if s.capacity = 0 then throw .capacity
    else if s.calls.timeout = 0 then throw .callTimeout
    else if s.redelivery.attempts = 0 then throw .attempts
    else return ()

end Settings

end TierCascade
