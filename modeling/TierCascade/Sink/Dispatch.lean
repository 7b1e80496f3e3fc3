import TierCascade.Sample
import TierCascade.Sink.Budget
/-!
# Dispatch of aggregates

Which collaborators an aggregate is handed to, and in which order. The store is called first, for
the tiers whose aggregates are kept; the notifier is called for anomalies, and only after the store
is done with the aggregate.
-/

namespace TierCascade

/-- The two collaborators, sharing one state. -/
abbrev Collaborator (σ : Type) := Sink → Aggregate → Callee σ

/-- Which collaborators an aggregate was handed to. -/
structure Receipt where
  stored : Bool
  notified : Bool
  deriving Repr, DecidableEq

/-- The tiers whose aggregates are stored, and the budget of every call. -/
structure Dispatch where
  stored : Tier → Bool
  budget : CallBudget

namespace Dispatch

variable {σ : Type}

def due (d : Dispatch) (a : Aggregate) : Sink → Bool
  | .store => d.stored a.tier
  | .notifier => a.isAnomaly

/-- Hands an aggregate to one collaborator if it is due there, and says whether it was. -/
def issue (d : Dispatch) (c : Collaborator σ) (sink : Sink) (a : Aggregate) (s : σ) :
    σ × Except SinkFault Bool :=
  if d.due a sink then
    let (s, result) := d.budget.call sink.label (c sink a) s
    (s, result.map fun _ => true)
  else (s, .ok false)

/-- Hands an aggregate to all collaborators where it is due; the first one that fails ends it. -/
def send (d : Dispatch) (c : Collaborator σ) (a : Aggregate) (s : σ) : σ × Except SinkFault Receipt :=
  match d.issue c .store a s with
  | (s, .error fault) => (s, .error fault)
  | (s, .ok stored) =>
    let (s, result) := d.issue c .notifier a s
    (s, result.map fun notified => ⟨stored, notified⟩)

end Dispatch

end TierCascade
