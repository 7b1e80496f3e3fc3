/-!
# Redelivery budgets

How often a unit of work is delivered before it is given up, and how long it waits in between.
-/

namespace TierCascade

/-- How often a unit of work is delivered in all, and the wait before another delivery in
milliseconds. -/
structure RedeliveryBudget where
  attempts : Nat
  delay : Nat
  deriving Repr, DecidableEq

def RedeliveryBudget.standard : RedeliveryBudget := ⟨5, 1000⟩

end TierCascade
