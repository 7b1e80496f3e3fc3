import TierCascade.Proofs.Warrants
/-!
# Settling, case by case

What can become of an outcome in the ledger. All that is proved about settling goes through
`Ledger.settles`.
-/

namespace TierCascade

/-- A unit of work once another delivery of it has failed. -/
def OpenUnit.again (u : OpenUnit) (t : Tier) : OpenUnit :=
  ⟨u.sample, u.attempt + 1, some (coarserReplay u.replay t)⟩

/-- What settling an outcome comes to. A unit that is not tracked is none of the ledger's business. One
that is tracked is acknowledged; or its delivery failed, and it is given up or delivered again. -/
inductive Ledger.Settles (l : Ledger) : Outcome → Ledger → Settlement → Prop where
  | unknown {o : Outcome} (gone : l.flight.get? o.unitId = none) : Settles l o l .unknown
  | acked {i : Nat} {u : OpenUnit} (tracked : l.flight.get? i = some u) :
      Settles l (.acked i) { l with flight := l.flight.erase i, acked := l.acked + 1 } .acked
  | spent {i : Nat} {u : OpenUnit} {t : Tier} {reason : String}
      (tracked : l.flight.get? i = some u) (spent : l.budget.attempts ≤ u.attempt) :
      Settles l (.failed i t reason)
        { l with
          flight := l.flight.erase i
          failed := l.failed + 1
          deadLettered := l.deadLettered + 1 }
        (.deadLettered i u.attempt u.sample.series reason)
  | again {i : Nat} {u : OpenUnit} {t : Tier} {reason : String}
      (tracked : l.flight.get? i = some u) (left : u.attempt < l.budget.attempts) :
      Settles l (.failed i t reason)
        { l with
          flight := l.flight.insert i (u.again t)
          failed := l.failed + 1
          redelivered := l.redelivered + 1 }
        (.redeliver ((u.again t).delivery i) reason)

/-- Nothing else can come of settling. -/
theorem Ledger.settles (l : Ledger) (o : Outcome) : l.Settles o (l.settle o).1 (l.settle o).2 := by
  cases found : l.flight.get? o.unitId with
  | none =>
    have same : l.settle o = (l, .unknown) := by simp only [settle, found]
    rw [same]
    exact .unknown found
  | some u =>
    cases o with
    | acked i =>
      simp only [settle, found]
      exact .acked found
    | failed i t reason =>
      simp only [settle, found, settleFailure]
      by_cases spent : l.budget.attempts ≤ u.attempt
      · rw [if_pos spent]
        exact .spent found spent
      · rw [if_neg spent]
        exact .again found (Nat.lt_of_not_le spent)

end TierCascade
