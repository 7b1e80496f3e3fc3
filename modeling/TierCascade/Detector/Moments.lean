/-!
# Running moments

The mean and the variance of a growing sequence of numbers, kept without the numbers themselves.
During the warm-up all numbers weigh the same; after it a new number takes a fixed share and the
older ones lose theirs in proportion. The recurrence is stated over any type of numbers.
-/

namespace TierCascade

instance natCastFloat : NatCast Float := ⟨Float.ofNat⟩

/-- The moments of a sequence: its length, its mean, the sum of squared differences gathered during
the warm-up, and its variance. -/
structure Moments (α : Type) where
  count : Nat
  mean : α
  squares : α
  variance : α
  deriving Repr, DecidableEq

namespace Moments

variable {α : Type}

def zero [OfNat α 0] : Moments α := ⟨0, 0, 0, 0⟩

def fold [NatCast α] [OfNat α 1] [Add α] [Sub α] [Mul α] [Div α] (warmup : Nat) (weight : α)
    (m : Moments α) (x : α) : Moments α :=
  let count := m.count + 1
  let delta := x - m.mean
  if count ≤ Nat.max warmup 1 then
    let mean := m.mean + delta / (count : α)
    let squares := m.squares + delta * (x - mean)
    ⟨count, mean, squares, squares / (count : α)⟩
  else
    ⟨count, m.mean + weight * delta, m.squares,
      (1 - weight) * (m.variance + weight * delta * delta)⟩

end Moments

end TierCascade
