import TierCascade.Decimal.Numeral
/-!
# Numerals read by scaling

A quick way to read a numeral turns its digits into a double and scales that by a power of ten. Both
steps round, so the last bits may differ from those of the nearest double, which `Numeral.toFloat?`
finds. Up to fifteen digits and small powers of ten both ways agree, because then only the last step
rounds.
-/

namespace TierCascade

/-- The first natural number that does not fit into a word of 64 bits. -/
def wordBound : Nat := 0x10000000000000000

/-- The longest start of a row of digits that fits into a word of 64 bits, and the number of digits
behind it. -/
def wordDigits (digits : Nat) : Nat × Nat :=
  if digits < wordBound then (digits, 0)
  else
    let (start, dropped) := wordDigits (digits / 10)
    (start, dropped + 1)
termination_by digits
decreasing_by
  have : 0 < wordBound := by decide
  omega

def powerOfTen (k : Nat) : Float := Float.ofScientific 1 false k

/-- The largest power of ten among the doubles. -/
def greatestPower : Nat := 308

/-- A double divided by a power of ten, step by step if that is no double. -/
def dividedByPower (x : Float) (k : Nat) : Float :=
  if k ≤ greatestPower then x / powerOfTen k
  else dividedByPower (x / powerOfTen greatestPower) (k - greatestPower)
termination_by k
decreasing_by simp only [greatestPower] at *; omega

def Numeral.scaled (n : Numeral) : Float :=
  let (digits, dropped) := wordDigits n.coefficient
  let power := n.lastPower + dropped
  let x := (UInt64.ofNat digits).toFloat
  let x := if power < 0 then dividedByPower x power.natAbs else x * powerOfTen power.natAbs
  if n.negative then -x else x

end TierCascade
