/-!
# Numerals

A numeral is a decimal number as it is spelled: a sign, the digits with a point somewhere among
them, and perhaps an exponent. `Numeral.chars` spells it, `Numeral.toInt?` and `Numeral.toFloat?`
say which number it is.

A numeral without point and exponent is an integer, except that the integer zero has no sign.
-/

namespace TierCascade

/-- The lowest integer of sixty-four bits with sign. -/
def lowestInt : Int := -0x8000000000000000

/-- The highest integer of sixty-four bits with sign. -/
def highestInt : Int := 0x7FFFFFFFFFFFFFFF

/-- An integer of sixty-four bits with sign. -/
def IsWord (i : Int) : Prop := lowestInt ≤ i ∧ i ≤ highestInt

instance (i : Int) : Decidable (IsWord i) :=
  inferInstanceAs (Decidable (lowestInt ≤ i ∧ i ≤ highestInt))

/-- The spelling `± coefficient · 10 ^ (-places)`, times `10 ^ exponent` if one is written. -/
structure Numeral where
  negative : Bool
  coefficient : Nat
  places : Nat
  exponent : Option Int
  deriving Repr, DecidableEq

namespace Numeral

def ofInt (n : Int) : Numeral := ⟨n < 0, n.natAbs, 0, none⟩

/-- The digits of a coefficient, with zeros in front so that at least one stands before the
point. -/
def digits (n : Numeral) : List Char :=
  let ds := Nat.toDigits 10 n.coefficient
  List.replicate (n.places + 1 - ds.length) '0' ++ ds

/-- An exponent always shows its sign. -/
def exponentChars : Option Int → List Char
  | none => []
  | some e => 'e' :: (if e < 0 then '-' else '+') :: Nat.toDigits 10 e.natAbs

def chars (n : Numeral) : List Char :=
  let ds := n.digits
  let whole := ds.take (ds.length - n.places)
  let fraction := ds.drop (ds.length - n.places)
  (if n.negative then ['-'] else []) ++ whole
    ++ (if n.places = 0 then [] else '.' :: fraction)
    ++ exponentChars n.exponent

def text (n : Numeral) : String := String.ofList n.chars

/-- The integer a numeral spells. A numeral with a point or an exponent spells none, whatever its
value, and neither does a zero with a sign. -/
def toInt? (n : Numeral) : Option Int :=
  if n.places = 0 ∧ n.exponent = none then
    if n.negative then
      if n.coefficient = 0 then none else some (-n.coefficient)
    else some n.coefficient
  else none

/-- The power of ten of the last digit. -/
def lastPower (n : Numeral) : Int := n.exponent.getD 0 - n.places

/-- The power of ten of the first digit. -/
def leadingPower (n : Numeral) : Int := n.lastPower + (Nat.toDigits 10 n.coefficient).length - 1

/-- The double nearest to a numeral, `none` beyond the largest one. Magnitudes far outside the range
of doubles are settled by their leading digit alone. -/
def toFloat? (n : Numeral) : Option Float :=
  let signed (x : Float) := if n.negative then -x else x
  if n.coefficient = 0 ∨ n.leadingPower < -400 then some (signed 0)
  else if 400 < n.leadingPower then none
  else
    let x := Float.ofScientific n.coefficient (n.lastPower < 0) n.lastPower.natAbs
    if x.isFinite then some (signed x) else none

end Numeral

end TierCascade
