/-!
# Doubles as exact numbers

A finite double is `± mantissa · 2 ^ exponent`. Every decimal text of a double in this library is
worked out from that form in exact arithmetic.
-/

namespace TierCascade

/-- The number `± mantissa · 2 ^ exponent`. -/
structure Dyadic where
  negative : Bool
  mantissa : Nat
  exponent : Int
  deriving Repr, DecidableEq

/-- Whether the sign bit is set: also of zeros and of values that are no numbers. -/
def signBit (x : Float) : Bool := x.toBits >>> 63 == 1

/-- The exact value of a finite double: eleven bits of exponent above fifty-two of mantissa, the
smallest exponent shared by the numbers without a leading one. -/
def Dyadic.ofFloat? (x : Float) : Option Dyadic :=
  let bits := x.toBits.toNat
  let exponent : Nat := bits / Nat.pow 2 52 % Nat.pow 2 11
  let fraction : Nat := bits % Nat.pow 2 52
  if exponent = 2047 then none
  else if exponent = 0 then some ⟨signBit x, fraction, -1074⟩
  else some ⟨signBit x, fraction + Nat.pow 2 52, (exponent : Int) - 1075⟩

/-- A quotient of naturals that stands for the magnitude `mantissa · 2 ^ exponent · 10 ^ shift`. -/
def Dyadic.scaled (d : Dyadic) (shift : Int) : Nat × Nat :=
  let num := d.mantissa * Nat.pow 2 d.exponent.toNat * Nat.pow 10 shift.toNat
  let den := Nat.pow 2 (-d.exponent).toNat * Nat.pow 10 (-shift).toNat
  (num, den)

/-- The decimal exponent of a positive quotient: the `e` with `10 ^ e ≤ num / den < 10 ^ (e + 1)`.
It is guessed from the lengths of the binary forms and then moved onto the mark, one step at most
each way for the quotients met here. -/
def decimalExponent (num den : Nat) : Int :=
  let guess : Int := ((num.log2 : Int) - (den.log2 : Int)) * 30103 / 100000
  let atLeast (e : Int) : Bool := den * Nat.pow 10 e.toNat ≤ num * Nat.pow 10 (-e).toNat
  if atLeast (guess + 1) then guess + 1 else if atLeast guess then guess else guess - 1

end TierCascade
