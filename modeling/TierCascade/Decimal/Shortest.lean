import TierCascade.Decimal.Dyadic
/-!
# Shortest decimals

The decimal that stands for a double in text is the one with the fewest digits among those that read
back as that double, and of several with that many digits the nearest. A decimal reads back as a
double when it lies between the midpoints to the neighbouring doubles; the midpoints themselves
belong to the double with the even mantissa.
-/

namespace TierCascade

/-- The number `coefficient · 10 ^ exponent`. -/
structure Decimal where
  coefficient : Nat
  exponent : Int
  deriving Repr, DecidableEq

/-- Which of two equally near decimals is taken. -/
inductive TieRule where
  | even
  | up
  deriving Repr, DecidableEq

/-- The quotient rounded to the nearest natural number. -/
def roundQuotient (tie : TieRule) (num den : Nat) : Nat :=
  let q := num / den
  let twice := 2 * (num % den)
  if twice < den then q
  else if den < twice then q + 1
  else match tie with
    | .even => if q % 2 = 0 then q else q + 1
    | .up => q + 1

/-- The reals that read back as one double, as quotients over one denominator: everything between
`low` and `high`, with the ends if `closed`. -/
structure ReadingRange where
  value : Nat
  low : Nat
  high : Nat
  den : Nat
  closed : Bool

/-- The range of a positive double. Below a power of two the doubles lie twice as close, so there
the lower midpoint is half as far away. -/
def ReadingRange.ofDyadic (d : Dyadic) : ReadingRange :=
  let quarter : Dyadic := { d with mantissa := 1, exponent := d.exponent - 2 }
  let (unit, den) := quarter.scaled 0
  let below := if d.mantissa = Nat.pow 2 52 ∧ -1074 < d.exponent then 1 else 2
  { value := 4 * d.mantissa * unit
    low := (4 * d.mantissa - below) * unit
    high := (4 * d.mantissa + 2) * unit
    den
    closed := d.mantissa % 2 = 0 }

/-- Whether `c · 10 ^ k` reads back as the double. -/
def ReadingRange.contains (r : ReadingRange) (c : Nat) (k : Int) : Bool :=
  let x := c * Nat.pow 10 k.toNat * r.den
  let up := Nat.pow 10 (-k).toNat
  if r.closed then r.low * up ≤ x ∧ x ≤ r.high * up else r.low * up < x ∧ x < r.high * up

/-- The coefficient on the grid of step `10 ^ k` that reads back as the double, the nearer one if
both neighbours of the value do. -/
def ReadingRange.onGrid? (r : ReadingRange) (tie : TieRule) (k : Int) : Option Nat :=
  let num := r.value * Nat.pow 10 (-k).toNat
  let den := r.den * Nat.pow 10 k.toNat
  let nearest := roundQuotient tie num den
  let floor := num / den
  if r.contains nearest k then some nearest
  else if r.contains floor k then some floor
  else if r.contains (floor + 1) k then some (floor + 1)
  else none

/-- Drops the trailing zeros of a coefficient into the exponent; `steps` bounds their number. -/
def Decimal.trimmed : Nat → Decimal → Decimal
  | 0, d => d
  | steps + 1, d =>
    if d.coefficient ≠ 0 ∧ d.coefficient % 10 = 0 then
      trimmed steps ⟨d.coefficient / 10, d.exponent + 1⟩
    else d

/-- Tries grids of growing fineness, from `steps` digits short of seventeen. Seventeen digits always
read back. -/
def ReadingRange.firstGrid (r : ReadingRange) (tie : TieRule) (leading : Int) : Nat → Decimal
  | 0 =>
    let k := leading - 16
    ⟨roundQuotient tie (r.value * Nat.pow 10 (-k).toNat) (r.den * Nat.pow 10 k.toNat), k⟩
  | steps + 1 =>
    let k := leading - (16 - (steps + 1 : Nat))
    match r.onGrid? tie k with
    | some c => ⟨c, k⟩
    | none => firstGrid r tie leading steps

/-- The shortest decimal that reads back as the magnitude of a double. -/
def Decimal.shortest (tie : TieRule) (d : Dyadic) : Decimal :=
  if d.mantissa = 0 then ⟨0, 0⟩
  else
    let r := ReadingRange.ofDyadic d
    let leading := decimalExponent r.value r.den
    (r.firstGrid tie leading 16).trimmed 17

end TierCascade
