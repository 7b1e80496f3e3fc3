import TierCascade.Decimal.Numeral
import TierCascade.Decimal.Shortest
/-!
# Layouts of doubles

How a double is spelled: by its shortest decimal, in one of the layouts below, or rounded to a given
number of places. All of them start from the exact binary value.
-/

namespace TierCascade

/-- How the shortest decimal of a double is spelled: which exponents of the leading digit are
written out in positions, whether a whole number keeps one place, and which way a tie goes. -/
structure Layout where
  positional : Int → Bool
  wholePlace : Bool
  tie : TieRule

/-- In wire texts the leading digit stands at `10 ^ -5` to `10 ^ 15`, with at least one place; other
magnitudes are written with an exponent. -/
def Layout.wire : Layout := ⟨fun e => -5 ≤ e ∧ e ≤ 15, true, .even⟩

/-- In messages every double is written out, a whole one without a point. -/
def Layout.message : Layout := ⟨fun _ => true, false, .up⟩

/-- A zero has the spelling of its whole part. -/
def Layout.spell (layout : Layout) (negative : Bool) (d : Decimal) : Numeral :=
  let length := (Nat.toDigits 10 d.coefficient).length
  let leading := d.exponent + length - 1
  if d.coefficient = 0 then ⟨negative, 0, if layout.wholePlace then 1 else 0, none⟩
  else if layout.positional leading then
    if d.exponent < 0 then ⟨negative, d.coefficient, (-d.exponent).toNat, none⟩
    else
      let whole := d.coefficient * Nat.pow 10 d.exponent.toNat
      if layout.wholePlace then ⟨negative, whole * 10, 1, none⟩ else ⟨negative, whole, 0, none⟩
  else ⟨negative, d.coefficient, length - 1, some leading⟩

def Layout.numeral? (layout : Layout) (x : Float) : Option Numeral :=
  (Dyadic.ofFloat? x).map fun d => layout.spell d.negative (Decimal.shortest layout.tie d)

def nonFiniteText (x : Float) : String :=
  if x.isNaN then "NaN" else if x < 0 then "-inf" else "inf"

def messageText (x : Float) : String :=
  match Layout.message.numeral? x with
  | some n => n.text
  | none => nonFiniteText x

/-- A double with exactly `places` digits after the point; of two equally near the even one. -/
def fixedText (places : Nat) (x : Float) : String :=
  match Dyadic.ofFloat? x with
  | none => nonFiniteText x
  | some d =>
    let (num, den) := d.scaled places
    Numeral.text ⟨d.negative, roundQuotient .even num den, places, none⟩

/-- A double with one digit before the point, `places` after it, and an exponent. Rounding up to ten
moves the point. -/
def scientificText (places : Nat) (x : Float) : String :=
  match Dyadic.ofFloat? x with
  | none => nonFiniteText x
  | some d =>
    if d.mantissa = 0 then Numeral.text ⟨d.negative, 0, places, some 0⟩
    else
      let (num, den) := d.scaled 0
      let e := decimalExponent num den
      let (num, den) := d.scaled (places - e)
      let c := roundQuotient .even num den
      if c = Nat.pow 10 (places + 1) then Numeral.text ⟨d.negative, c / 10, places, some (e + 1)⟩
      else Numeral.text ⟨d.negative, c, places, some e⟩

end TierCascade
