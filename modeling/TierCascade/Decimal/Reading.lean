import TierCascade.Decimal.Numeral
/-!
# Reading numbers

Numbers as people write them where no wire format is laid down: with a sign of either kind, digits
on one side of the point alone, and words for what is no finite number.
-/

namespace TierCascade

def splitSign : List Char → Bool × List Char
  | '-' :: rest => (true, rest)
  | '+' :: rest => (false, rest)
  | cs => (false, cs)

def readDigits? (cs : List Char) : Option Nat :=
  if cs.isEmpty ∨ !cs.all Char.isDigit then none else some (Nat.ofDigitChars 10 cs 0)

def readInt? (low high : Int) (cs : List Char) : Option Int := do
  let (negative, digits) := splitSign cs
  let n ← readDigits? digits
  let i : Int := if negative then -n else n
  if low ≤ i ∧ i ≤ high then some i else none

/-- The natural number of at most `bits` bits that a text spells, perhaps with a plus before it. -/
def readNat? (bits : Nat) (cs : List Char) : Option Nat := do
  let n ← readDigits? (match cs with | '+' :: ds => ds | ds => ds)
  if n < Nat.pow 2 bits then some n else none

/-- The double nearest to a numeral; beyond the largest one there is the infinite one. -/
def Numeral.nearest (n : Numeral) : Float := n.toFloat?.getD (if n.negative then -1 / 0 else 1 / 0)

def readExponent? : List Char → Option (Option Int)
  | [] => some none
  | c :: rest =>
    if c = 'e' ∨ c = 'E' then
      let (negative, digits) := splitSign rest
      (readDigits? digits).map fun n => some (if negative then -n else n)
    else none

/-- The double that a text spells. There has to be a digit on one side of the point at least. -/
def readFloat? (cs : List Char) : Option Float :=
  let (negative, rest) := splitSign cs
  let word := String.ofList (rest.map Char.toLower)
  if word = "inf" ∨ word = "infinity" then some (if negative then -1 / 0 else 1 / 0)
  else if word = "nan" then some (0 / 0)
  else do
    let whole := rest.takeWhile Char.isDigit
    let rest := rest.dropWhile Char.isDigit
    let (fraction, rest) := match rest with
      | '.' :: rest => (rest.takeWhile Char.isDigit, rest.dropWhile Char.isDigit)
      | rest => ([], rest)
    let digits := whole ++ fraction
    if digits.isEmpty then none
    else
      let exponent ← readExponent? rest
      some (Numeral.nearest ⟨negative, Nat.ofDigitChars 10 digits 0, fraction.length, exponent⟩)

end TierCascade
