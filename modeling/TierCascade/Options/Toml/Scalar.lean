import TierCascade.Options.Toml.Quoted
import TierCascade.Options.Tree
/-!
# Words of TOML

Numbers, truth values and dates are words: they go as far as no blank, no comma and no bracket
stands. The kinds of words have nothing in common, so each word is of one kind at most.

Dates and times are kept as texts, in one spelling for each.
-/

namespace TierCascade.Toml

/-! ### Numbers -/

/-- Digits without the underscores between them. Each underscore has a digit on either side. -/
def ungroup? (isDigit : Char → Bool) : List Char → Option (List Char)
  | [] => none
  | [d] => if isDigit d then some [d] else none
  | d :: '_' :: rest => if isDigit d then (ungroup? isDigit rest).map (d :: ·) else none
  | d :: rest => if isDigit d then (ungroup? isDigit rest).map (d :: ·) else none

/-- The number that grouped digits spell in a base. -/
def natural? (base : Nat) (cs : List Char) : Option Nat := do
  let value? (c : Char) : Option Nat := (hexValue? c).filter (· < base)
  let digits ← ungroup? (fun c => (value? c).isSome) cs
  return digits.foldl (fun n d => n * base + (value? d).getD 0) 0

/-- The digits of a number before its point: none is a needless zero. -/
def whole? (cs : List Char) : Option (List Char) :=
  (ungroup? Char.isDigit cs).filter fun ds => ds = ['0'] ∨ ds.head? ≠ some '0'

def decimal? (word : List Char) : Option Int := do
  let (negative, ds) := splitSign word
  let n : Int := Nat.ofDigitChars 10 (← whole? ds) 0
  return if negative then -n else n

/-- The integer that a word spells, of 64 bits. In another base it has no sign. -/
def integer? (word : List Char) : Option Int :=
  let n? : Option Int := match word with
    | '0' :: 'x' :: ds => (natural? 16 ds).map Int.ofNat
    | '0' :: 'o' :: ds => (natural? 8 ds).map Int.ofNat
    | '0' :: 'b' :: ds => (natural? 2 ds).map Int.ofNat
    | _ => decimal? word
  n?.filter fun n => lowestInt ≤ n ∧ n ≤ highestInt

def exponent? : List Char → Option (Option Int)
  | [] => some none
  | c :: rest =>
    if c = 'e' ∨ c = 'E' then do
      let (negative, ds) := splitSign rest
      let n : Int := Nat.ofDigitChars 10 (← ungroup? Char.isDigit ds) 0
      return some (if negative then -n else n)
    else none

/-- The real that a word spells. It has a point or an exponent, or it is one of two words. One that
is too large is refused; a negative one is not. -/
def real? (word : List Char) : Option Float :=
  let (negative, rest) := splitSign word
  let isGrouped (c : Char) : Bool := c.isDigit || c = '_'
  let number? (ds fraction rest : List Char) : Option Float := do
    let digits := (← whole? ds) ++ fraction
    let n : Numeral := ⟨negative, Nat.ofDigitChars 10 digits 0, fraction.length, ← exponent? rest⟩
    if n.toFloat?.isNone ∧ !negative then none else some n.nearest
  if rest = ['i', 'n', 'f'] then some (if negative then -1 / 0 else 1 / 0)
  else if rest = ['n', 'a', 'n'] then some (0 / 0)
  else
    let ds := rest.takeWhile isGrouped
    match rest.dropWhile isGrouped with
    | [] => none
    | '.' :: rest => do
      number? ds (← ungroup? Char.isDigit (rest.takeWhile isGrouped)) (rest.dropWhile isGrouped)
    | rest => number? ds [] rest

/-! ### Dates and times -/

def pair? (a b : Char) : Option Nat := readDigits? [a, b]

def monthDays (year month : Nat) : Nat :=
  if month = 2 then
    if year % 4 = 0 ∧ (year % 100 ≠ 0 ∨ year % 400 = 0) then 29 else 28
  else if month = 4 ∨ month = 6 ∨ month = 9 ∨ month = 11 then 30
  else 31

def isDate : List Char → Bool
  | [a, b, c, d, '-', e, f, '-', g, h] =>
    match readDigits? [a, b, c, d], pair? e f, pair? g h with
    | some year, some month, some day =>
      1 ≤ month && month ≤ 12 && 1 ≤ day && day ≤ monthDays year month
    | _, _, _ => false
  | _ => false

def offset? : List Char → Option (List Char)
  | [c] => if c = 'Z' ∨ c = 'z' then some ['Z'] else none
  | [s, a, b, ':', c, d] => do
    let hour ← pair? a b
    let minute ← pair? c d
    if (s = '+' ∨ s = '-') ∧ hour < 24 ∧ minute < 60 then
      return (if hour = 0 ∧ minute = 0 then '+' else s) :: [a, b, ':', c, d]
    else none
  | _ => none

/-- The part of a time that is less than a second: nine digits at most, and no zero at the end. -/
def fractionText (digits : List Char) : List Char :=
  match ((digits.take 9).reverse.dropWhile (· = '0')).reverse with
  | [] => []
  | ds => '.' :: ds

/-- A time in its one spelling, and what follows. A second may be a leap second. -/
def takeTime : List Char → Option (List Char × List Char)
  | a :: b :: ':' :: c :: d :: ':' :: e :: f :: rest => do
    let hour ← pair? a b
    let minute ← pair? c d
    let second ← pair? e f
    if 24 ≤ hour ∨ 60 ≤ minute ∨ 60 < second then none
    else
      let clock := [a, b, ':', c, d, ':', e, f]
      match rest with
      | '.' :: rest =>
        let digits := rest.takeWhile Char.isDigit
        if digits.isEmpty then none
        else some (clock ++ fractionText digits, rest.dropWhile Char.isDigit)
      | _ => some (clock, rest)
  | _ => none

def timeWithOffset? (word : List Char) : Option (List Char) := do
  let (time, rest) ← takeTime word
  if rest.isEmpty then some time else (offset? rest).map (time ++ ·)

def moment? (word : List Char) : Option (List Char) :=
  if isDate word then some word
  else if isDate (word.take 10) then
    match word.drop 10 with
    | c :: rest =>
      if c = 'T' ∨ c = 't' then (timeWithOffset? rest).map (word.take 10 ++ 'T' :: ·) else none
    | [] => none
  else
    (takeTime word).bind fun (time, rest) => if rest.isEmpty then some time else none

/-! ### Words -/

def isWordChar (c : Char) : Bool :=
  c.isAlphanum || c = '_' || c = '+' || c = '-' || c = '.' || c = ':'

def ofWord? (word : List Char) : Option Tree :=
  if word = ['t', 'r', 'u', 'e'] then some (.flag true)
  else if word = ['f', 'a', 'l', 's', 'e'] then some (.flag false)
  else ((integer? word).map Tree.integer).or <| ((real? word).map Tree.real).or <|
    (moment? word).map fun cs => .text (String.ofList cs)

/-- Reads a word. Between a date and its time there may be a blank. -/
def takeWord (cs : List Char) : Option (Tree × List Char) := do
  let word := cs.takeWhile isWordChar
  let rest := cs.dropWhile isWordChar
  match rest with
  | ' ' :: behind =>
    let time := behind.takeWhile isWordChar
    if isDate word ∧ !time.isEmpty then
      return (← ofWord? (word ++ 'T' :: time), behind.dropWhile isWordChar)
    else return (← ofWord? word, rest)
  | _ => return (← ofWord? word, rest)

end TierCascade.Toml
