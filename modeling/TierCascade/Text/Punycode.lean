/-!
# Punycode

A text of any characters in letters, digits and strokes. The ASCII characters come first as they are.
The others follow behind a stroke, in the order of their numbers: each is written as the distance from
the one before, counted over all places and all characters that might have come.

Distances are written in base 36 with the lowest digit first. A digit below its threshold ends a number,
and the thresholds follow the size of the distances.
-/

namespace TierCascade.Punycode

/-- The digit of a value: letters first, then digits. -/
def digit (d : Nat) : Char := if d < 26 then Char.ofNat ('a'.toNat + d) else Char.ofNat ('0'.toNat + d - 26)

def digitValue? (c : Char) : Option Nat :=
  if c.isLower then some (c.toNat - 'a'.toNat)
  else if c.isUpper then some (c.toNat - 'A'.toNat)
  else if c.isDigit then some (c.toNat - '0'.toNat + 26)
  else none

/-- The threshold of the digit at a place, where places count in steps of 36. -/
def threshold (bias place : Nat) : Nat := min 26 (max 1 (place - bias))

/-- Divides a distance by 35 as long as it is large, and counts 36 each time. -/
def shrink (distance counted : Nat) : Nat × Nat :=
  if 455 < distance then shrink (distance / 35) (counted + 36) else (distance, counted)
termination_by distance
decreasing_by exact Nat.div_lt_self (by omega) (by omega)

/-- The bias behind a distance, with the count of characters then there. The first distance tells
little about the next. -/
def nextBias (distance size : Nat) (isFirst : Bool) : Nat :=
  let part := if isFirst then distance / 700 else distance / 2
  let (rest, counted) := shrink (part + part / size) 0
  counted + 36 * rest / (rest + 38)

/-- The first character that is not ASCII. -/
def firstBeyond : Nat := 128

def firstBias : Nat := 72

/-! ### Writing -/

def distanceDigits (bias place n : Nat) : List Char :=
  let t := threshold bias place
  if n < t then [digit n]
  else digit (t + (n - t) % (36 - t)) :: distanceDigits bias (place + 36) ((n - t) / (36 - t))
termination_by n
decreasing_by
  have positive : 1 ≤ threshold bias place := by unfold threshold; omega
  exact Nat.lt_of_le_of_lt (Nat.div_le_self _ _) (by omega)

/-- A text as far as it is written: the digits, the characters that stand, the distance since the last
one, and the bias. -/
structure Writing where
  digits : List Char
  standing : Nat
  distance : Nat
  bias : Nat

def Writing.pass (basic number : Nat) (w : Writing) (c : Char) : Writing :=
  if c.toNat < number then { w with distance := w.distance + 1 }
  else if c.toNat = number then
    { digits := w.digits ++ distanceDigits w.bias 36 w.distance
      standing := w.standing + 1
      distance := 0
      bias := nextBias w.distance (w.standing + 1) (w.standing == basic) }
  else w

/-- Writes the characters with one number, and then those with the numbers behind it. The characters
below the first number stand. -/
def Writing.write (cs : List Char) (basic number : Nat) (w : Writing) : List Nat → Writing
  | [] => w
  | next :: rest =>
    let start := { w with distance := w.distance + (next - number) * (w.standing + 1) }
    let passed := cs.foldl (Writing.pass basic next) start
    write cs basic (next + 1) { passed with distance := passed.distance + 1 } rest

def encode (cs : List Char) : List Char :=
  let basic := cs.filter (·.toNat < firstBeyond)
  let numbers := ((cs.map Char.toNat).filter (firstBeyond ≤ ·)).mergeSort.eraseDups
  let written := Writing.write cs basic.length firstBeyond ⟨[], basic.length, 0, firstBias⟩ numbers
  basic ++ (if basic.isEmpty then [] else ['-']) ++ written.digits

/-! ### Reading -/

/-- A text as far as it is read: the characters that stand, the number of the last one and the place
behind it, and the distance that is being read with the weight and the place of its next digit. -/
structure Reading where
  text : List Char
  number : Nat
  spot : Nat
  distance : Nat
  weight : Nat
  place : Nat
  bias : Nat

def Reading.start (text : List Char) (number spot bias : Nat) : Reading :=
  ⟨text, number, spot, spot, 1, 36, bias⟩

/-- Reads a digit. Distances take up four bytes at most. -/
def Reading.step (r : Reading) (c : Char) : Option Reading := do
  let d ← digitValue? c
  let distance := r.distance + d * r.weight
  let t := threshold r.bias r.place
  let weight := r.weight * (36 - t)
  let size := r.text.length + 1
  if Nat.pow 2 32 ≤ distance then none
  else if t ≤ d then
    if Nat.pow 2 32 ≤ weight then none else some { r with distance, weight, place := r.place + 36 }
  else
    let number := r.number + distance / size
    let spot := distance % size
    if number.isValidChar then
      some (.start (r.text.insertIdx spot (Char.ofNat number)) number (spot + 1)
        (nextBias (distance - r.spot) size (r.spot == 0)))
    else none

/-- Reads a text. The last stroke ends the characters that are as they are; there is none if there are
no such characters. -/
def decode? (cs : List Char) : Option (List Char) := do
  let digits := (cs.reverse.takeWhile (· != '-')).reverse
  let basic := cs.take (cs.length - digits.length - 1)
  if basic.isEmpty ∧ digits.length < cs.length ∨ basic.any (firstBeyond ≤ ·.toNat) then none
  let read ← digits.foldlM Reading.step (.start basic firstBeyond 0 firstBias)
  if read.place = 36 then some read.text else none

end TierCascade.Punycode
