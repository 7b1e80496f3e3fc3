import TierCascade.Text.Composed.Table
/-!
# Composed text

A letter with marks can be written in several ways: as one character, as a letter that marks follow,
and with its marks in different orders. In a composed text each letter is one character with as many
of its marks as there is such a character for, and the other marks follow in one order.

A text is brought into this form in three steps. Each character is taken apart, the marks behind each
letter are put in order, and what belongs together is composed again.
-/

namespace TierCascade

/-- The first syllable of Hangul. Syllables are numbered by their leading consonant, their vowel and
the consonant at their end, which may be missing. -/
def firstSyllable : Nat := 0xAC00

/-- The number of a syllable of Hangul. -/
def syllable? (c : Char) : Option Nat :=
  if firstSyllable ≤ c.toNat ∧ c.toNat < firstSyllable + 19 * 21 * 28 then some (c.toNat - firstSyllable)
  else none

def composedOf? (c : Char) : Option (Char × Char) :=
  match syllable? c with
  | some n =>
    if n % 28 = 0 then some (Char.ofNat (0x1100 + n / (21 * 28)), Char.ofNat (0x1161 + n / 28 % 21))
    else some (Char.ofNat (c.toNat - n % 28), Char.ofNat (0x11A7 + n % 28))
  | none => composedPairs.get? c

def compose? (a b : Char) : Option Char :=
  if 0x1100 ≤ a.toNat ∧ a.toNat < 0x1100 + 19 ∧ 0x1161 ≤ b.toNat ∧ b.toNat < 0x1161 + 21 then
    some (Char.ofNat (firstSyllable + ((a.toNat - 0x1100) * 21 + (b.toNat - 0x1161)) * 28))
  else if ((syllable? a).any (· % 28 == 0)) ∧ 0x11A7 < b.toNat ∧ b.toNat < 0x11A7 + 28 then
    some (Char.ofNat (a.toNat + (b.toNat - 0x11A7)))
  else (composedPairs.find? fun r => r.value == (a, b)).map fun r => Char.ofNat r.first

/-- The rank of a mark. A character that is no mark of a letter before it has rank zero. -/
def markRank (c : Char) : Nat := (markRanks.get? c).getD 0

/-- A character taken apart, in as many steps as are allowed. Only the first of two characters can be
composed itself. -/
def takeApart : Nat → Char → List Char
  | 0, c => [c]
  | steps + 1, c =>
    match composedOf? c with
    | none => [c]
    | some (a, b) => takeApart steps a ++ [b]

/-- Puts a character before a text whose marks are in order, behind the marks of a lower rank. -/
def placeMark (c : Char) : List Char → List Char
  | [] => [c]
  | d :: rest =>
    if 0 < markRank d ∧ markRank d < markRank c then d :: placeMark c rest else c :: d :: rest

def orderMarks (cs : List Char) : List Char := cs.foldr placeMark []

/-- Composes a letter with the characters behind it. The marks that have stayed behind the letter are
kept last first; a mark does not reach the letter across one of its own rank. -/
def composeFrom (letter : Char) (left : List Char) : List Char → List Char
  | [] => letter :: left.reverse
  | c :: rest =>
    let reaches := left.head?.all fun mark => markRank mark < markRank c
    match if reaches then compose? letter c else none with
    | some letter => composeFrom letter left rest
    | none =>
      if markRank c = 0 then letter :: left.reverse ++ composeFrom c [] rest
      else composeFrom letter (c :: left) rest

/-- A text in composed form. No character is composed in more than four steps. -/
def composed (cs : List Char) : List Char :=
  match orderMarks (cs.flatMap (takeApart 4)) with
  | [] => []
  | c :: rest => composeFrom c [] rest

end TierCascade
