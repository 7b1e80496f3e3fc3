import TierCascade.Text.Digits
import TierCascade.Text.Lines
/-!
# Tables of characters

What a table says about characters, range by range, and how tables are written. A word of a table is
a character, or two with a stroke for those between them too, by their numbers in base sixteen. Behind
a colon stands what is said about them.
-/

namespace TierCascade

/-- Characters from one to another and what is said about them. -/
structure CharRange (α : Type) where
  first : Nat
  last : Nat
  value : α
  deriving Repr

namespace CharRange

def holds {α : Type} (r : CharRange α) (c : Char) : Bool := r.first ≤ c.toNat && c.toNat ≤ r.last

/-- Reads a word of a table. Where no second character is written the number for it is zero, and the
range ends where it starts. -/
def ofWord? {α : Type} (value? : List Char → Option α) (word : List Char) : Option (CharRange α) := do
  let span := word.takeWhile (· != ':')
  let first ← digitsValue? 16 (span.takeWhile (· != '-'))
  let last ← digitsValue? 16 ((span.dropWhile (· != '-')).drop 1)
  let value ← value? ((word.dropWhile (· != ':')).drop 1)
  return ⟨first, max first last, value⟩

end CharRange

abbrev CharTable (α : Type) := List (CharRange α)

namespace CharTable

def ofLines {α : Type} (value? : List Char → Option α) (lines : List String) : CharTable α :=
  (lines.flatMap fun line => splitAtEach ' ' line.toList).filterMap (CharRange.ofWord? value?)

def get? {α : Type} (t : CharTable α) (c : Char) : Option α := (t.find? (·.holds c)).map (·.value)

def holds {α : Type} (t : CharTable α) (c : Char) : Bool := t.any (·.holds c)

end CharTable

def char? (digits : List Char) : Option Char := do
  let n ← digitsValue? 16 digits
  if n.isValidChar then some (Char.ofNat n) else none

/-- Two characters with a point between them. -/
def charPair? (note : List Char) : Option (Char × Char) := do
  let first ← char? (note.takeWhile (· != '.'))
  let second ← char? ((note.dropWhile (· != '.')).drop 1)
  return (first, second)

/-- Nothing is said about a character but that it belongs to a table. -/
def unnoted? (note : List Char) : Option Unit := if note.isEmpty then some () else none

end TierCascade
