import TierCascade.Json.Value
import TierCascade.Text.Digits
import TierCascade.Text.Lines
/-!
# Scans of JSON text

A reader of JSON text goes from left to right and stops at the first thing that cannot stand there.
A scan is the record of that journey: the tree of what was met, down to the flaw that ended it. What
a flaw means is left to whoever uses the scan, because it depends on what was looked for: a number
cut off by the end of the text is an early end to a reader that wants the number and a malformed one
to a reader that passes over it, and half of a surrogate pair is harmless in a string that nobody
uses.

After a comma there is always another item or member, possibly one that is `absent`. Each node keeps
the text that follows it, which is where a message points.
-/

namespace TierCascade

/-- How a text went wrong: it ended too early, or something stood where it could not. -/
inductive Flaw where
  | ended
  | malformed
  deriving Repr, DecidableEq

/-- A part of a string: a character, or one unit of sixteen bits written in hexadecimal. -/
inductive Piece where
  | char (c : Char)
  | unit (n : Nat)
  deriving Repr, DecidableEq

/-- What a reader of JSON text met. -/
inductive Scan where
  | absent (flaw : Flaw) (after : List Char)
  | word (value : Option Bool) (flaw : Option Flaw) (after : List Char)
  | number (numeral : Numeral) (flaw : Option Flaw) (after : List Char)
  | string (pieces : List Piece) (flaw : Option Flaw) (after : List Char)
  | array (items : List Scan) (flaw : Option Flaw) (after : List Char)
  | object (members : List (Scan × Scan)) (flaw : Option Flaw) (after : List Char)
  deriving Inhabited

namespace Scan

def after : Scan → List Char
  | absent _ r | word _ _ r | number _ _ r | string _ _ r | array _ _ r | object _ _ r => r

def flaw : Scan → Option Flaw
  | absent f _ => some f
  | number _ f _ => f.map fun _ => .malformed
  | word _ f _ | string _ f _ | array _ f _ | object _ f _ => f

def isSpace (c : Char) : Bool := c = ' ' ∨ c = '\t' ∨ c = '\n' ∨ c = '\r'

def skipSpace (cs : List Char) : List Char := cs.dropWhile isSpace

/-! ### Words and numbers -/

def scanWord (value : Option Bool) : List Char → List Char → Scan
  | [], cs => .word value none cs
  | _ :: _, [] => .word value (some .ended) []
  | w :: ws, c :: cs => if w = c then scanWord value ws cs else .word value (some .malformed) cs

/-- The flaw of a text that goes on with `cs` where a digit should stand. -/
def digitFlaw : List Char → Flaw
  | [] => .ended
  | _ :: _ => .malformed

def scanExponent (n : Numeral) (cs : List Char) : Scan :=
  match cs with
  | c :: rest =>
    if c = 'e' ∨ c = 'E' then
      let (minus, rest) := match rest with
        | '-' :: rest => (true, rest)
        | '+' :: rest => (false, rest)
        | _ => (false, rest)
      let ds := rest.takeWhile Char.isDigit
      if ds = [] then .number n (some (digitFlaw rest)) rest
      else
        let e : Int := Nat.ofDigitChars 10 ds 0
        .number { n with exponent := some (if minus then -e else e) } none
          (rest.dropWhile Char.isDigit)
    else .number n none cs
  | [] => .number n none []

/-- Reads a number from behind its sign. The part before the point has no needless zero. -/
def scanNumber (negative : Bool) (cs : List Char) : Scan :=
  let whole := cs.takeWhile Char.isDigit
  let rest := cs.dropWhile Char.isDigit
  let n : Numeral := ⟨negative, Nat.ofDigitChars 10 whole 0, 0, none⟩
  if whole = [] then .number n (some (digitFlaw rest)) rest
  else if whole.head? = some '0' ∧ whole ≠ ['0'] then .number n (some .malformed) rest
  else match rest with
    | '.' :: rest =>
      let ds := rest.takeWhile Char.isDigit
      let rest := rest.dropWhile Char.isDigit
      if ds = [] then .number n (some (digitFlaw rest)) rest
      else scanExponent ⟨negative, Nat.ofDigitChars 10 (whole ++ ds) 0, ds.length, none⟩ rest
    | _ => scanExponent n rest

/-! ### Strings -/

def hexUnit? (a b c d : Char) : Option Nat := do
  return ((← hexValue? a) * 16 + (← hexValue? b)) * 256 + ((← hexValue? c) * 16 + (← hexValue? d))

def unescape? (c : Char) : Option Char :=
  if c = '"' ∨ c = '\\' ∨ c = '/' then some c
  else if c = 'b' then some '\x08'
  else if c = 'f' then some '\x0c'
  else if c = 'n' then some '\n'
  else if c = 'r' then some '\r'
  else if c = 't' then some '\t'
  else none

/-- The flaw of an escape by number when no four digits follow: fewer than four bytes are an early
end, whatever they are. -/
def unitFlaw (cs : List Char) : Flaw :=
  if byteCount (cs.take 4) < 4 then .ended else .malformed

/-- A string as far as it was read. -/
structure Pieces where
  pieces : List Piece
  flaw : Option Flaw
  after : List Char

def Pieces.push (p : Piece) (ps : Pieces) : Pieces := { ps with pieces := p :: ps.pieces }

/-- Reads a string from behind its opening delimiter. -/
def scanPieces : List Char → Pieces
  | [] => ⟨[], some .ended, []⟩
  | '"' :: rest => ⟨[], none, rest⟩
  | ['\\'] => ⟨[], some .ended, []⟩
  | '\\' :: 'u' :: a :: b :: c :: d :: rest =>
    match hexUnit? a b c d with
    | some n => (scanPieces rest).push (.unit n)
    | none => ⟨[], some (unitFlaw [a, b, c, d]), rest⟩
  | '\\' :: 'u' :: rest => ⟨[], some (unitFlaw rest), []⟩
  | '\\' :: c :: rest =>
    match unescape? c with
    | some c => (scanPieces rest).push (.char c)
    | none => ⟨[], some .malformed, rest⟩
  | c :: rest =>
    if c.toNat < 32 then ⟨[], some .malformed, rest⟩ else (scanPieces rest).push (.char c)

def scanString (cs : List Char) : Scan :=
  let ps := scanPieces cs
  .string ps.pieces ps.flaw ps.after

/-! ### Containers -/

/-- The items or members of a container, as far as they were read. -/
structure Body (α : Type) where
  parts : List α
  flaw : Option Flaw
  after : List Char

/-- What follows a part of a container that ends with `closing`: the end, a comma with more parts,
or a flaw. -/
def continueBody {α : Type} (closing : Char) (part : α) (partFlaw : Option Flaw) (cs : List Char)
    (more : List Char → Body α) : Body α :=
  match partFlaw with
  | some f => ⟨[part], some f, cs⟩
  | none =>
    match skipSpace cs with
    | [] => ⟨[part], some .ended, []⟩
    | c :: rest =>
      if c = closing then ⟨[part], none, rest⟩
      else if c = ',' then
        let body := more rest
        { body with parts := part :: body.parts }
      else ⟨[part], some .malformed, rest⟩

/-- The flaw met by a reader that only passes over a member's name: only a string can be one. -/
def nameFlaw : Scan → Option Flaw
  | string _ f _ => f
  | absent f _ => some f
  | _ => some .malformed

mutual

def scanValue : Nat → List Char → Scan
  | 0, cs => .absent .malformed cs
  | fuel + 1, cs =>
    match skipSpace cs with
    | [] => .absent .ended []
    | 'n' :: rest => scanWord none ['u', 'l', 'l'] rest
    | 't' :: rest => scanWord (some true) ['r', 'u', 'e'] rest
    | 'f' :: rest => scanWord (some false) ['a', 'l', 's', 'e'] rest
    | '"' :: rest => scanString rest
    | '-' :: rest => scanNumber true rest
    | '[' :: rest =>
      match skipSpace rest with
      | [] => .array [] (some .ended) []
      | ']' :: rest => .array [] none rest
      | rest =>
        let body := scanItems fuel rest
        .array body.parts body.flaw body.after
    | '{' :: rest =>
      match skipSpace rest with
      | [] => .object [] (some .ended) []
      | '}' :: rest => .object [] none rest
      | rest =>
        let body := scanMembers fuel rest
        .object body.parts body.flaw body.after
    | c :: rest => if c.isDigit then scanNumber false (c :: rest) else .absent .malformed rest

def scanItems : Nat → List Char → Body Scan
  | 0, cs => ⟨[], some .malformed, cs⟩
  | fuel + 1, cs =>
    let item := scanValue fuel cs
    continueBody ']' item item.flaw item.after (scanItems fuel)

/-- Reads the members of an object from where one has to stand. A name that is no string ends the
reading, but is kept. -/
def scanMembers : Nat → List Char → Body (Scan × Scan)
  | 0, cs => ⟨[], some .malformed, cs⟩
  | fuel + 1, cs =>
    let name := scanValue fuel cs
    let value : Scan :=
      match nameFlaw name, skipSpace name.after with
      | none, [] => .absent .ended []
      | none, ':' :: rest => scanValue fuel rest
      | _, rest => .absent .malformed rest
    continueBody '}' (name, value) ((nameFlaw name).or value.flaw) value.after (scanMembers fuel)

end

/-- Reads the value at the start of a text. Two steps a character are always enough: one for a
container and one for its first part. -/
def ofText (cs : List Char) : Scan := scanValue (2 * cs.length + 2) cs

/-! ### Scans of values -/

mutual

def ofJson : Json → Scan
  | .null => .word none none []
  | .bool b => .word (some b) none []
  | .number n => .number n none []
  | .string s => .string (s.toList.map .char) none []
  | .array items => .array (ofItems items) none []
  | .object members => .object (ofMembers members) none []

def ofItems : List Json → List Scan
  | [] => []
  | j :: rest => ofJson j :: ofItems rest

def ofMembers : List (String × Json) → List (Scan × Scan)
  | [] => []
  | (name, j) :: rest => (.string (name.toList.map .char) none [], ofJson j) :: ofMembers rest

end

end Scan

end TierCascade
