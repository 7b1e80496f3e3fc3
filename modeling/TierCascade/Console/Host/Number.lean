import TierCascade.Text.Digits
import TierCascade.Text.Lines
/-!
# Host numbers

Numbers of four bytes may be written with fewer parts and in three bases, numbers of sixteen bytes
with a gap for their zeros; each has one usual form.
-/

namespace TierCascade.Console

def hostNumberPart? : List Char → Option Nat
  | [] => none
  | '0' :: 'x' :: ds | '0' :: 'X' :: ds => digitsValue? 16 ds
  | '0' :: ds => digitsValue? 8 ds
  | ds => digitsValue? 10 ds

/-- The labels of a host name; a point at its end adds none. -/
def hostLabels (cs : List Char) : List (List Char) :=
  let labels := splitAtEach '.' cs
  if 1 < labels.length ∧ labels.getLast? = some [] then labels.dropLast else labels

/-- Whether a host name has to be a host number, by its last label. -/
def endsInNumber (cs : List Char) : Bool :=
  match (hostLabels cs).getLast? with
  | none | some [] => false
  | some label => label.all Char.isDigit || (match label with
    | '0' :: 'x' :: ds => ds.all fun c => (hexValue? c).isSome
    | _ => false)

/-- A host number of four bytes. The last part fills all the bytes that are left. -/
def shortNumber? (cs : List Char) : Option Nat := do
  let parts ← (hostLabels cs).mapM hostNumberPart?
  let leading := parts.dropLast
  let last ← parts.getLast?
  if 3 < leading.length ∨ leading.any (255 < ·) ∨ Nat.pow 256 (4 - leading.length) ≤ last then none
  else some (leading.foldr (fun part n => n / 256 + part * Nat.pow 256 3) 0 + last)

def shortNumberText (n : Nat) : List Char :=
  let parts := [n / Nat.pow 256 3, n / Nat.pow 256 2, n / 256, n]
  List.intercalate ['.'] (parts.map fun part => Nat.toDigits 10 (part % 256))

/-- A piece of a long host number: up to four digits, or a short host number of four parts, which
makes two pieces. -/
def longPieces? (isLast : Bool) (cs : List Char) : Option (List Nat) :=
  if isLast && cs.contains '.' then do
    let parts := splitAtEach '.' cs
    let bytes ← parts.mapM fun part =>
      if part.isEmpty ∨ 3 < part.length ∨ (1 < part.length ∧ part.head? = some '0') then none
      else digitsValue? 10 part
    match bytes with
    | [a, b, c, d] => if [a, b, c, d].all (· < 256) then some [a * 256 + b, c * 256 + d] else none
    | _ => none
  else if cs.isEmpty ∨ 4 < cs.length then none
  else (digitsValue? 16 cs).map ([·])

def longSide? (isLast : Bool) (cs : List Char) : Option (List Nat) :=
  if cs.isEmpty then some []
  else
    let texts := splitAtEach ':' cs
    (texts.zipIdx.mapM fun (text, i) => longPieces? (isLast && i + 1 == texts.length) text).map
      List.flatten

/-- The texts before and behind the first double colon. -/
def splitAtGap : List Char → Option (List Char × List Char)
  | [] => none
  | ':' :: ':' :: rest => some ([], rest)
  | c :: rest => (splitAtGap rest).map fun (before, behind) => (c :: before, behind)

/-- The eight pieces of a long host number. A double colon stands for the zeros that are left
out. -/
def longNumber? (cs : List Char) : Option (List Nat) :=
  match splitAtGap cs with
  | none => do
    let pieces ← longSide? true cs
    if pieces.length = 8 then some pieces else none
  | some (before, behind) => do
    let left ← longSide? false before
    let right ← longSide? true behind
    if left.length + right.length < 8 then
      some (left ++ List.replicate (8 - left.length - right.length) 0 ++ right)
    else none

def zeroRun (pieces : List Nat) : Nat := (pieces.takeWhile (· == 0)).length

/-- Where the longest run of two zeros or more starts, the first one if several are as long. -/
def longestGap? (pieces : List Nat) : Option Nat :=
  let runs := (List.range pieces.length).map fun i => zeroRun (pieces.drop i)
  let longest := runs.foldl max 0
  if longest < 2 then none else runs.findIdx? (· == longest)

/-- A long host number in its shortest form. -/
def longNumberText (pieces : List Nat) : List Char :=
  let spell (ps : List Nat) : List Char := List.intercalate [':'] (ps.map (Nat.toDigits 16))
  match longestGap? pieces with
  | none => spell pieces
  | some i => spell (pieces.take i) ++ [':', ':'] ++ spell ((pieces.drop i).drop (zeroRun (pieces.drop i)))

end TierCascade.Console
