import TierCascade.Json.Scan
/-!
# Quoted texts of TOML

A text stands between two marks, on one line between single marks and on several between threefold
ones. Between quotation marks a backslash starts an escape; between apostrophes every character
stands for itself.

A text is read in two steps: first it is cut off where it is closed, and then the escapes in it are
replaced. Line ends are line feeds alone; they were made so before.
-/

namespace TierCascade.Toml

def isSpace (c : Char) : Bool := c = ' ' ∨ c = '\t'

def skipSpace (cs : List Char) : List Char := cs.dropWhile isSpace

/-- Whether a character may stand in a comment or in a text of one line: a tab, or no control
character of ASCII. -/
def isPlain (c : Char) : Bool := c = '\t' ∨ ' ' ≤ c ∧ c ≠ '\x7f'

/-! ### Cutting off -/

def closeOne (mark : Char) : List Char → Option (List Char × List Char)
  | c :: rest => if c = mark then some ([], rest) else none
  | [] => none

/-- The end of a text that is closed by three marks. Up to two more in front of them belong to the
text. -/
def closeThree (mark : Char) (cs : List Char) : Option (List Char × List Char) :=
  let marks := min (cs.takeWhile (· = mark)).length 5
  if marks < 3 then none else some (List.replicate (marks - 3) mark, cs.drop marks)

/-- Cuts a text off where it is closed. With escapes, the character behind a backslash cannot close
it. -/
def cut (close : List Char → Option (List Char × List Char)) (escapes : Bool) :
    List Char → Option (List Char × List Char)
  | [] => none
  | c :: rest =>
    match close (c :: rest) with
    | some found => some found
    | none =>
      if escapes ∧ c = '\\' then
        match rest with
        | [] => none
        | d :: rest => (cut close escapes rest).map fun found => (c :: d :: found.1, found.2)
      else (cut close escapes rest).map fun found => (c :: found.1, found.2)

/-! ### Escapes -/

def charOf? (digits : List Char) : Option Char := do
  let values ← digits.mapM hexValue?
  let n := values.foldl (fun n d => n * 16 + d) 0
  if n.isValidChar then some (Char.ofNat n) else none

/-- Replaces the escapes in a text. A backslash at the end of a line stands for nothing and takes
with it all blanks and line ends that follow; `skipping` says that such characters are being
dropped. -/
def unescape? : Bool → List Char → Option (List Char)
  | _, [] => some []
  | _, '\\' :: 'u' :: a :: b :: c :: d :: rest => do
    return (← charOf? [a, b, c, d]) :: (← unescape? false rest)
  | _, '\\' :: 'U' :: a :: b :: c :: d :: e :: f :: g :: h :: rest => do
    return (← charOf? [a, b, c, d, e, f, g, h]) :: (← unescape? false rest)
  | _, '\\' :: c :: rest =>
    if c = '/' then none
    else match Scan.unescape? c with
      | some d => (unescape? false rest).map (d :: ·)
      | none => if (skipSpace (c :: rest)).head? = some '\n' then unescape? true rest else none
  | skipping, c :: rest =>
    if c = '\\' then none
    else if skipping ∧ (isSpace c ∨ c = '\n') then unescape? true rest
    else (unescape? false rest).map (c :: ·)

/-! ### Whole texts -/

/-- Reads a text from behind the mark that opens it. -/
def takeLine (mark : Char) (cs : List Char) : Option (String × List Char) := do
  let escapes := mark = '"'
  let (body, rest) ← cut (closeOne mark) escapes cs
  if body.all isPlain then
    return (String.ofList (← if escapes then unescape? false body else body), rest)
  else none

/-- Reads a text of several lines from behind the three marks that open it. A line end right there
is not part of it. -/
def takeBlock (mark : Char) (cs : List Char) : Option (String × List Char) := do
  let escapes := mark = '"'
  let cs := match cs with | '\n' :: rest => rest | _ => cs
  let (body, rest) ← cut (closeThree mark) escapes cs
  if body.all fun c => c = '\n' || isPlain c then
    return (String.ofList (← if escapes then unescape? false body else body), rest)
  else none

end TierCascade.Toml
