import TierCascade.Options.Toml.Value
/-!
# Documents of TOML

A document is a table, written line by line. A header says to which table in it the lines below
belong: in single brackets it opens a table, which may not have been opened before, and in double
ones another table of an array.
-/

namespace TierCascade.Toml

/-- Changes a table within a table. The path to it leads through tables of any kind and through the
last table of an array, and what is not there is made. -/
def within (change : Entries → Option Entries) : List String → Entries → Option Entries
  | [], es => change es
  | name :: rest, es => do
    match es.lookup name with
    | none => return es.put name (.table .implied (← within change rest []))
    | some (.table origin inner) => return es.put name (.table origin (← within change rest inner))
    | some (.rows rows) =>
      return es.put name (.rows (rows.dropLast ++ [← within change rest (rows.getLast?.getD [])]))
    | some (.leaf _) => none

def openTable (name : String) (es : Entries) : Option Entries :=
  match es.lookup name with
  | none => some (es.put name (.table .headed []))
  | some (.table .implied inner) => some (es.put name (.table .headed inner))
  | _ => none

/-- Opens another table of an array by its header. -/
def openRow (name : String) (es : Entries) : Option Entries :=
  match es.lookup name with
  | none => some (es.put name (.rows [[]]))
  | some (.rows rows) => some (es.put name (.rows (rows ++ [[]])))
  | _ => none

/-- Reads the end of a line: blanks, perhaps a comment, and a line end or the end of the text. -/
def endLine (cs : List Char) : Option (List Char) :=
  let cs := skipSpace cs
  let cs := if cs.head? = some '#' then cs.dropWhile isPlain else cs
  match cs with
  | [] => some []
  | '\n' :: rest => some rest
  | _ => none

/-- The entries of a document and the header that its last lines stand below. -/
structure Draft where
  entries : Entries
  header : List String

def Draft.opened (d : Draft) (header : List String) (openLast : String → Entries → Option Entries) :
    Option Draft := do
  let name ← header.getLast?
  return ⟨← within (openLast name) header.dropLast d.entries, header⟩

def takeEntry (d : Draft) : List Char → Option (Draft × List Char)
  | '[' :: '[' :: rest => do
    let (header, rest) ← takeKey rest
    match rest with
    | ']' :: ']' :: rest => return (← d.opened header openRow, ← endLine rest)
    | _ => none
  | '[' :: rest => do
    let (header, rest) ← takeKey rest
    match rest with
    | ']' :: rest => return (← d.opened header openTable, ← endLine rest)
    | _ => none
  | cs => do
    let ((key, value), rest) ← takePair (takeValue depth) cs
    return (⟨← within (assign value key) d.header d.entries, d.header⟩, ← endLine rest)

def readEntries : Nat → Draft → List Char → Option Draft
  | 0, _, _ => none
  | fuel + 1, d, cs =>
    match skipLines false cs with
    | [] => some d
    | cs => do
      let (d, rest) ← takeEntry d cs
      readEntries fuel d rest

/-- A text whose line ends are line feeds alone. -/
def unifyLines : List Char → List Char
  | [] => []
  | '\r' :: '\n' :: rest => '\n' :: unifyLines rest
  | c :: rest => c :: unifyLines rest

/-- A text without the mark of the byte order that may stand in front of it. -/
def unmarked : List Char → List Char
  | '\ufeff' :: cs => cs
  | cs => cs

def read? (text : String) : Option Tree := do
  let d ← readEntries (text.length + 1) ⟨[], []⟩ (unifyLines (unmarked text.toList))
  return .table (entryTrees d.entries)

end TierCascade.Toml
