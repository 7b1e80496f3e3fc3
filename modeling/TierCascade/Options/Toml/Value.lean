import TierCascade.Options.Toml.Scalar
/-!
# Values of TOML

Besides words and quoted texts there are arrays and tables on one line. A key is one name or several
with points between them; a value given to a key of several names goes into a table in a table.

How deep arrays and tables lie in one another is limited, and so is the number of names in a key.
-/

namespace TierCascade.Toml

/-! ### Tables under construction -/

/-- How a table came about: it lay on the way to a longer header, or on the way to a longer key, or
it has a header of its own. -/
inductive Origin where
  | implied
  | keyed
  | headed
  deriving Repr, DecidableEq

/-- An entry of a table under construction: a finished value, a table, or an array of tables, each
below a header of its own. -/
inductive Node where
  | leaf (value : Tree)
  | table (origin : Origin) (entries : List (String × Node))
  | rows (rows : List (List (String × Node)))

/-- The entries of a table under construction. -/
abbrev Entries := List (String × Node)

def Entries.put (name : String) (node : Node) : Entries → Entries
  | [] => [(name, node)]
  | (n, old) :: rest => if n = name then (name, node) :: rest else (n, old) :: put name node rest

mutual

def Node.tree : Node → Tree
  | .leaf t => t
  | .table _ es => .table (entryTrees es)
  | .rows rs => .list (rowTrees rs)

def entryTrees : List (String × Node) → List (String × Tree)
  | [] => []
  | (name, node) :: rest => (name, node.tree) :: entryTrees rest

def rowTrees : List (List (String × Node)) → List Tree
  | [] => []
  | es :: rest => .table (entryTrees es) :: rowTrees rest

end

/-- Gives a value to a key of a table. No key gets two values, and a table that was not made by a
key is not extended by one. -/
def assign (value : Tree) : List String → Entries → Option Entries
  | [], _ => none
  | [name], es => if (es.lookup name).isSome then none else some (es.put name (.leaf value))
  | name :: rest, es => do
    let last := rest.length = 1
    match es.lookup name with
    | none => return es.put name (.table .keyed (← assign value rest []))
    | some (.table .keyed inner) => return es.put name (.table .keyed (← assign value rest inner))
    | some (.table .implied inner) =>
      if last then none else return es.put name (.table .implied (← assign value rest inner))
    | some (.rows rows) =>
      if last then none
      else return es.put name (.rows (rows.dropLast ++ [← assign value rest (rows.getLast?.getD [])]))
    | _ => none

/-! ### Keys -/

/-- The bound on nesting, and on the number of names in a key. -/
def depth : Nat := 79

/-- The characters of names without marks. -/
def isBare (c : Char) : Bool := c.isAlphanum || c = '_' || c = '-'

def takeName : List Char → Option (String × List Char)
  | '"' :: rest => takeLine '"' rest
  | '\'' :: rest => takeLine '\'' rest
  | cs =>
    let name := cs.takeWhile isBare
    if name.isEmpty then none else some (String.ofList name, cs.dropWhile isBare)

/-- Reads a key and the blanks around it. The fuel bounds the number of its names. -/
def takeNames : Nat → List Char → Option (List String × List Char)
  | 0, _ => none
  | fuel + 1, cs => do
    let (name, rest) ← takeName (skipSpace cs)
    match skipSpace rest with
    | '.' :: rest =>
      let (names, rest) ← takeNames fuel rest
      return (name :: names, rest)
    | rest => return ([name], rest)

def takeKey : List Char → Option (List String × List Char) := takeNames depth

/-! ### Arrays and tables on one line -/

/-- Skips blanks, line ends and comments; `comment` says that the text starts in one. -/
def skipLines : Bool → List Char → List Char
  | _, [] => []
  | false, c :: rest =>
    if isSpace c ∨ c = '\n' then skipLines false rest
    else if c = '#' then skipLines true rest
    else c :: rest
  | true, c :: rest =>
    if c = '\n' then skipLines false rest
    else if isPlain c then skipLines true rest
    else c :: rest

/-- Reads the items of an array from behind a bracket or a comma. The fuel bounds their number. -/
def takeItems (takeItem : List Char → Option (Tree × List Char)) :
    Nat → List Char → Option (List Tree × List Char)
  | 0, _ => none
  | fuel + 1, cs =>
    match skipLines false cs with
    | ']' :: rest => some ([], rest)
    | cs => do
      let (item, rest) ← takeItem cs
      match skipLines false rest with
      | ',' :: rest =>
        let (items, rest) ← takeItems takeItem fuel rest
        return (item :: items, rest)
      | ']' :: rest => return ([item], rest)
      | _ => none

def takePair (takeItem : List Char → Option (Tree × List Char)) (cs : List Char) :
    Option ((List String × Tree) × List Char) := do
  let (key, rest) ← takeKey cs
  match rest with
  | '=' :: rest =>
    let (value, rest) ← takeItem (skipSpace rest)
    return ((key, value), skipSpace rest)
  | _ => none

/-- Reads the members of a table on one line; at least one is left. The fuel bounds their number. -/
def takeMembers (takeItem : List Char → Option (Tree × List Char)) :
    Nat → Entries → List Char → Option (Entries × List Char)
  | 0, _, _ => none
  | fuel + 1, es, cs => do
    let ((key, value), rest) ← takePair takeItem cs
    let es ← assign value key es
    match rest with
    | ',' :: rest => takeMembers takeItem fuel es rest
    | '\x7d' :: rest => return (es, rest)
    | _ => none

/-- Reads a value. The first argument bounds how deep arrays and tables may lie in it. -/
def takeValue : Nat → List Char → Option (Tree × List Char)
  | _, '"' :: '"' :: '"' :: rest => (takeBlock '"' rest).map fun found => (.text found.1, found.2)
  | _, '\'' :: '\'' :: '\'' :: rest => (takeBlock '\'' rest).map fun found => (.text found.1, found.2)
  | _, '"' :: rest => (takeLine '"' rest).map fun found => (.text found.1, found.2)
  | _, '\'' :: rest => (takeLine '\'' rest).map fun found => (.text found.1, found.2)
  | 0, '[' :: _ | 0, '\x7b' :: _ => none
  | nested + 1, '[' :: rest =>
    (takeItems (takeValue nested) (rest.length + 1) rest).map fun found => (.list found.1, found.2)
  | nested + 1, '\x7b' :: rest =>
    match skipSpace rest with
    | '\x7d' :: rest => some (.table [], rest)
    | rest =>
      (takeMembers (takeValue nested) (rest.length + 1) [] rest).map fun found =>
        (.table (entryTrees found.1), found.2)
  | _, cs => takeWord cs

end TierCascade.Toml
