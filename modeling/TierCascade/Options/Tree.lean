import TierCascade.Decimal.Reading
import TierCascade.Json.Value
import TierCascade.Text.Case
import TierCascade.Text.Lines
/-!
# Option trees

Options come from several places, a file of either kind and the environment, and are laid over one
another before anybody knows what they mean. A tree holds them until then.

What is laid over a tree goes to a place in it, which is named by a path: tables are merged there,
all other values replaced. What stands in the way of a path gives way to it. Names are laid down in
small letters, but what stands within a list stays as it is.
-/

namespace TierCascade

/-- A value of an option before it is known what it means. -/
inductive Tree where
  | nothing
  | flag (b : Bool)
  | integer (n : Int)
  | real (x : Float)
  | text (s : String)
  | list (items : List Tree)
  | table (entries : List (String × Tree))
  deriving Inhabited

namespace Tree

/-- The entries of a table; all other values have none. -/
def entries : Tree → List (String × Tree)
  | table es => es
  | _ => []

/-- The items of a list; all other values have none. -/
def items : Tree → List Tree
  | list ts => ts
  | _ => []

def entry? (name : String) (t : Tree) : Option Tree := t.entries.lookup name

/-- Puts an entry into a list of entries, in place of its own or behind all others. -/
def putEntry (name : String) (v : Tree) : List (String × Tree) → List (String × Tree)
  | [] => [(name, v)]
  | (n, t) :: rest => if n = name then (name, v) :: rest else (n, t) :: putEntry name v rest

/-- A table with an entry put into it. What is no table becomes one. -/
def withEntry (t : Tree) (name : String) (v : Tree) : Tree := table (putEntry name v t.entries)

mutual

/-- Lays a value over the entry with a name. -/
def lay (t : Tree) (name : String) : Tree → Tree
  | table es => t.withEntry name (layAll ((t.entry? name).getD (table [])) es)
  | v => t.withEntry name v

def layAll (t : Tree) : List (String × Tree) → Tree
  | [] => t
  | (name, v) :: rest => layAll (lay t (smallLetters name) v) rest

end

/-! ### Paths -/

/-- A step on a path: to an entry of a table, or to an item of a list. -/
inductive Step where
  | entry (name : String)
  | item (index : Int)
  deriving Repr, DecidableEq

/-- The place of an item; a negative one is counted from the end. -/
def Step.place (index : Int) (length : Nat) : Nat :=
  if 0 ≤ index then index.toNat else length - index.natAbs

def extended (ts : List Tree) (place : Nat) : List Tree :=
  ts ++ List.replicate (place + 1 - ts.length) nothing

def layAt (v : Tree) : List Step → Tree → Tree
  | [], _ => v
  | [.entry name], t => t.lay name v
  | .entry name :: rest, t => t.withEntry name (layAt v rest ((t.entry? name).getD nothing))
  | .item index :: rest, t =>
    let place := Step.place index t.items.length
    let ts := extended t.items place
    list (ts.set place (layAt v rest (ts[place]?.getD nothing)))

def isNameChar (c : Char) : Bool := c.isAlphanum || c == ' ' || c == '_' || c == '-'

/-- The steps of a path behind its first one: a point before each name, brackets around each number.
The fuel bounds their number. -/
def readSteps : Nat → List Char → Option (List Step)
  | _, [] => some []
  | 0, _ => none
  | fuel + 1, '.' :: rest => do
    let name := rest.takeWhile isNameChar
    if name.isEmpty then none
    else return .entry (String.ofList name) :: (← readSteps fuel (rest.dropWhile isNameChar))
  | fuel + 1, '[' :: rest => do
    let inside := rest.takeWhile (· != ']')
    let number := (inside.dropWhile (· == ' ')).reverse.dropWhile (· == ' ')
    if inside.length = rest.length ∨ number.getLast? = some '+' then none
    else
      let index ← readInt? lowestInt highestInt number.reverse
      return .item index :: (← readSteps fuel (rest.drop (inside.length + 1)))
  | _, _ => none

/-- The path that a text spells, in small letters. A text that spells none is the name of one
entry. -/
def pathOf (text : String) : List Step :=
  let small := text.toList.map smallLetter
  let name := small.takeWhile isNameChar
  let steps :=
    if name.isEmpty ∨ text.toList.contains '\u212a' then none
    else readSteps small.length (small.dropWhile isNameChar)
  match steps with
  | some steps => .entry (String.ofList name) :: steps
  | none => [.entry (String.ofList small)]

def layNamed (t : Tree) (es : List (String × Tree)) : Tree :=
  es.foldl (fun t e => layAt e.2 (pathOf e.1) t) t

/-! ### Values from elsewhere -/

mutual

/-- The tree of a JSON value. Integers of more than 64 bits count as reals. -/
def ofJson : Json → Tree
  | .null => nothing
  | .bool b => flag b
  | .number n =>
    match n.toInt? with
    | some i => if lowestInt ≤ i ∧ i ≤ highestInt then integer i else real n.nearest
    | none => real n.nearest
  | .string s => text s
  | .array js => list (ofItems js)
  | .object ms => table (ofMembers ms [])

def ofItems : List Json → List Tree
  | [] => []
  | j :: rest => ofJson j :: ofItems rest

/-- The entries of the members of an object; of members with one name the last counts. -/
def ofMembers : List (String × Json) → List (String × Tree) → List (String × Tree)
  | [], es => es
  | (name, j) :: rest, es => ofMembers rest (putEntry name (ofJson j) es)

end

/-- The value that a text of the environment stands for. -/
def ofWord (word : String) : Tree :=
  let cs := word.toList
  if word.toLower = "true" then flag true
  else if word.toLower = "false" then flag false
  else match readInt? lowestInt highestInt cs, readFloat? cs with
    | some n, _ => integer n
    | none, some x => real x
    | none, none => text word

end Tree

end TierCascade
