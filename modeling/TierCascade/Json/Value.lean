import TierCascade.Decimal.Layout
/-!
# JSON values and their text

A JSON value holds its numbers as numerals, so that a value says exactly what is written, and its
members in order. `Json.compact` writes it without any blanks, `Json.pretty` with one line per item.

In a string the two delimiters and the control characters are escaped, five of these by a letter;
all other characters stand for themselves.
-/

namespace TierCascade

inductive Json where
  | null
  | bool (b : Bool)
  | number (n : Numeral)
  | string (s : String)
  | array (items : List Json)
  | object (members : List (String × Json))
  deriving Inhabited

namespace Json

def int (n : Int) : Json := .number (Numeral.ofInt n)

def nat (n : Nat) : Json := int n

/-- A double as a JSON number; one that is no finite number is written as null. -/
def float (x : Float) : Json :=
  match Layout.wire.numeral? x with
  | some n => .number n
  | none => .null

/-- A value that may be missing, null if it is. -/
def option {α : Type} (write : α → Json) : Option α → Json
  | some a => write a
  | none => .null

/-- A member that is left out if its value is missing. -/
def optionalMember {α : Type} (name : String) (write : α → Json) : Option α → List (String × Json)
  | some a => [(name, write a)]
  | none => []

def hexDigit (n : Nat) : Char := Nat.digitChar (n % 16)

def escapeChar (c : Char) : List Char :=
  if c = '"' then ['\\', '"']
  else if c = '\\' then ['\\', '\\']
  else if c = '\x08' then ['\\', 'b']
  else if c = '\x0c' then ['\\', 'f']
  else if c = '\n' then ['\\', 'n']
  else if c = '\r' then ['\\', 'r']
  else if c = '\t' then ['\\', 't']
  else if c.toNat < 32 then ['\\', 'u', '0', '0', hexDigit (c.toNat / 16), hexDigit c.toNat]
  else [c]

def quote (s : String) : List Char := '"' :: s.toList.flatMap escapeChar ++ ['"']

def joinWith (sep : List Char) : List (List Char) → List Char
  | [] => []
  | [cs] => cs
  | cs :: rest => cs ++ sep ++ joinWith sep rest

def boolChars (b : Bool) : List Char := if b then "true".toList else "false".toList

mutual

def compactChars : Json → List Char
  | .null => "null".toList
  | .bool b => boolChars b
  | .number n => n.chars
  | .string s => quote s
  | .array items => '[' :: joinWith [','] (compactItems items) ++ [']']
  | .object members => '{' :: joinWith [','] (compactMembers members) ++ ['}']

def compactItems : List Json → List (List Char)
  | [] => []
  | j :: rest => compactChars j :: compactItems rest

def compactMembers : List (String × Json) → List (List Char)
  | [] => []
  | (name, j) :: rest => (quote name ++ ':' :: compactChars j) :: compactMembers rest

end

/-- A line end with the indentation of a depth. -/
def newLine (depth : Nat) : List Char := '\n' :: List.replicate (2 * depth) ' '

/-- Writes the items of a container on lines of their own; an empty container stays on one line. -/
def bracketLines (opening closing : Char) (depth : Nat) : List (List Char) → List Char
  | [] => [opening, closing]
  | items =>
    opening :: newLine (depth + 1) ++ joinWith (',' :: newLine (depth + 1)) items ++ newLine depth
      ++ [closing]

mutual

def prettyChars (depth : Nat) : Json → List Char
  | .null => "null".toList
  | .bool b => boolChars b
  | .number n => n.chars
  | .string s => quote s
  | .array items => bracketLines '[' ']' depth (prettyItems (depth + 1) items)
  | .object members => bracketLines '{' '}' depth (prettyMembers (depth + 1) members)

def prettyItems (depth : Nat) : List Json → List (List Char)
  | [] => []
  | j :: rest => prettyChars depth j :: prettyItems depth rest

def prettyMembers (depth : Nat) : List (String × Json) → List (List Char)
  | [] => []
  | (name, j) :: rest => (quote name ++ ':' :: ' ' :: prettyChars depth j) :: prettyMembers depth rest

end

def compact (j : Json) : String := String.ofList j.compactChars

def unitEscape (n : Nat) : List Char :=
  '\\' :: 'u' :: [n / 4096, n / 256, n / 16, n].map hexDigit

/-- A character beyond ASCII as escapes: one unit, or two for a character that needs them. -/
def asciiChar (c : Char) : List Char :=
  let n := c.toNat
  if n < 128 then [c]
  else if n < 0x10000 then unitEscape n
  else unitEscape (0xD800 + (n - 0x10000) / 0x400) ++ unitEscape (0xDC00 + (n - 0x10000) % 0x400)

/-- The compact text of a value in ASCII alone. Other characters stand in strings only. -/
def ascii (j : Json) : String := String.ofList (j.compactChars.flatMap asciiChar)

def pretty (j : Json) : String := String.ofList (j.prettyChars 0)

/-- The value of the last member with a name. -/
def member? (name : String) : Json → Option Json
  | .object members => (members.reverse.find? fun m => m.1 == name).map (·.2)
  | _ => none

end Json

end TierCascade
