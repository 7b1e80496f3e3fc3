import TierCascade.Json.Fault
import TierCascade.Data.OrderedMap
/-!
# Decoders

A decoder turns a scan into a value of a domain type or says why it cannot. A node that is not of
the kind looked for is refused for its own flaw if it has one that shows before its kind matters,
and for its kind otherwise.

`decodeText` reads a whole text, which may hold nothing but blanks behind the value; `decodeJson`
reads a value that is already there.
-/

namespace TierCascade

/-- Turns a scan into a value or a fault. -/
abbrev Decoder (α : Type) := Scan → Except Fault α

namespace Scan

/-- What a node is, for messages. -/
def shape : Scan → String
  | absent .. => "nothing"
  | word none .. => "null"
  | word (some b) .. => "boolean `" ++ toString b ++ "`"
  | number n .. =>
    match n.toInt? with
    | some _ => "integer `" ++ n.text ++ "`"
    | none => "floating point `" ++ n.text ++ "`"
  | string .. => "string"
  | array .. => "sequence"
  | object .. => "map"

def flawed (s : Scan) (f : Flaw) : Fault := ⟨.flawed f, s.after⟩

/-- The units of a string that is used: escapes by number have to pair up. A first half is refused
only once what follows it was read. -/
def joinPieces : List Piece → Option Flaw → Except Cause (List Char)
  | [], none => .ok []
  | [], some f => .error (.flawed f)
  | .char c :: rest, flaw => (joinPieces rest flaw).map (c :: ·)
  | .unit n :: rest, flaw =>
    if n < 0xD800 ∨ 0xE000 ≤ n then (joinPieces rest flaw).map (Char.ofNat n :: ·)
    else if 0xDC00 ≤ n then .error .halfSurrogate
    else match rest with
      | [] => .error (match flaw with | some f => .flawed f | none => .halfSurrogate)
      | .char _ :: _ => .error .halfSurrogate
      | .unit m :: rest =>
        if 0xDC00 ≤ m ∧ m < 0xE000 then
          (joinPieces rest flaw).map (Char.ofNat (0x10000 + (n - 0xD800) * 0x400 + (m - 0xDC00)) :: ·)
        else .error .halfSurrogate

def useNumber (s : Scan) (n : Numeral) : Option Flaw → Except Fault Float
  | some f => .error (s.flawed f)
  | none => match n.toFloat? with
    | some x => .ok x
    | none => .error ⟨.outOfRange, s.after⟩

/-- The fault of a node that is not of the kind looked for. Containers are not looked into. -/
def mismatch (expected : String) (s : Scan) : Fault :=
  let wrong : Fault := ⟨.mismatch s.shape expected, s.after⟩
  match s with
  | absent .malformed r => ⟨.noValue, r⟩
  | absent .ended r => ⟨.flawed .ended, r⟩
  | word _ f _ => f.elim wrong s.flawed
  | number n f _ =>
    match s.useNumber n f with
    | .error fault => fault
    | .ok _ => wrong
  | string ps f r =>
    match joinPieces ps f with
    | .error cause => ⟨cause, r⟩
    | .ok _ => wrong
  | array .. | object .. => wrong

end Scan

namespace Decoder

/-! ### Plain values -/

def bool : Decoder Bool
  | .word (some b) none _ => .ok b
  | s => .error (s.mismatch "a boolean")

def string : Decoder String
  | .string ps f r =>
    match Scan.joinPieces ps f with
    | .ok cs => .ok (String.ofList cs)
    | .error cause => .error ⟨cause, r⟩
  | s => .error (s.mismatch "a string")

/-- A double. Integers are numbers too. -/
def float : Decoder Float
  | s@(.number n f _) => s.useNumber n f
  | s => .error (s.mismatch "a number")

/-- An integer from `low` to `high`. A number with a point or an exponent is none, and neither is a
zero with a sign. -/
def intWithin (low high : Int) : Decoder Int
  | s@(.number n f r) =>
    match s.useNumber n f, n.toInt? with
    | .error fault, _ => .error fault
    | .ok _, some i =>
      if low ≤ i ∧ i ≤ high then .ok i else .error ⟨.outOfBounds s.shape "an integer", r⟩
    | .ok _, none => .error (s.mismatch "an integer")
  | s => .error (s.mismatch "an integer")

/-- A timestamp: an integer of sixty-four bits with sign. -/
def timestamp : Decoder Int := intWithin lowestInt highestInt

/-- A natural number of at most `bits` bits. -/
def natural (bits : Nat) : Decoder Nat := fun s => (intWithin 0 (Nat.pow 2 bits - 1 : Nat) s).map Int.toNat

def option {α : Type} (decode : Decoder α) : Decoder (Option α)
  | .word none none _ => .ok none
  | s@(.word none (some f) _) => .error (s.flawed f)
  | s@(.absent ..) => .error (s.mismatch "a value")
  | s => (decode s).map some

/-! ### Variants -/

def memberName : Decoder String
  | s@(.string ..) => string s
  | s@(.absent f _) => .error (s.flawed f)
  | s => .error (s.flawed .malformed)

def variantNamed {α : Type} (find? : String → Option α) (s : Scan) : Except Fault α := do
  let name ← memberName s
  match find? name with
  | some a => .ok a
  | none => .error ⟨.unknownVariant name, s.after⟩

/-- A variant without contents: its name, or an object with null under its name as the only
member. -/
def variant {α : Type} (find? : String → Option α) : Decoder α
  | s@(.string ..) => variantNamed find? s
  | .object [] f r => .error ⟨.flawed (f.getD .malformed), r⟩
  | .object ((name, value) :: more) f r => do
    let a ← variantNamed find? name
    match value with
    | .word none none _ =>
      match more, f with
      | [], none => .ok a
      | [], some f => .error ⟨.flawed f, r⟩
      | _ :: _, _ => .error ⟨.surplus, value.after⟩
    | s => .error (s.mismatch "null")
  | s@(.absent .ended _) => .error (s.flawed .ended)
  | s => .error ⟨.badVariant, s.after⟩

/-! ### Lists and maps -/

/-- Ends the reading of a container: its own flaw comes behind those of its parts. -/
def close (s : Scan) : Except Fault Unit :=
  match s.flaw with
  | some f => .error (s.flawed f)
  | none => .ok ()

def list {α : Type} (decode : Decoder α) : Decoder (List α)
  | s@(.array items ..) => do
    let as ← items.mapM decode
    close s
    return as
  | s => .error (s.mismatch "a sequence")

def entry {κ υ : Type} (readKey : Scan → String → Except Fault κ) (decode : Decoder υ)
    (member : Scan × Scan) : Except Fault (κ × υ) := do
  let name ← memberName member.1
  let key ← readKey member.1 name
  let value ← decode member.2
  return (key, value)

def members {κ υ : Type} (readKey : Scan → String → Except Fault κ) (decode : Decoder υ) :
    Decoder (List (κ × υ))
  | s@(.object ms ..) => do
    let es ← ms.mapM (entry readKey decode)
    close s
    return es
  | s => .error (s.mismatch "a map")

/-- A map from names. Of members with one name the last counts. -/
def map {υ : Type} (decode : Decoder υ) : Decoder (OrderedMap String υ) := fun s =>
  (members (fun _ name => .ok name) decode s).map .ofEntries

end Decoder

/-! ### Whole texts -/

def decodeText {α : Type} (decode : Decoder α) (cs : List Char) : Except Fault α := do
  let s := Scan.ofText cs
  let a ← decode s
  match Scan.skipSpace s.after with
  | [] => return a
  | _ :: rest => throw ⟨.trailing, rest⟩

def decodeJson {α : Type} (decode : Decoder α) (j : Json) : Except Fault α := decode (.ofJson j)

/-! ### Values as they are -/

mutual

/-- The value that a scan without flaws records. -/
def Scan.value : Decoder Json
  | .word none none _ => .ok .null
  | .word (some b) none _ => .ok (.bool b)
  | .number n none _ => .ok (.number n)
  | .string ps f r =>
    match Scan.joinPieces ps f with
    | .ok cs => .ok (.string (String.ofList cs))
    | .error cause => .error ⟨cause, r⟩
  | .array items none _ => do return .array (← valueItems items)
  | .object members none _ => do return .object (← valueMembers members)
  | s => .error (s.mismatch "a value")

def Scan.valueItems : List Scan → Except Fault (List Json)
  | [] => .ok []
  | s :: rest => do return (← s.value) :: (← valueItems rest)

def Scan.valueMembers : List (Scan × Scan) → Except Fault (List (String × Json))
  | [] => .ok []
  | (name, s) :: rest => do return (← Decoder.memberName name, ← s.value) :: (← valueMembers rest)

end

def Json.ofText? (cs : List Char) : Option Json := (decodeText Scan.value cs).toOption

end TierCascade
