import TierCascade.Decimal.Reading
import TierCascade.Text.Lines
/-!
# Arguments of a command line

An option has a long name and perhaps a letter. Its value stands in the next argument or is attached
to the option itself; letters may be bundled. Two strokes alone end the options. Arguments are read
from left to right, and the first one that cannot stand where it does ends the reading.
-/

namespace TierCascade.Console

/-- What an option is followed by: nothing, one value, or one value each time that it is given. The
last two kinds end the reading at once. -/
inductive OptionKind where
  | flag
  | value
  | values
  | help
  | version
  deriving Repr, DecidableEq

/-- An option: its names, its kind and the values that it takes. -/
structure Opt where
  name : String
  letter : Option Char
  kind : OptionKind
  accepts : String → Bool

namespace Opt

def flag (name : String) (letter : Option Char) : Opt := ⟨name, letter, .flag, fun _ => true⟩

def value (name : String) (letter : Option Char) (accepts : String → Bool) : Opt :=
  ⟨name, letter, .value, accepts⟩

def help : Opt := ⟨"help", some 'h', .help, fun _ => true⟩

def version : Opt := ⟨"version", some 'V', .version, fun _ => true⟩

def takesValue (o : Opt) : Bool := o.kind == .value || o.kind == .values

end Opt

inductive Halt where
  | refused
  | help
  | version
  deriving Repr, DecidableEq

/-- What was read so far: the options that were given, the words among them, and an option that
still waits for its value. -/
structure Given where
  options : List (String × String)
  words : List String
  pending : Option Opt

namespace Given

def nothing : Given := ⟨[], [], none⟩

def has (g : Given) (name : String) : Bool := g.options.any fun e => e.1 == name

def values (g : Given) (name : String) : List String :=
  (g.options.filter fun e => e.1 == name).map (·.2)

def value? (g : Given) (name : String) : Option String := (g.values name).head?

/-- Takes an option with its value. Most options are given once at most. -/
def put (g : Given) (o : Opt) (value : String) : Except Halt Given :=
  match o.kind with
  | .help => .error .help
  | .version => .error .version
  | .flag | .value | .values =>
    if o.kind != .values && g.has o.name || !o.accepts value then .error .refused
    else .ok { g with options := g.options ++ [(o.name, value)], pending := none }

/-- Takes an option that stands alone: its value is still to come, if it has one. -/
def meet (g : Given) (o : Opt) : Except Halt Given :=
  if o.takesValue then .ok { g with pending := some o } else g.put o ""

/-- Takes a word. There are `room` places for words, and none of them is for an empty one. -/
def take (g : Given) (room : Nat) (word : String) : Except Halt Given :=
  if g.words.length < room ∧ !word.isEmpty then .ok { g with words := g.words ++ [word] }
  else .error .refused

end Given

def readLong (opts : List Opt) (g : Given) (cs : List Char) : Except Halt Given :=
  let name := String.ofList (cs.takeWhile (· != '='))
  match opts.find? fun o => o.name == name, cs.dropWhile (· != '=') with
  | none, _ => .error .refused
  | some o, [] => g.meet o
  | some o, _ :: value => if o.takesValue then g.put o (String.ofList value) else .error .refused

/-- Takes a bundle of letters. What follows the letter of an option with a value is that value, and
an equals sign before it does not count. -/
def readBundle (opts : List Opt) (g : Given) : List Char → Except Halt Given
  | [] => .ok g
  | c :: rest =>
    match opts.find? fun o => o.letter == some c with
    | none => .error .refused
    | some o =>
      if o.takesValue then
        match rest with
        | [] => g.meet o
        | '=' :: value => g.put o (String.ofList value)
        | value => g.put o (String.ofList value)
      else do readBundle opts (← g.put o "") rest

/-- Whether an argument looks like an option. A stroke alone does not. -/
def isOptionLike (argument : String) : Bool :=
  match argument.toList with
  | '-' :: _ :: _ => true
  | _ => false

/-- Reads arguments up to their end or to a word that is a command; what follows the command is
left. Up to `room` other words may stand among the options. -/
def readArguments (opts : List Opt) (isCommand : String → Bool) (room : Nat) :
    Given → List String → Except Halt (Given × Option (String × List String))
  | g, [] => if g.pending.isSome then .error .refused else .ok (g, none)
  | g, argument :: rest =>
    match g.pending with
    | some o =>
      if isOptionLike argument then .error .refused
      else do readArguments opts isCommand room (← g.put o argument) rest
    | none =>
      match argument.toList with
      | ['-', '-'] => do return (← rest.foldlM (·.take room) g, none)
      | '-' :: '-' :: cs => do readArguments opts isCommand room (← readLong opts g cs) rest
      | '-' :: c :: cs => do readArguments opts isCommand room (← readBundle opts g (c :: cs)) rest
      | _ =>
        if isCommand argument then .ok (g, some (argument, rest))
        else do readArguments opts isCommand room (← g.take room argument) rest

/-! ### Numbers -/

/-- The number that a text spells, perhaps with a plus before it. -/
def unsigned? (bits : Nat) (text : String) : Option Nat := readNat? bits text.toList

/-- The same for a narrow number, where a zero may have a minus as well. -/
def narrow? (bits : Nat) (text : String) : Option Nat :=
  match text.toList with
  | '-' :: ds => if ds.isEmpty ∨ !ds.all (· == '0') then none else some 0
  | _ => unsigned? bits text

end TierCascade.Console
