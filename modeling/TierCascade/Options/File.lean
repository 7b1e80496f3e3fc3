import TierCascade.Json.Decoder
import TierCascade.Options.Toml.Document
/-!
# Files of options

A file of options is in one of two forms, which its name tells. What it holds has to be a table;
whether the entries make any sense is not asked here.
-/

namespace TierCascade

namespace Json

mutual

/-- Whether a value holds only numbers that are doubles, and has arrays and objects at most `nested`
deep. -/
def isTame : Nat → Json → Bool
  | _, .number n => n.toFloat?.isSome
  | 0, .array _ | 0, .object _ => false
  | nested + 1, .array js => areTame nested js
  | nested + 1, .object ms => membersTame nested ms
  | _, .null | _, .bool _ | _, .string _ => true

def areTame (nested : Nat) : List Json → Bool
  | [] => true
  | j :: rest => isTame nested j && areTame nested rest

def membersTame (nested : Nat) : List (String × Json) → Bool
  | [] => true
  | (_, j) :: rest => isTame nested j && membersTame nested rest

end

/-- The bound on the nesting of arrays and objects in a file. -/
def fileDepth : Nat := 127

end Json

inductive OptionForm where
  | json
  | toml
  deriving Repr, DecidableEq

namespace OptionForm

def ofPath? (path : String) : Option OptionForm :=
  let ending := path.toList.reverse.takeWhile fun c => c != '.' && c != '/'
  match String.ofList ending.reverse with
  | "json" => some json
  | "toml" => some toml
  | _ => none

def read? (form : OptionForm) (text : String) : Option Tree :=
  match form with
  | toml => Toml.read? text
  | json =>
    match Json.ofText? text.toList with
    | some (.object ms) =>
      if (Json.object ms).isTame Json.fileDepth then some (.ofJson (.object ms)) else none
    | _ => none

end OptionForm

def Tree.ofFile? (path : String) (content : Option String) : Option Tree := do
  let form ← OptionForm.ofPath? path
  let text ← content
  form.read? text

end TierCascade
