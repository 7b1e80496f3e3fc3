import TierCascade.Decimal.Layout
import TierCascade.Severity
/-!
# Styles

How the console sets text off: in bold letters or in a colour, by escape sequences around the text.
A console without colours leaves the text as it is.
-/

namespace TierCascade.Console

inductive Color where
  | red
  | green
  | yellow
  | blue
  | cyan
  deriving Repr, DecidableEq

def Color.code : Color → String
  | .red => "31"
  | .green => "32"
  | .yellow => "33"
  | .blue => "34"
  | .cyan => "36"

/-- How a text is set off. -/
structure Style where
  bold : Bool
  color : Option Color
  deriving Repr, DecidableEq

namespace Style

def strong : Style := ⟨true, none⟩

def colored (c : Color) : Style := ⟨false, some c⟩

def signal (c : Color) : Style := ⟨true, some c⟩

def codes (s : Style) : List String := (if s.bold then ["1"] else []) ++ (s.color.map Color.code).toList

def opening (s : Style) : List Char := '\x1b' :: '[' :: (";".intercalate s.codes).toList ++ ['m']

def reset : List Char := ['\x1b', '[', '0', 'm']

/-- A text in which a style goes on behind every end of another one. -/
def resume (opening : List Char) : List Char → List Char
  | '\x1b' :: '[' :: '0' :: 'm' :: rest => reset ++ opening ++ resume opening rest
  | c :: rest => c :: resume opening rest
  | [] => []

def apply (s : Style) (text : String) : String :=
  String.ofList (s.opening ++ resume s.opening text.toList ++ reset)

end Style

/-- Whether a console shows colours. -/
structure Ink where
  colors : Bool
  deriving Repr, DecidableEq

namespace Ink

/-- The ink of a console that is no terminal. It has colours only if its surroundings wish for them, and
any wish but a zero counts. -/
def wished (wish : Option String) : Ink := ⟨wish.any (· != "0")⟩

/-- A text as a console shows it. -/
def paint (ink : Ink) (s : Style) (text : String) : String := if ink.colors then s.apply text else text

def success (ink : Ink) (text : String) : String := ink.paint (.signal .green) "✓" ++ " " ++ text

def error (ink : Ink) (text : String) : String := ink.paint (.signal .red) "✗" ++ " " ++ text

def warning (ink : Ink) (text : String) : String := ink.paint (.signal .yellow) "⚠" ++ " " ++ text

def info (ink : Ink) (text : String) : String := ink.paint (.signal .blue) "ℹ" ++ " " ++ text

/-- The name of a status in its colour, whatever the case of its letters; other texts stay plain. -/
def status (ink : Ink) (text : String) : String :=
  let name := text.toLower
  if name = "healthy" then ink.paint (.colored .green) text
  else if name = "degraded" then ink.paint (.colored .yellow) text
  else if name = "unhealthy" then ink.paint (.colored .red) text
  else text

def severity (ink : Ink) (s : Severity) : String :=
  match s with
  | .normal => s.name
  | .moderate => ink.paint (.colored .yellow) s.name
  | .high => ink.paint (.signal .red) s.name

end Ink

/-- A statistic in a table: two places, or an exponent for what would nearly vanish in them. What
has no bound is left open. -/
def valueText (x : Float) : String :=
  if x.isInf then "-"
  else if x != 0 && x.abs < 0.01 then scientificText 3 x
  else fixedText 2 x

end TierCascade.Console
