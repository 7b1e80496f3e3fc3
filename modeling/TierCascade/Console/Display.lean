import TierCascade.Console.Grid
import TierCascade.Console.Style
import TierCascade.Json.Value
/-!
# Displays

What a command shows: lines, one after the other, and a complaint if it could not be carried out.
-/

namespace TierCascade.Console

/-- Why a command could not be carried out, and the reasons behind it, the nearest one first. -/
structure Complaint where
  context : String
  reasons : List String
  deriving Repr, DecidableEq

def Complaint.chain (c : Complaint) : String := ": ".intercalate (c.context :: c.reasons)

inductive Format where
  | table
  | json
  deriving Repr, DecidableEq

def Format.named? (s : String) : Option Format :=
  if s = "table" then some .table else if s = "json" then some .json else none

structure Display where
  lines : List String
  complaint : Option Complaint
  deriving Repr, DecidableEq

namespace Display

def shown (lines : List String) : Display := ⟨lines, none⟩

def failed (context : String) (reasons : List String) : Display := ⟨[], some ⟨context, reasons⟩⟩

def after (lines : List String) (d : Display) : Display := { d with lines := lines ++ d.lines }

def text (d : Display) : String := String.join (d.lines.map (· ++ "\n"))

end Display

def jsonLines (j : Json) : List String := [j.pretty]

def rowsLines (ink : Ink) (titles : List String) (rows : List (List String)) : List String :=
  if rows.isEmpty then [ink.paint (.colored .yellow) "No items found"] else Grid.lines ⟨titles, rows⟩

def heading (ink : Ink) (title : String) : List String :=
  [ink.paint .strong title, String.ofList (List.replicate 60 '=')]

end TierCascade.Console
