import TierCascade.Intake
/-!
# Input of the agent

The agent reads its samples line by line from a file or from its standard input, and hands each one
on as soon as it is read. A line that is no text ends the reading; what was handed on before stays
so.
-/

namespace TierCascade

/-- Why an input could not be read to its end. -/
inductive InputFault where
  | missing (path : String)
  | unreadable
  deriving Repr, DecidableEq

def InputFault.message : InputFault → String
  | missing path => "Failed to open input " ++ path
  | unreadable => "Failed to read input"

/-- What the lines of an input say, and why it ended before its end. -/
structure Inflow where
  readings : List Reading
  fault : Option InputFault
  deriving DecidableEq

namespace Inflow

/-- The lines of an input up to the first one that is no text. -/
def ofLines : List (List UInt8) → Inflow
  | [] => ⟨[], none⟩
  | line :: rest =>
    match utf8Line? line with
    | none => ⟨[], some .unreadable⟩
    | some cs =>
      let inflow := ofLines rest
      { inflow with readings := .ofLine cs :: inflow.readings }

def ofBytes (bytes : List UInt8) : Inflow := ofLines (byteLines bytes)

def missing (path : String) : Inflow := ⟨[], some (.missing path)⟩

/-- What is left of an input when nobody takes samples any more: the reading ends at the first
one. -/
def refused (inflow : Inflow) : Inflow :=
  let isSample : Reading → Bool := fun
    | .sample _ => true
    | _ => false
  if inflow.readings.any isSample then ⟨inflow.readings.takeWhile (!isSample ·), none⟩ else inflow

def samples (inflow : Inflow) : List Sample := Reading.samples inflow.readings

/-- The lines that were passed over with a warning, by number. -/
def complaints (inflow : Inflow) : List (Nat × String) := Reading.complaints inflow.readings

/-- The number of lines read, blank and malformed ones included. -/
def lines (inflow : Inflow) : Nat := inflow.readings.length

end Inflow

end TierCascade
