import TierCascade.Surroundings
import TierCascade.Wire.Sample
/-!
# Files of aggregates

A file to which aggregates are appended, one line each. The compact text of an aggregate holds no
line end, whatever its strings hold, so the lines of such a file are its aggregates.

Whoever appends opens the file at a path first (`Surroundings.open?`), which may have happened before, and
then writes one line after the other to its end.
-/

namespace TierCascade

def Aggregate.line (a : Aggregate) : List Char := a.json.compactChars ++ ['\n']

def Aggregate.ofLine (line : List Char) : Except Fault Aggregate := decodeText Aggregate.decoder line

/-- What is left of some aggregates that were appended to the file at a place. -/
def Place.keep (file : Place) (as : List Aggregate) : List Aggregate :=
  if file = Place.nowhere then [] else as

/-- Writes to the end of a file that is there. -/
def Surroundings.append (s : Surroundings) (file : Place) (bytes : List UInt8) : Surroundings :=
  { s with files := s.files.map fun f => if f.1 = file.reverse then (f.1, f.2 ++ bytes) else f }

def Surroundings.persist (file : Place) (s : Surroundings) (a : Aggregate) : Surroundings :=
  s.append file (utf8Bytes a.line)

/-- Opens the file at a path and appends some aggregates to it, one by one. -/
def Surroundings.log? (path : String) (s : Surroundings) (as : List Aggregate) : Option Surroundings := do
  let (s, file) ← s.open? path
  return as.foldl (persist file) s

end TierCascade
