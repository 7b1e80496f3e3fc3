import TierCascade.Text.Blank
import TierCascade.Text.Lines
import TierCascade.Wire.Sample
/-!
# Lines of samples

Samples come in as lines, one flat sample to a line. White space around a line does not matter, a
blank line says nothing, and a line that cannot be read is passed over without any effect on the
others.
-/

namespace TierCascade

inductive Reading where
  | blank
  | sample (x : Sample)
  | malformed (message : String)
  deriving DecidableEq

def Reading.ofLine (line : List Char) : Reading :=
  match trimBlanks line with
  | [] => .blank
  | text =>
    match decodeText FlatSample.decoder text with
    | .ok x => .sample x.toSample
    | .error fault => .malformed (fault.message text)

def Reading.samples (rs : List Reading) : List Sample :=
  rs.filterMap fun
    | .sample x => some x
    | _ => none

def Reading.complaints (rs : List Reading) : List (Nat × String) :=
  rs.zipIdx.filterMap fun
    | (.malformed message, i) => some (i + 1, message)
    | _ => none

end TierCascade
