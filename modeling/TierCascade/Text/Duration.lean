/-!
# Durations

A duration is shown in the largest unit of which it holds at least one, with its exact fraction.
Zero is shown in nanoseconds.
-/

namespace TierCascade

/-- The digits of `num / den` after the point, where `den = 10 ^ places`, without trailing zeros. -/
def fractionDigits (places num : Nat) : List Char :=
  let ds := Nat.toDigits 10 num
  let padded := List.replicate (places - ds.length) '0' ++ ds
  (padded.reverse.dropWhile (· == '0')).reverse

def inUnit (nanos places : Nat) (unit : String) : String :=
  let whole := toString (nanos / Nat.pow 10 places)
  let rest := nanos % Nat.pow 10 places
  if rest = 0 then whole ++ unit
  else whole ++ "." ++ String.ofList (fractionDigits places rest) ++ unit

def durationText (nanos : Nat) : String :=
  if Nat.pow 10 9 ≤ nanos then inUnit nanos 9 "s"
  else if Nat.pow 10 6 ≤ nanos then inUnit nanos 6 "ms"
  else if Nat.pow 10 3 ≤ nanos then inUnit nanos 3 "µs"
  else inUnit nanos 0 "ns"

def millisText (ms : Nat) : String := durationText (ms * Nat.pow 10 6)

end TierCascade
