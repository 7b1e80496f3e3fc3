import TierCascade.Series
import TierCascade.Tier
import TierCascade.Severity
/-!
# Samples and aggregates

A sample is one number of a series at one time. Taken in at a tier it gives an aggregate: the number
together with the statistics of the series at that tier as they stand afterwards, and the judgement
passed on it. An aggregate that moves on is the sample of the next tier.
-/

namespace TierCascade

/-- How a number relates to the one before it: a reading, or a count since then. -/
inductive SampleKind where
  | absolute
  | delta
  deriving Repr, DecidableEq, Inhabited

namespace SampleKind

def name : SampleKind → String
  | absolute => "ABSOLUTE"
  | delta => "DELTA"

def named? (s : String) : Option SampleKind := [absolute, delta].find? fun k => k.name == s

end SampleKind

/-- One number of a series. Timestamps are milliseconds since the start of 1970, in words of sixty-four
bits with sign. -/
structure Sample where
  series : Series
  kind : SampleKind
  timestamp : Int
  value : Float
  label : Option String
  deriving DecidableEq, Inhabited

/-- A sample as it comes in, with the parts of its series side by side. -/
structure FlatSample where
  account : String
  metric : String
  kind : SampleKind
  timestamp : Int
  value : Float
  criteria : OrderedMap String String
  label : Option String
  deriving DecidableEq

def FlatSample.toSample (f : FlatSample) : Sample :=
  ⟨⟨f.account, f.metric, f.criteria⟩, f.kind, f.timestamp, f.value, f.label⟩

/-- What taking in a sample at a tier gave. The difference is that to the mean before the sample. -/
structure Aggregate where
  series : Series
  tier : Tier
  kind : SampleKind
  value : Float
  mean : Float
  deviation : Float
  difference : Float
  min : Float
  max : Float
  isAnomaly : Bool
  severity : Severity
  score : Float
  count : Nat
  timestamp : Int
  deriving DecidableEq, Inhabited

def Aggregate.toSample (a : Aggregate) : Sample := ⟨a.series, a.kind, a.timestamp, a.value, none⟩

end TierCascade
