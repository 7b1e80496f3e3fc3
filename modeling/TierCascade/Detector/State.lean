import TierCascade.Detector.Moments
import TierCascade.Detector.Tuning
import TierCascade.Sample
/-!
# The state of a series at a tier

What a tier remembers of a series, and how it takes in one more sample. A sample is scored against
the statistics as they stood before it; only then it becomes part of them.

`SeriesState.absorb` is total: samples without a finite value are turned away before by
`Sample.check`.
-/

namespace TierCascade

/-- What a tier remembers of a series. `quiet` is the number of excursions still to be kept
quiet. -/
structure SeriesState where
  moments : Moments Float
  deviation : Float
  lastValue : Float
  lastTimestamp : Int
  min : Float
  max : Float
  openedAt : Int
  lastEmitted : Option Int
  quiet : Nat
  deriving Repr, DecidableEq

namespace SeriesState

def opened (timestamp : Int) : SeriesState :=
  { moments := .zero
    deviation := 0
    lastValue := 0
    lastTimestamp := timestamp
    min := 1 / 0
    max := -1 / 0
    openedAt := timestamp
    lastEmitted := none
    quiet := 0 }

def count (s : SeriesState) : Nat := s.moments.count

/-- The start of the window that is filling: the last sample that moved on, or the opening. -/
def anchor (s : SeriesState) : Int := s.lastEmitted.getD s.openedAt

/-- The time from the start of the window on. It is a difference of words, so one that is none wraps
around. -/
def elapsed (s : SeriesState) (time : Int) : Int := (time - s.anchor).bmod (Nat.pow 2 64)

def isEmpty (s : SeriesState) : Bool := s.count == 0

/-- How far a value lies from the expectation, in deviations and in itself. The first value is as
expected. -/
def surprise (t : Tuning) (s : SeriesState) (value : Float) : Float × Float :=
  if s.isEmpty then (0, 0)
  else (t.score value s.moments.mean s.deviation, value - s.moments.mean)

def absorb (t : Tuning) (tier : Tier) (s : SeriesState) (x : Sample) : Aggregate × SeriesState :=
  let (score, difference) := s.surprise t x.value
  let moments := s.moments.fold t.warmup t.alpha x.value
  let (severity, quiet) := t.settle moments.count s.quiet (t.grade score)
  let after : SeriesState :=
    { s with
      moments
      deviation := (greaterOf moments.variance 0).sqrt
      lastValue := x.value
      lastTimestamp := Max.max s.lastTimestamp x.timestamp
      min := lesserOf s.min x.value
      max := greaterOf s.max x.value
      quiet }
  let aggregate : Aggregate :=
    { series := x.series
      tier
      kind := x.kind
      value := x.value
      mean := after.moments.mean
      deviation := after.deviation
      difference
      min := after.min
      max := after.max
      isAnomaly := severity.isAnomalous
      severity
      score
      count := after.count
      timestamp := x.timestamp }
  (aggregate, after)

end SeriesState

/-- Whether a sample can be taken in: its value has to be finite. -/
def Sample.check (x : Sample) : Except Failure Unit :=
  if x.value.isFinite then .ok () else .error (.notFinite x.series.canonical x.value)

/-- Takes in a sample unless its value is not finite. -/
def SeriesState.update (t : Tuning) (tier : Tier) (s : SeriesState) (x : Sample) :
    Except Failure (Aggregate × SeriesState) := do
  x.check
  return s.absorb t tier x

end TierCascade
