import TierCascade.Stage.Table
/-!
# Stages

A stage is the share of one tier that one worker holds: it takes samples in and decides which of
them move on. A sample moves on when a whole period has passed since the last one that did. A sample
that was delivered before and then failed at a coarser tier moves on in any case, because it did so
the first time; the window is left as it is.
-/

namespace TierCascade

/-- The share of a tier that one worker holds. -/
structure Stage where
  tier : Tier
  tuning : Tuning
  table : SeriesTable
  deriving DecidableEq

namespace Stage

def new (tier : Tier) (tuning : Tuning) : Stage := ⟨tier, tuning, .empty⟩

/-- Takes in a sample. A series gets its state with its first finite value. -/
def process (s : Stage) (x : Sample) : Except Failure (Aggregate × Stage) := do
  let state := s.table.getOrOpen x.series x.timestamp
  let (aggregate, state) ← state.update s.tuning s.tier x
  return (aggregate, { s with table := s.table.put x.series state })

def opens (s : Stage) (series : Series) : Bool := !s.table.contains series

/-- Whether a sample has to move on whatever the window says: an earlier delivery of it failed at a
coarser tier. -/
def replays (tier : Tier) (replay : Option Tier) : Bool :=
  match replay with
  | some target => tier < target
  | none => false

/-- Decides whether an aggregate moves on. The coarsest tier keeps everything. -/
def closeWindow (s : Stage) (a : Aggregate) (replay : Option Tier) : Option Sample × Stage :=
  match s.tier.next, s.table.get? a.series with
  | none, _ | _, none => (none, s)
  | some _, some state =>
    if replays s.tier replay then (some a.toSample, s)
    else if state.elapsed a.timestamp < s.tier.period then (none, s)
    else
      let state := { state with lastEmitted := some a.timestamp }
      (some a.toSample, { s with table := s.table.put a.series state })

def inspect (s : Stage) (series : Series) : Option SeriesState := s.table.get? series

def census (s : Stage) : Nat := s.table.size

end Stage

/-- The number of workers of a tier and of the states they hold. -/
structure TierCensus where
  tier : Tier
  workers : Nat
  states : Nat
  deriving Repr, DecidableEq

end TierCascade
