import TierCascade.Detector.State
/-!
# Tables of states

The states of the series that one worker looks after.
-/

namespace TierCascade

structure SeriesTable where
  states : OrderedMap Series SeriesState
  deriving DecidableEq

namespace SeriesTable

def empty : SeriesTable := ⟨.empty⟩

instance : Inhabited SeriesTable := ⟨empty⟩

def get? (t : SeriesTable) (s : Series) : Option SeriesState := t.states.get? s

def put (t : SeriesTable) (s : Series) (state : SeriesState) : SeriesTable := ⟨t.states.insert s state⟩

def getOrOpen (t : SeriesTable) (s : Series) (timestamp : Int) : SeriesState :=
  (t.get? s).getD (.opened timestamp)

def contains (t : SeriesTable) (s : Series) : Bool := (t.get? s).isSome

def openAt (t : SeriesTable) (s : Series) (timestamp : Int) : SeriesTable :=
  t.put s (t.getOrOpen s timestamp)

def size (t : SeriesTable) : Nat := t.states.entries.length

def series (t : SeriesTable) : List Series := t.states.keys

end SeriesTable

end TierCascade
