import TierCascade.Severity
import TierCascade.Tier
/-!
# Meters

What the cascade counts while it runs. A meter holds a reading for each counter that was touched;
every other one reads zero. The number of units in flight is set, all others only grow.
-/

namespace TierCascade

inductive Counter where
  | processed (tier : Tier)
  | latency (tier : Tier)
  | forwarded (tier : Tier)
  | invalid
  | anomalies (tier : Tier) (severity : Severity)
  | sinkErrors (label : String)
  | states (tier : Tier)
  | acked
  | failed
  | redelivered
  | deadLettered
  | inFlight
  deriving Repr, DecidableEq

namespace Counter

def name : Counter → String
  | processed _ => "cascade_samples_processed_total"
  | latency _ => "cascade_stage_latency_seconds"
  | forwarded _ => "cascade_samples_forwarded_total"
  | invalid => "cascade_invalid_samples_total"
  | anomalies .. => "cascade_anomalies_detected_total"
  | sinkErrors _ => "cascade_sink_errors_total"
  | states _ => "cascade_stream_states"
  | acked => "cascade_units_acked_total"
  | failed => "cascade_units_failed_total"
  | redelivered => "cascade_units_redelivered_total"
  | deadLettered => "cascade_units_dead_lettered_total"
  | inFlight => "cascade_units_in_flight"

/-- The labels of a counter, ordered by their names. -/
def labels : Counter → List (String × String)
  | processed t | latency t | forwarded t | states t => [("granularity", t.name)]
  | anomalies t s => [("granularity", t.name), ("severity", s.name)]
  | sinkErrors label => [("sink", label)]
  | invalid | acked | failed | redelivered | deadLettered | inFlight => []

def title (c : Counter) : String :=
  c.name ++ "\x7b" ++ ",".intercalate (c.labels.map fun l => l.1 ++ "=" ++ l.2) ++ "\x7d"

end Counter

structure Meter where
  readings : List (Counter × Int)
  deriving Repr, DecidableEq

namespace Meter

def zero : Meter := ⟨[]⟩

instance : Inhabited Meter := ⟨zero⟩

def read (m : Meter) (c : Counter) : Int := ((m.readings.find? fun r => r.1 == c).map (·.2)).getD 0

/-- The counters that do not read zero. -/
def moved (m : Meter) : List (Counter × Int) := m.readings.filter fun r => r.2 != 0

def set (m : Meter) (c : Counter) (n : Int) : Meter :=
  ⟨(c, n) :: m.readings.filter fun r => r.1 != c⟩

def count (m : Meter) (c : Counter) : Meter := m.set c (m.read c + 1)

def countAll (m : Meter) (cs : List Counter) : Meter := cs.foldl count m

/-- A sample that was handled at a tier counts once and gives one latency. -/
def observe (m : Meter) (t : Tier) : Meter := m.countAll [.processed t, .latency t]

@[simp] theorem read_set_self (m : Meter) (c : Counter) (n : Int) : (m.set c n).read c = n := by
  simp [read, set]

private theorem find_filter_ne {c d : Counter} (h : d ≠ c) (rs : List (Counter × Int)) :
    (rs.filter fun r => r.1 != c).find? (fun r => r.1 == d) = rs.find? fun r => r.1 == d := by
  induction rs with
  | nil => rfl
  | cons r rs ih =>
    by_cases same : r.1 = c
    · have other : (r.1 == d) = false := by simpa [same] using fun e => h e.symm
      rw [List.filter_cons_of_neg (by simp [same]), ih, List.find?_cons_of_neg (by simp [other])]
    · rw [List.filter_cons_of_pos (by simpa using same)]
      by_cases found : r.1 = d
      · rw [List.find?_cons_of_pos (by simp [found]), List.find?_cons_of_pos (by simp [found])]
      · rw [List.find?_cons_of_neg (by simpa using found),
          List.find?_cons_of_neg (by simpa using found), ih]

theorem read_set_of_ne (m : Meter) {c d : Counter} (n : Int) (h : d ≠ c) :
    (m.set c n).read d = m.read d := by
  have other : (c == d) = false := by simpa using fun e => h e.symm
  rw [read, read, set, List.find?_cons_of_neg (by simp [other]), find_filter_ne h]

@[simp] theorem read_count_self (m : Meter) (c : Counter) : (m.count c).read c = m.read c + 1 :=
  read_set_self ..

theorem read_count_of_ne (m : Meter) {c d : Counter} (h : d ≠ c) : (m.count c).read d = m.read d :=
  read_set_of_ne _ _ h

end Meter

end TierCascade
