import Mathlib.Data.List.Induction
import TierCascade.Proofs.Doubles
import TierCascade.Proofs.Lanes
/-!
# What a state shows of its samples

Where its window starts aside, the state of a series at a tier is what the samples that the tier has
taken in make of it (`Settings.stateAfter`), and it shows how many there were, the least and the
greatest of them, the last one and the latest (`SeriesState.Shows`). So if one tier has taken in only
samples that another one has taken in too, its state shows no more than the other's
(`SeriesState.Shows.within`).
-/

namespace TierCascade

/-- A sample without its label. -/
def Sample.bare (x : Sample) : Sample := { x with label := none }

theorem Aggregate.Of.toSample {a : Aggregate} {x : Sample} (made : a.Of x) : a.toSample = x.bare := by
  obtain ⟨series, kind, timestamp, value⟩ := made
  rw [Aggregate.toSample, series, kind, timestamp, value]
  rfl

/-- A state, wherever its window starts. -/
def SeriesState.unmarked (st : SeriesState) : SeriesState := { st with lastEmitted := none }

namespace Settings

variable (s : Settings) (t : Tier)

/-- What taking in some samples of a series makes of a state that was not there before. -/
def stateAfter (xs : List Sample) : Option SeriesState :=
  xs.foldl (fun state x => some (s.absorb t state x).2) none

theorem stateAfter_concat (xs : List Sample) (x : Sample) :
    s.stateAfter t (xs ++ [x]) = some (s.absorb t (s.stateAfter t xs) x).2 := by
  rw [stateAfter, List.foldl_append]
  rfl

theorem stateAfter_eq_none {xs : List Sample} : s.stateAfter t xs = none ↔ xs = [] := by
  cases xs using List.reverseRecOn with
  | nil => exact iff_of_true rfl rfl
  | append_singleton xs x =>
    rw [stateAfter_concat]
    exact iff_of_false nofun (List.append_ne_nil_of_right_ne_nil _ (List.cons_ne_nil x []))

/-- Neither the label of a sample nor the start of the window plays a part when it is taken in. -/
theorem unmarked_absorb (state : Option SeriesState) (x : Sample) :
    (s.absorb t state x).2.unmarked = (s.absorb t (state.map SeriesState.unmarked) x.bare).2 := by
  cases state <;> rfl

end Settings

/-- What a state shows of the samples it was made of. -/
structure SeriesState.Shows (st : SeriesState) (xs : List Sample) : Prop where
  count : st.count = xs.length
  min : st.min ∈ xs.map (·.value)
  least : ∀ x ∈ xs, st.min ≤ x.value
  max : st.max ∈ xs.map (·.value)
  greatest : ∀ x ∈ xs, x.value ≤ st.max
  lastValue : st.lastValue ∈ xs.map (·.value)
  lastTimestamp : st.lastTimestamp ∈ xs.map (·.timestamp)
  latest : ∀ x ∈ xs, x.timestamp ≤ st.lastTimestamp
  openedAt : st.openedAt ∈ xs.map (·.timestamp)

namespace SeriesState.Shows

variable {s : Settings} {t : Tier} {st st' : SeriesState} {xs ys : List Sample} {x : Sample}

theorem first (finite : x.value.isFinite = true) : (s.absorb t none x).2.Shows [x] := by
  have number := Doubles.number_of_finite finite
  have min : (s.absorb t none x).2.min = x.value := Doubles.lesserOf_infinity number
  have max : (s.absorb t none x).2.max = x.value := Doubles.greaterOf_infinity number
  have latest : (s.absorb t none x).2.lastTimestamp = x.timestamp := max_self x.timestamp
  constructor
  case count => exact Moments.count_fold ..
  case min => rw [min]; exact List.mem_cons_self
  case least =>
    intro y mem
    rw [min, List.mem_singleton.1 mem]
    exact Doubles.le_self number
  case max => rw [max]; exact List.mem_cons_self
  case greatest =>
    intro y mem
    rw [max, List.mem_singleton.1 mem]
    exact Doubles.le_self number
  case lastValue => exact List.mem_cons_self
  case lastTimestamp => rw [latest]; exact List.mem_cons_self
  case latest =>
    intro y mem
    rw [latest, List.mem_singleton.1 mem]
  case openedAt => exact List.mem_cons_self

theorem mem_map_concat {α : Type} {f : Sample → α} {a b : α} (old : a ∈ xs.map f)
    (either : b = a ∨ b = f x) : b ∈ (xs ++ [x]).map f := by
  rw [List.map_append]
  rcases either with rfl | rfl
  · exact List.mem_append_left _ old
  · exact List.mem_append_right _ List.mem_cons_self

theorem next (shows : st.Shows xs) (finite : ∀ y ∈ xs ++ [x], y.value.isFinite = true) :
    (s.absorb t (some st) x).2.Shows (xs ++ [x]) := by
  have number : x.value.isNaN = false :=
    Doubles.number_of_finite (finite x (List.mem_append_right _ List.mem_cons_self))
  have numbers : ∀ {v}, v ∈ xs.map (·.value) → v.isNaN = false := by
    intro v mem
    obtain ⟨y, old, rfl⟩ := List.mem_map.1 mem
    exact Doubles.number_of_finite (finite y (List.mem_append_left _ old))
  obtain ⟨least, low, low'⟩ := Doubles.lesserOf_spec (numbers shows.min) number
  obtain ⟨greatest, high, high'⟩ := Doubles.greaterOf_spec (numbers shows.max) number
  constructor
  case count =>
    rw [List.length_append, ← shows.count]
    exact Moments.count_fold ..
  case min => exact mem_map_concat shows.min least
  case least =>
    intro y mem
    rcases List.mem_append.1 mem with old | new
    · exact Doubles.le_chain low (shows.least y old)
    · rw [List.mem_singleton.1 new]
      exact low'
  case max => exact mem_map_concat shows.max greatest
  case greatest =>
    intro y mem
    rcases List.mem_append.1 mem with old | new
    · exact Doubles.le_chain (shows.greatest y old) high
    · rw [List.mem_singleton.1 new]
      exact high'
  case lastValue => exact mem_map_concat shows.lastValue (.inr rfl)
  case lastTimestamp => exact mem_map_concat shows.lastTimestamp (max_choice _ _)
  case latest =>
    intro y mem
    rcases List.mem_append.1 mem with old | new
    · exact (shows.latest y old).trans (le_max_left _ _)
    · rw [List.mem_singleton.1 new]
      exact le_max_right _ _
  case openedAt => exact mem_map_concat shows.openedAt (.inl rfl)

/-- **A state shows the samples it was made of.** -/
theorem of_stateAfter (finite : ∀ x ∈ xs, x.value.isFinite = true)
    (known : s.stateAfter t xs = some st) : st.Shows xs := by
  induction xs using List.reverseRecOn generalizing st with
  | nil => cases known
  | append_singleton xs x ih =>
    rw [Settings.stateAfter_concat, Option.some_inj] at known
    subst known
    have before : ∀ y ∈ xs, y.value.isFinite = true := fun y old =>
      finite y (List.mem_append_left _ old)
    cases state : s.stateAfter t xs with
    | some st => exact (ih before state).next finite
    | none =>
      obtain rfl := (Settings.stateAfter_eq_none ..).1 state
      exact first (finite x List.mem_cons_self)

theorem of_unmarked (shows : st.unmarked.Shows xs) : st.Shows xs := by
  obtain ⟨count, min, least, max, greatest, lastValue, lastTimestamp, latest, openedAt⟩ := shows
  exact ⟨count, min, least, max, greatest, lastValue, lastTimestamp, latest, openedAt⟩

/-- A state that was made of some of the samples shows no more than one that was made of all. -/
theorem within (shows : st.Shows ys) (all : st'.Shows xs) (part : ys.Sublist xs) :
    st.count ≤ st'.count ∧ st'.min ≤ st.min ∧ st.max ≤ st'.max ∧
      st.lastTimestamp ≤ st'.lastTimestamp := by
  refine ⟨?_, ?_, ?_, ?_⟩
  · rw [shows.count, all.count]
    exact part.length_le
  · obtain ⟨y, mem, value⟩ := List.mem_map.1 shows.min
    exact value ▸ all.least y (part.subset mem)
  · obtain ⟨y, mem, value⟩ := List.mem_map.1 shows.max
    exact value ▸ all.greatest y (part.subset mem)
  · obtain ⟨y, mem, timestamp⟩ := List.mem_map.1 shows.lastTimestamp
    exact timestamp ▸ all.latest y (part.subset mem)

end SeriesState.Shows

end TierCascade
