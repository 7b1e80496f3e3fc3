import Mathlib.Data.Finset.Card
import TierCascade.Proofs.Bench
/-!
# What a stage remembers

A stage that started without states has one for each series of which it has taken a number in, and for no other.
Whatever else it was asked in between, the state shows the numbers of its series, was opened by the first of them
and quotes the last one (`SeriesState.Recalls`); there are as many states as the meter has counted
(`Bench.remembers`).

`Stage.Remembers` is what carries this along: one lemma for a number that is taken in, one for a sample that is
turned away, and one for a look at a window.
-/

namespace TierCascade

/-- A state shows some samples, was opened by the first of them and quotes the last one. -/
structure SeriesState.Recalls (st : SeriesState) (xs : List Sample) : Prop extends st.Shows xs where
  first : xs.head?.map (·.timestamp) = some st.openedAt
  last : xs.getLast?.map (·.value) = some st.lastValue

/-- An aggregate stands for a sample and reports a state. -/
structure Aggregate.Reports (a : Aggregate) (x : Sample) (st : SeriesState) : Prop where
  stands : a.Of x
  count : a.count = st.count
  mean : a.mean = st.moments.mean
  deviation : a.deviation = st.deviation
  min : a.min = st.min
  max : a.max = st.max
  value : a.value = st.lastValue

theorem SeriesState.reports_absorb (u : Tuning) (t : Tier) (st : SeriesState) (x : Sample) :
    (st.absorb u t x).1.Reports x (st.absorb u t x).2 :=
  ⟨absorb_of .., rfl, rfl, rfl, rfl, rfl, rfl⟩

namespace SeriesState.Recalls

variable {s : Settings} {t : Tier} {st : SeriesState} {xs : List Sample} {x : Sample}

theorem ne_nil (recalls : st.Recalls xs) : xs ≠ [] := by
  rintro rfl
  cases recalls.first

theorem start (finite : x.value.isFinite = true) : (s.absorb t none x).2.Recalls [x] :=
  ⟨.first finite, rfl, rfl⟩

theorem next (recalls : st.Recalls xs) (finite : ∀ y ∈ xs ++ [x], y.value.isFinite = true) :
    (s.absorb t (some st) x).2.Recalls (xs ++ [x]) := by
  refine ⟨recalls.toShows.next finite, ?_, ?_⟩
  · rw [List.head?_append_of_ne_nil _ recalls.ne_nil]
    exact recalls.first
  · rw [List.getLast?_concat]
    rfl

theorem window {replay : Option Tier} {a : Aggregate} {new : SeriesState} {v : Verdict}
    (rule : Window t replay a st v new) (recalls : st.Recalls xs) : new.Recalls xs := by
  cases rule with
  | closed =>
    obtain ⟨shows, first, last⟩ := recalls
    obtain ⟨count, min, least, max, greatest, lastValue, lastTimestamp, latest, openedAt⟩ := shows
    exact ⟨⟨count, min, least, max, greatest, lastValue, lastTimestamp, latest, openedAt⟩, first, last⟩
  | _ => exact recalls

end SeriesState.Recalls

namespace Series

variable {k : Series} {xs : List Sample} {x : Sample}

theorem finite_of_mem_numbers (mem : x ∈ k.numbers xs) : x.value.isFinite = true :=
  (Bool.and_eq_true_iff.1 (List.mem_filter.1 mem).2).2

theorem numbers_concat_self (xs : List Sample) (finite : x.value.isFinite = true) :
    x.series.numbers (xs ++ [x]) = x.series.numbers xs ++ [x] := by
  simp [numbers, finite]

theorem numbers_concat_of_ne (xs : List Sample) (apart : k ≠ x.series) : k.numbers (xs ++ [x]) = k.numbers xs := by
  simp [numbers, Ne.symm apart]

theorem numbers_concat_of_not_finite (xs : List Sample) (infinite : x.value.isFinite = false) :
    k.numbers (xs ++ [x]) = k.numbers xs := by
  simp [numbers, infinite]

end Series

namespace Stage

/-- A stage has a state for each series of which there is a number among some samples, and for no other, and the
state recalls them. -/
def Remembers (st : Stage) (xs : List Sample) : Prop :=
  ∀ k, match st.inspect k with
    | none => k.numbers xs = []
    | some state => state.Recalls (k.numbers xs)

variable {st : Stage} {xs : List Sample} {x : Sample} {k : Series} {state : SeriesState}

theorem exists_absorbed_eq (st : Stage) (x : Sample) :
    ∃ s : Settings, st.absorbed x = s.absorb st.tier (st.inspect x.series) x :=
  ⟨{ Settings.standard with tuning := st.tuning }, rfl⟩

namespace Remembers

theorem new (t : Tier) (u : Tuning) : (Stage.new t u).Remembers [] := fun _ => rfl

theorem none (remembers : st.Remembers xs) (absent : st.inspect k = none) : k.numbers xs = [] := by
  have own := remembers k
  rwa [absent] at own

theorem recalls (remembers : st.Remembers xs) (known : st.inspect k = some state) :
    state.Recalls (k.numbers xs) := by
  have own := remembers k
  rwa [known] at own

theorem exists_state_iff (remembers : st.Remembers xs) (k : Series) :
    (∃ state, st.inspect k = some state) ↔ k.numbers xs ≠ [] := by
  cases known : st.inspect k with
  | none => exact iff_of_false nofun fun numbers => numbers (remembers.none known)
  | some state => exact iff_of_true ⟨state, rfl⟩ (remembers.recalls known).ne_nil

theorem absorbed (remembers : st.Remembers xs) (finite : x.value.isFinite = true) :
    (st.absorbed x).2.Recalls (x.series.numbers (xs ++ [x])) := by
  have numbers := Series.numbers_concat_self xs finite
  have all : ∀ y ∈ x.series.numbers xs ++ [x], y.value.isFinite = true := fun y mem =>
    Series.finite_of_mem_numbers (numbers ▸ mem)
  obtain ⟨s, same⟩ := st.exists_absorbed_eq x
  rw [same, numbers]
  cases known : st.inspect x.series with
  | none =>
    rw [remembers.none known]
    exact .start finite
  | some old => exact (remembers.recalls known).next all

theorem taken (remembers : st.Remembers xs) (finite : x.value.isFinite = true) :
    (st.taken x).Remembers (xs ++ [x]) := by
  intro k
  by_cases own : k = x.series
  · subst own
    rw [inspect_taken_self]
    exact remembers.absorbed finite
  · rw [st.inspect_taken_of_ne own, Series.numbers_concat_of_ne xs own]
    exact remembers k

theorem refused (remembers : st.Remembers xs) (infinite : x.value.isFinite = false) :
    st.Remembers (xs ++ [x]) := by
  intro k
  rw [Series.numbers_concat_of_not_finite xs infinite]
  exact remembers k

theorem closeWindow (remembers : st.Remembers xs) (a : Aggregate) (replay : Option Tier) :
    (st.closeWindow a replay).2.Remembers xs := by
  cases known : st.inspect a.series with
  | none =>
    rw [closeWindow_of_none replay known]
    exact remembers
  | some old =>
    obtain ⟨new, rule, left, -⟩ := closeWindow_window replay known
    intro k
    by_cases own : k = a.series
    · subst own
      rw [inspect, left]
      exact .window rule (remembers.recalls known)
    · rw [inspect, st.get?_closeWindow_of_ne replay own]
      exact remembers k

end Remembers

theorem exists_finset (st : Stage) : ∃ keys : Finset Series,
    (∀ k, k ∈ keys ↔ ∃ state, st.inspect k = some state) ∧ st.census = keys.card := by
  refine ⟨st.table.series.toFinset, fun k => ?_, ?_⟩
  · rw [List.mem_toFinset, SeriesTable.mem_series, Option.isSome_iff_exists]
    rfl
  · have once : st.table.series.Nodup := OrderedMap.nodup_keys _
    rw [List.toFinset_card_of_nodup once, SeriesTable.length_series]
    rfl

end Stage

namespace Bench

def given (rs : List Stage.Request) : List Sample := rs.filterMap Stage.Request.sample?

theorem given_concat_take (rs : List Stage.Request) (x : Sample) : given (rs ++ [.take x]) = given rs ++ [x] :=
  List.filterMap_append

theorem given_concat_look (rs : List Stage.Request) (a : Aggregate) (replay : Option Tier) :
    given (rs ++ [.look a replay]) = given rs :=
  List.filterMap_append.trans (List.append_nil _)

theorem remembers_serveAll (b : Bench) (start : b.stage.Remembers []) (rs : List Stage.Request) :
    (b.serveAll rs).stage.Remembers (given rs) := by
  induction rs using List.reverseRecOn with
  | nil => exact start
  | append_singleton rs r ih =>
    rw [serveAll_concat]
    cases r with
    | look a replay =>
      rw [given_concat_look]
      exact ih.closeWindow a replay
    | take x =>
      rw [given_concat_take]
      rcases serve_take (b.serveAll rs) x with ⟨finite, taken⟩ | ⟨infinite, stays⟩
      · rw [taken]
        exact ih.taken finite
      · rw [stays]
        exact ih.refused infinite

/-- **What a stage remembers.** A stage that started without states may be asked to take in any samples and to
look at any windows, in any order. It turns a sample away just if its value is not finite, and is then left as
it was; of any other it makes an aggregate that reports the state as it stands with that sample. A series has a
state just if a number of it was taken in; the state has counted its numbers, was opened at the time of the
first, quotes the last, and shows the latest of their times and the least and the greatest of their values. And
the states are as many as the series with a state, and the meter has counted each of them once. -/
theorem remembers (t : Tier) (u : Tuning) (m : Meter) (rs : List Stage.Request) :
    let xs := given rs
    let b := serveAll ⟨.new t u, m, []⟩ rs
    (∀ x : Sample,
      (x.value.isFinite = false →
        b.stage.process x = .error (.notFinite x.series.canonical x.value) ∧ b.serve (.take x) = b) ∧
      (x.value.isFinite = true → ∃ a state, b.stage.process x = .ok (a, (b.serve (.take x)).stage) ∧
        (b.serve (.take x)).stage.inspect x.series = some state ∧ a.Reports x state ∧
        state.Recalls (x.series.numbers (xs ++ [x])))) ∧
    (∀ k, (∃ state, b.stage.inspect k = some state) ↔ k.numbers xs ≠ []) ∧
    (∀ k state, b.stage.inspect k = some state → state.Recalls (k.numbers xs)) ∧
    ∃ keys : Finset Series, (∀ k, k ∈ keys ↔ ∃ state, b.stage.inspect k = some state) ∧
      b.stage.census = keys.card ∧ b.meter.read (.states t) = m.read (.states t) + keys.card := by
  intro xs b
  have known : b.stage.Remembers xs := remembers_serveAll _ (.new t u) rs
  refine ⟨fun x => ⟨fun infinite => ?_, fun finite => ?_⟩, known.exists_state_iff, fun _ _ => known.recalls,
    ?_⟩
  · rcases b.serve_take x with ⟨finite, -⟩ | ⟨-, stays⟩
    · cases infinite.symm.trans finite
    · exact ⟨b.stage.process_of_not_finite infinite, stays⟩
  · rcases b.serve_take x with ⟨-, taken⟩ | ⟨infinite, -⟩
    · rw [taken]
      exact ⟨_, _, b.stage.process_of_finite finite, Stage.inspect_taken_self .., SeriesState.reports_absorb ..,
        known.absorbed finite⟩
    · cases finite.symm.trans infinite
  · obtain ⟨keys, members, census⟩ := b.stage.exists_finset
    have gauge : b.meter.read (.states t) - b.stage.census = m.read (.states t) - (0 : Nat) :=
      serveAll_gauge ⟨.new t u, m, []⟩ rs
    refine ⟨keys, members, census, ?_⟩
    rw [← census]
    omega

end Bench

end TierCascade
