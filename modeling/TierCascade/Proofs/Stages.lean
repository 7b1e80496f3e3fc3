import TierCascade.Proofs.Maps
import TierCascade.Proofs.Tiers
/-!
# What a stage does to the state of a series

Taking in a sample (`Stage.process`) changes the state of its own series and of no other, and leaves
the window where it is. Looking at the window (`Stage.closeWindow`) follows the rule `Window`, whose
four cases are all there is to know about it: who moves on, why, and where the next window starts.
-/

namespace TierCascade

/-- What a look at the window comes to: the sample stays, or it moves on because the window has
passed, or because an earlier delivery of it failed farther on. -/
inductive Verdict where
  | kept
  | closed
  | replayed
  deriving Repr, DecidableEq

/-- The rule of the window of a tier, for an aggregate that has to reach `replay` and whose series is
in state `state`: the verdict and the state afterwards. -/
inductive Window (t : Tier) (replay : Option Tier) (a : Aggregate) (state : SeriesState) :
    Verdict → SeriesState → Prop where
  | last (h : t.next = none) : Window t replay a state .kept state
  | replayed {g : Tier} (h : t.next = some g) (r : Stage.replays t replay = true) :
      Window t replay a state .replayed state
  | kept {g : Tier} (h : t.next = some g) (r : Stage.replays t replay = false)
      (early : state.elapsed a.timestamp < t.period) : Window t replay a state .kept state
  | closed {g : Tier} (h : t.next = some g) (r : Stage.replays t replay = false)
      (due : t.period ≤ state.elapsed a.timestamp) :
      Window t replay a state .closed { state with lastEmitted := some a.timestamp }

namespace Sample

theorem check_eq_ok {x : Sample} : x.check = .ok () ↔ x.value.isFinite = true := by
  by_cases h : x.value.isFinite <;> simp [check, h]

end Sample

namespace Aggregate

/-- An aggregate stands for the sample it was made of, but for the label. -/
def Of (a : Aggregate) (x : Sample) : Prop :=
  a.series = x.series ∧ a.kind = x.kind ∧ a.timestamp = x.timestamp ∧ a.value = x.value

end Aggregate

theorem Moments.count_fold {α : Type} [NatCast α] [OfNat α 1] [Add α] [Sub α] [Mul α] [Div α] (warmup : Nat)
    (weight : α) (m : Moments α) (x : α) : (m.fold warmup weight x).count = m.count + 1 := by
  rw [fold]
  split <;> rfl

namespace SeriesState

/-- A difference that is a word is the one that was asked for. -/
theorem elapsed_of_isWord {s : SeriesState} {time : Int} (word : IsWord (time - s.anchor)) :
    s.elapsed time = time - s.anchor := by
  obtain ⟨above, below⟩ := word
  simp only [lowestInt, highestInt] at above below
  rw [elapsed, Nat.pow_eq]
  exact Int.bmod_eq_of_le (by omega) (by omega)

/-- From the lowest word to the highest one no time seems to pass. -/
example : (SeriesState.opened lowestInt).elapsed highestInt = -1 := by decide

variable (u : Tuning) (t : Tier) (s : SeriesState) (x : Sample)

theorem absorb_of : (s.absorb u t x).1.Of x := ⟨rfl, rfl, rfl, rfl⟩

@[simp] theorem absorb_lastEmitted : (s.absorb u t x).2.lastEmitted = s.lastEmitted := rfl

@[simp] theorem absorb_openedAt : (s.absorb u t x).2.openedAt = s.openedAt := rfl

end SeriesState

namespace Stage

/-! ### Taking samples in -/

def absorbed (st : Stage) (x : Sample) : Aggregate × SeriesState :=
  (st.table.getOrOpen x.series x.timestamp).absorb st.tuning st.tier x

theorem process_of_finite (st : Stage) {x : Sample} (h : x.value.isFinite = true) :
    st.process x
      = .ok ((st.absorbed x).1, { st with table := st.table.put x.series (st.absorbed x).2 }) := by
  simp only [process, SeriesState.update, Sample.check_eq_ok.2 h]
  rfl

theorem process_of_not_finite (st : Stage) {x : Sample} (h : x.value.isFinite = false) :
    st.process x = .error (.notFinite x.series.canonical x.value) := by
  have refused : x.check = .error (.notFinite x.series.canonical x.value) := by
    simp [Sample.check, h]
  simp only [process, SeriesState.update, refused]
  rfl

theorem process_eq_ok {st st' : Stage} {x : Sample} {a : Aggregate}
    (h : st.process x = .ok (a, st')) :
    x.value.isFinite = true ∧ a = (st.absorbed x).1 ∧
      st' = { st with table := st.table.put x.series (st.absorbed x).2 } := by
  by_cases finite : x.value.isFinite = true
  · rw [process_of_finite st finite] at h
    cases h
    exact ⟨finite, rfl, rfl⟩
  · rw [process_of_not_finite st (by simpa using finite)] at h
    cases h

theorem process_eq_error {st : Stage} {x : Sample} {f : Failure} (h : st.process x = .error f) :
    x.value.isFinite = false ∧ f = .notFinite x.series.canonical x.value := by
  by_cases finite : x.value.isFinite = true
  · rw [process_of_finite st finite] at h
    cases h
  · have refused : x.value.isFinite = false := by simpa using finite
    rw [process_of_not_finite st refused] at h
    cases h
    exact ⟨refused, rfl⟩

/-! ### Looking at the window -/

def verdict (st : Stage) (a : Aggregate) (replay : Option Tier) : Verdict :=
  match (st.closeWindow a replay).1 with
  | none => .kept
  | some _ => if replays st.tier replay then .replayed else .closed

/-- The look at the window follows the rule: the verdict, what moves on, and the state it leaves. -/
theorem closeWindow_window {st : Stage} {a : Aggregate} {state : SeriesState} (replay : Option Tier)
    (h : st.table.get? a.series = some state) :
    ∃ after, Window st.tier replay a state (st.verdict a replay) after ∧
      (st.closeWindow a replay).2.table.get? a.series = some after ∧
      (st.closeWindow a replay).1
        = if st.verdict a replay = .kept then none else some a.toSample := by
  cases next : st.tier.next with
  | none =>
    have stays : st.closeWindow a replay = (none, st) := by simp [closeWindow, next]
    simp only [verdict, stays]
    exact ⟨state, .last next, h, rfl⟩
  | some g =>
    cases forced : replays st.tier replay with
    | true =>
      have moves : st.closeWindow a replay = (some a.toSample, st) := by
        simp [closeWindow, next, h, forced]
      simp only [verdict, moves, forced, if_true]
      exact ⟨state, .replayed next forced, h, rfl⟩
    | false =>
      by_cases early : state.elapsed a.timestamp < st.tier.period
      · have stays : st.closeWindow a replay = (none, st) := by
          simp [closeWindow, next, h, forced, early]
        simp only [verdict, stays]
        exact ⟨state, .kept next forced early, h, rfl⟩
      · have moves : st.closeWindow a replay = (some a.toSample,
            { st with
              table := st.table.put a.series { state with lastEmitted := some a.timestamp } }) := by
          simp [closeWindow, next, h, forced, early]
        simp only [verdict, moves, forced, Bool.false_eq_true, if_false]
        exact ⟨_, .closed next forced (Int.not_lt.1 early), SeriesTable.get?_put_self .., rfl⟩

theorem closeWindow_isSome (st : Stage) (a : Aggregate) (replay : Option Tier) :
    (st.closeWindow a replay).1.isSome = true ↔ st.verdict a replay ≠ .kept := by
  unfold verdict
  cases (st.closeWindow a replay).1 with
  | none => simp
  | some x => by_cases forced : replays st.tier replay = true <;> simp [forced]

theorem next_of_verdict {st : Stage} {a : Aggregate} {replay : Option Tier}
    (h : st.verdict a replay ≠ .kept) : ∃ g, st.tier.next = some g := by
  cases next : st.tier.next with
  | some g => exact ⟨g, rfl⟩
  | none =>
    refine absurd ?_ h
    simp [verdict, closeWindow, next]

theorem eq_toSample_of_closeWindow {st : Stage} {a : Aggregate} {replay : Option Tier} {x : Sample}
    (h : (st.closeWindow a replay).1 = some x) : x = a.toSample := by
  unfold closeWindow at h
  split at h
  · cases h
  · cases h
  · split at h
    · cases h
      rfl
    · split at h
      · cases h
      · cases h
        rfl

theorem get?_closeWindow_of_ne (st : Stage) {a : Aggregate} (replay : Option Tier) {y : Series}
    (h : y ≠ a.series) : (st.closeWindow a replay).2.table.get? y = st.table.get? y := by
  unfold closeWindow
  split
  · rfl
  · rfl
  · split
    · rfl
    · split
      · rfl
      · exact SeriesTable.get?_put_of_ne _ _ h

@[simp] theorem closeWindow_tier (st : Stage) (a : Aggregate) (replay : Option Tier) :
    (st.closeWindow a replay).2.tier = st.tier := by
  unfold closeWindow
  repeat' split <;> try rfl

@[simp] theorem closeWindow_tuning (st : Stage) (a : Aggregate) (replay : Option Tier) :
    (st.closeWindow a replay).2.tuning = st.tuning := by
  unfold closeWindow
  repeat' split <;> try rfl

end Stage

/-! ### Consequences of the rule -/

namespace Window

variable {t : Tier} {replay : Option Tier} {a : Aggregate} {state after : SeriesState} {v : Verdict}

theorem replays_of_replayed (w : Window t replay a state .replayed after) :
    Stage.replays t replay = true := by
  cases w with
  | replayed _ forced => exact forced

/-- Where nothing has to move on, the window decides. -/
theorem moves_iff (w : Window t replay a state v after) (r : Stage.replays t replay = false) :
    v ≠ .kept ↔ t.next.isSome = true ∧ t.period ≤ state.elapsed a.timestamp := by
  cases w with
  | last final => simp [final]
  | replayed _ forced => rw [r] at forced; cases forced
  | kept _ _ early => simp [early]
  | closed next _ due => simp [next, due]

end Window

end TierCascade
