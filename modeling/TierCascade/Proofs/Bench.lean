import TierCascade.Proofs.Nesting
/-!
# A stage on the bench

A stage by itself, asked to take samples in and to look at the windows of aggregates in any order, whatever the
samples are and whether or not it has made the aggregates (`Bench.serveAll`). A worker does with its stage and
with the count of its states what the bench does (`Plant.take_serve`).

`Bench.serve_known` is the step all else rests on: a state that is there stays there, and of what matters to its
window nothing goes back, unless a window is looked at by a difference that is no word. The count of states on the meter moves with the size of the table (`Bench.serve_gauge`),
and what was made of a sample remains no later than what the state of its series shows (`Bench.serveAll_sound`).
-/

namespace TierCascade

/-- What a stage can be asked: to take a sample in, or to look at the window of an aggregate. -/
inductive Stage.Request where
  | take (x : Sample)
  | look (a : Aggregate) (replay : Option Tier)

def Stage.Request.sample? : Stage.Request → Option Sample
  | take x => some x
  | look .. => none

/-- A stage by itself, the meter on which its states are counted, and the samples that it has taken in with what
it has made of them. -/
structure Bench where
  stage : Stage
  meter : Meter
  made : List (Sample × Aggregate)

namespace Bench

def serve (b : Bench) : Stage.Request → Bench
  | .take x =>
    match b.stage.process x with
    | .error _ => b
    | .ok (a, stage) =>
      { stage
        meter := if b.stage.opens x.series then b.meter.count (.states b.stage.tier) else b.meter
        made := b.made ++ [(x, a)] }
  | .look a replay => { b with stage := (b.stage.closeWindow a replay).2 }

def serveAll (b : Bench) (rs : List Stage.Request) : Bench := rs.foldl serve b

/-- Whether a request asks for no difference but words. -/
def Fits (b : Bench) : Stage.Request → Prop
  | .take _ => True
  | .look a _ => ∀ state, b.stage.inspect a.series = some state → IsWord (a.timestamp - state.anchor)

/-- Whether requests do, each at the time when it is made. -/
def AllFit (b : Bench) : List Stage.Request → Prop
  | [] => True
  | r :: rs => b.Fits r ∧ (b.serve r).AllFit rs

end Bench

/-! ### What a state keeps -/

/-- Of what matters to the window of a state nothing goes back. -/
structure SeriesState.Onward (old new : SeriesState) : Prop where
  openedAt : new.openedAt = old.openedAt
  lastTimestamp : old.lastTimestamp ≤ new.lastTimestamp
  lastEmitted : ∀ {e}, old.lastEmitted = some e → ∃ e', new.lastEmitted = some e' ∧ e ≤ e'

namespace SeriesState.Onward

variable {old mid new : SeriesState}

theorem refl (st : SeriesState) : st.Onward st :=
  ⟨rfl, Int.le_refl _, fun emitted => ⟨_, emitted, Int.le_refl _⟩⟩

theorem trans (first : old.Onward mid) (second : mid.Onward new) : old.Onward new := by
  refine ⟨second.openedAt.trans first.openedAt, first.lastTimestamp.trans second.lastTimestamp, fun emitted => ?_⟩
  obtain ⟨e', emitted', up⟩ := first.lastEmitted emitted
  obtain ⟨e'', emitted'', up'⟩ := second.lastEmitted emitted'
  exact ⟨e'', emitted'', up.trans up'⟩

theorem absorb (u : Tuning) (t : Tier) (st : SeriesState) (x : Sample) : st.Onward (st.absorb u t x).2 :=
  ⟨rfl, le_max_left _ _, fun emitted => ⟨_, emitted, Int.le_refl _⟩⟩

end SeriesState.Onward

theorem SeriesState.anchor_of_lastEmitted {st : SeriesState} {e : Int} (emitted : st.lastEmitted = some e) :
    st.anchor = e := by
  rw [anchor, emitted]
  rfl

theorem Window.mark {t : Tier} {replay : Option Tier} {a : Aggregate} {old new : SeriesState} {v : Verdict}
    (rule : Window t replay a old v new) : new = { old with lastEmitted := new.lastEmitted } := by
  cases rule <;> rfl

theorem Window.onward {t : Tier} {replay : Option Tier} {a : Aggregate} {old new : SeriesState} {v : Verdict}
    (rule : Window t replay a old v new) (word : IsWord (a.timestamp - old.anchor)) : old.Onward new := by
  cases rule with
  | closed _ _ due =>
    refine ⟨rfl, Int.le_refl _, fun emitted => ⟨a.timestamp, rfl, ?_⟩⟩
    rw [SeriesState.elapsed_of_isWord word, SeriesState.anchor_of_lastEmitted emitted] at due
    have period := t.period_pos
    omega
  | _ => exact .refl _

namespace SeriesTable

variable {t : SeriesTable} {x : Series}

theorem size_put_of_none (state : SeriesState) (none : t.get? x = none) : (t.put x state).size = t.size + 1 :=
  OrderedMap.length_insert_of_none _ none

theorem size_put_of_some {old : SeriesState} (state : SeriesState) (known : t.get? x = some old) :
    (t.put x state).size = t.size :=
  OrderedMap.length_insert_of_some _ known

end SeriesTable

namespace Stage

variable {st : Stage} {k : Series}

theorem closeWindow_of_none {a : Aggregate} (replay : Option Tier) (none : st.inspect a.series = none) :
    st.closeWindow a replay = (Option.none, st) := by
  rw [closeWindow, show st.table.get? a.series = Option.none from none]
  split <;> first | rfl | simp_all

theorem census_closeWindow (st : Stage) (a : Aggregate) (replay : Option Tier) :
    (st.closeWindow a replay).2.census = st.census := by
  unfold closeWindow
  split
  · rfl
  · rfl
  · rename_i known
    split
    · rfl
    · split
      · rfl
      · exact SeriesTable.size_put_of_some _ known

theorem absorbed_eq (st : Stage) (x : Sample) : st.absorbed x
    = ((st.inspect x.series).getD (.opened x.timestamp)).absorb st.tuning st.tier x :=
  rfl

theorem inspect_taken_self (st : Stage) (x : Sample) :
    (st.taken x).inspect x.series = some (st.absorbed x).2 :=
  SeriesTable.get?_put_self ..

theorem inspect_taken_of_ne (st : Stage) {x : Sample} (h : k ≠ x.series) :
    (st.taken x).inspect k = st.inspect k :=
  SeriesTable.get?_put_of_ne _ _ h

end Stage

namespace Bench

variable {b : Bench} {k : Series} {old : SeriesState}

/-! ### One request -/

/-- A sample is taken in, or it is turned away and leaves no trace. -/
theorem serve_take (b : Bench) (x : Sample) :
    x.value.isFinite = true ∧ b.serve (.take x) =
        { stage := b.stage.taken x
          meter := if b.stage.opens x.series then b.meter.count (.states b.stage.tier) else b.meter
          made := b.made ++ [(x, (b.stage.absorbed x).1)] } ∨
      x.value.isFinite = false ∧ b.serve (.take x) = b := by
  rw [serve]
  cases finite : x.value.isFinite with
  | true =>
    rw [Stage.process_of_finite b.stage finite]
    exact .inl ⟨rfl, rfl⟩
  | false =>
    rw [Stage.process_of_not_finite b.stage finite]
    exact .inr ⟨rfl, rfl⟩

theorem serve_tier (b : Bench) (r : Stage.Request) :
    (b.serve r).stage.tier = b.stage.tier ∧ (b.serve r).stage.tuning = b.stage.tuning := by
  cases r with
  | look a replay => exact ⟨b.stage.closeWindow_tier a replay, b.stage.closeWindow_tuning a replay⟩
  | take x =>
    rcases b.serve_take x with ⟨-, taken⟩ | ⟨-, stays⟩
    · rw [taken]
      exact ⟨rfl, rfl⟩
    · rw [stays]
      exact ⟨rfl, rfl⟩

/-- **A state that is there stays there**, and of what matters to its window nothing goes back. -/
theorem serve_known (r : Stage.Request) (known : b.stage.inspect k = some old) :
    ∃ new, (b.serve r).stage.inspect k = some new ∧ old.lastTimestamp ≤ new.lastTimestamp ∧
      (b.Fits r → old.Onward new) := by
  have stays : old.lastTimestamp ≤ old.lastTimestamp ∧ (b.Fits r → old.Onward old) :=
    ⟨Int.le_refl _, fun _ => .refl old⟩
  cases r with
  | take x =>
    rcases b.serve_take x with ⟨-, taken⟩ | ⟨-, refused⟩
    · rw [taken]
      by_cases own : k = x.series
      · subst own
        refine ⟨_, Stage.inspect_taken_self .., ?_⟩
        rw [Stage.absorbed_eq, known]
        have onward := SeriesState.Onward.absorb b.stage.tuning b.stage.tier old x
        exact ⟨onward.lastTimestamp, fun _ => onward⟩
      · exact ⟨old, (Stage.inspect_taken_of_ne _ own).trans known, stays⟩
    · rw [refused]
      exact ⟨old, known, stays⟩
  | look a replay =>
    by_cases own : k = a.series
    · subst own
      obtain ⟨new, rule, known', -⟩ := Stage.closeWindow_window replay known
      have late : old.lastTimestamp = new.lastTimestamp := by rw [rule.mark]
      exact ⟨new, known', late.le, fun fits => rule.onward (fits old known)⟩
    · exact ⟨old, (Stage.get?_closeWindow_of_ne _ replay own).trans known, stays⟩

/-- The count of states on the meter moves with the size of the table. -/
theorem serve_gauge (b : Bench) (r : Stage.Request) :
    (b.serve r).meter.read (.states b.stage.tier) - (b.serve r).stage.census
      = b.meter.read (.states b.stage.tier) - b.stage.census := by
  cases r with
  | look a replay => rw [serve, b.stage.census_closeWindow a replay]
  | take x =>
    rcases b.serve_take x with ⟨-, taken⟩ | ⟨-, stays⟩
    · rw [taken]
      cases state : b.stage.table.get? x.series with
      | none =>
        have opens : b.stage.opens x.series = true := by simp [Stage.opens, SeriesTable.contains, state]
        have grown : (b.stage.taken x).census = b.stage.census + 1 := SeriesTable.size_put_of_none _ state
        rw [if_pos opens, Meter.read_count_self, grown]
        push_cast
        omega
      | some old =>
        have open' : ¬ b.stage.opens x.series = true := by simp [Stage.opens, SeriesTable.contains, state]
        have same : (b.stage.taken x).census = b.stage.census := SeriesTable.size_put_of_some _ state
        rw [if_neg open', same]
    · rw [stays]

/-- All that was made stands for the sample it was made of, and that sample is no later than what the state of
its series shows. -/
def Sound (b : Bench) : Prop :=
  ∀ x a, (x, a) ∈ b.made → a.Of x ∧
    ∃ state, b.stage.inspect x.series = some state ∧ x.timestamp ≤ state.lastTimestamp

theorem serve_sound (b : Bench) (r : Stage.Request) (sound : b.Sound) : (b.serve r).Sound := by
  intro x a mem
  by_cases old : (x, a) ∈ b.made
  · obtain ⟨stands, state, known, late⟩ := sound x a old
    obtain ⟨new, known', later, -⟩ := b.serve_known r known
    exact ⟨stands, new, known', late.trans later⟩
  · cases r with
    | look => exact absurd mem old
    | take y =>
      rcases b.serve_take y with ⟨-, taken⟩ | ⟨-, stays⟩
      · rw [taken] at mem ⊢
        obtain ⟨rfl, rfl⟩ : x = y ∧ a = (b.stage.absorbed y).1 := by
          simpa [old] using mem
        exact ⟨SeriesState.absorb_of .., _, Stage.inspect_taken_self .., le_max_right _ _⟩
      · rw [stays] at mem
        exact absurd mem old

/-! ### Many requests -/

theorem serveAll_keeps {P : Bench → Prop} (step : ∀ b r, P b → P (b.serve r)) {b : Bench} (start : P b)
    (rs : List Stage.Request) : P (b.serveAll rs) := by
  induction rs generalizing b with
  | nil => exact start
  | cons r rs ih => exact ih (step b r start)

theorem serveAll_concat (b : Bench) (rs : List Stage.Request) (r : Stage.Request) :
    b.serveAll (rs ++ [r]) = (b.serveAll rs).serve r := by
  rw [serveAll, List.foldl_append]
  rfl

theorem serveAll_known (rs : List Stage.Request) (known : b.stage.inspect k = some old) :
    ∃ new, (b.serveAll rs).stage.inspect k = some new ∧ (b.AllFit rs → old.Onward new) := by
  induction rs generalizing b old with
  | nil => exact ⟨old, known, fun _ => .refl old⟩
  | cons r rs ih =>
    obtain ⟨mid, known', -, first⟩ := b.serve_known r known
    obtain ⟨new, known'', second⟩ := ih known'
    exact ⟨new, known'', fun fit => (first fit.1).trans (second fit.2)⟩

theorem serveAll_gauge (b : Bench) (rs : List Stage.Request) :
    (b.serveAll rs).meter.read (.states b.stage.tier) - (b.serveAll rs).stage.census
      = b.meter.read (.states b.stage.tier) - b.stage.census := by
  refine (serveAll_keeps (P := fun b' => b'.stage.tier = b.stage.tier ∧
    b'.meter.read (.states b.stage.tier) - b'.stage.census = b.meter.read (.states b.stage.tier) - b.stage.census)
    (fun b' r => ?_) ⟨rfl, rfl⟩ rs).2
  rintro ⟨tier, same⟩
  have step := b'.serve_gauge r
  rw [tier] at step
  exact ⟨(b'.serve_tier r).1.trans tier, step.trans same⟩

theorem serveAll_sound {b : Bench} (none : b.made = []) (rs : List Stage.Request) : (b.serveAll rs).Sound := by
  refine serveAll_keeps (P := Sound) serve_sound (fun x a mem => ?_) rs
  rw [none] at mem
  cases mem

end Bench

/-- A worker that takes a sample in has the stage and the count of states that the bench has. -/
theorem Plant.take_serve {σ : Type} (p : Plant σ) {t : Tier} {i : Nat} {w old : Worker} {d : Delivery}
    (here : p.worker? t i = some old) (tier : w.stage.tier = t) :
    let b := Bench.serve ⟨w.stage, p.meter, []⟩ (.take d.sample)
    ((p.take t i w d).worker? t i).map (·.stage) = some b.stage ∧
      (p.take t i w d).meter.read (.states t) = b.meter.read (.states t) := by
  intro b
  subst tier
  have put : ∀ w', (p.setWorker w.stage.tier i w').worker? w.stage.tier i = some w' :=
    worker?_setWorker_self p here
  cases finite : d.sample.value.isFinite with
  | true =>
    have taken := Stage.process_of_finite w.stage finite
    simp only [b, Bench.serve, take, taken]
    constructor
    · split <;> split <;> exact congrArg (Option.map (·.stage)) (put _)
    · have apart : Counter.states w.stage.tier ≠ .anomalies w.stage.tier (w.stage.absorbed d.sample).1.severity := by
        intro same
        cases same
      split <;> split
      · exact Meter.read_count_of_ne _ apart
      · exact Meter.read_count_of_ne _ apart
      · rfl
      · rfl
  | false =>
    have refused := Stage.process_of_not_finite w.stage finite
    simp only [b, Bench.serve, take, refused]
    have apart : Counter.states w.stage.tier ≠ .invalid := by
      intro same
      cases same
    exact ⟨congrArg (Option.map (·.stage)) (put w), Meter.read_count_of_ne _ apart⟩

end TierCascade
