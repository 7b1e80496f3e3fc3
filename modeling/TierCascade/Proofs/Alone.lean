import Mathlib.Data.List.Induction
import TierCascade.Proofs.Lanes
/-!
# One stage after the other

What some samples come to where nothing happens at the same time: a single stage takes all of them in
before the stage of the next tier takes in what it let through. `Solo` is such a stage together with
what it has made; `Tuning.alone` is the stage of a tier at the end of the chain.
-/

namespace TierCascade

/-- A stage that works alone, the aggregates it has made, and the samples it has let through. -/
structure Solo where
  stage : Stage
  aggregates : List Aggregate
  onward : List Sample

namespace Solo

def new (t : Tier) (u : Tuning) : Solo := ⟨.new t u, [], []⟩

/-- Takes a sample in and looks at the window. What is no number leaves no trace. -/
def take (o : Solo) (x : Sample) : Solo :=
  match o.stage.process x with
  | .error _ => o
  | .ok (a, stage) =>
    let (moved, stage) := stage.closeWindow a none
    ⟨stage, o.aggregates ++ [a], o.onward ++ moved.toList⟩

def after (t : Tier) (u : Tuning) (xs : List Sample) : Solo := xs.foldl take (new t u)

end Solo

/-- The samples that come to a tier, if every finer tier is done with all of them first. -/
def Tuning.reaching (u : Tuning) (xs : List Sample) (t : Tier) : List Sample :=
  t.below.foldl (fun ys g => (Solo.after g u ys).onward) xs

/-- The stage of a tier, once it has taken in all samples that come to it. -/
def Tuning.alone (u : Tuning) (xs : List Sample) (t : Tier) : Solo := .after t u (u.reaching xs t)

theorem Tuning.alone_raw (u : Tuning) (xs : List Sample) : u.alone xs .raw = .after .raw u xs := rfl

theorem Tuning.alone_next (u : Tuning) (xs : List Sample) {t g : Tier} (next : t.next = some g) :
    u.alone xs g = .after g u (u.alone xs t).onward := by
  rw [alone, reaching, Tier.below_next next, Tier.upTo_eq, List.foldl_append]
  rfl

/-- A stage that has taken a sample in and not yet looked at the window. -/
def Stage.taken (st : Stage) (x : Sample) : Stage :=
  { st with table := st.table.put x.series (st.absorbed x).2 }

theorem Window.unique {t : Tier} {replay : Option Tier} {a : Aggregate} {state after after' : SeriesState}
    {v v' : Verdict} (w : Window t replay a state v after) (w' : Window t replay a state v' after') :
    v = v' ∧ after = after' := by
  cases w with
  | last final =>
    cases w' with
    | last => exact ⟨rfl, rfl⟩
    | replayed next => rw [final] at next; cases next
    | kept next => rw [final] at next; cases next
    | closed next => rw [final] at next; cases next
  | replayed next forced =>
    cases w' with
    | last final => rw [final] at next; cases next
    | replayed => exact ⟨rfl, rfl⟩
    | kept _ free => rw [forced] at free; cases free
    | closed _ free => rw [forced] at free; cases free
  | kept next free early =>
    cases w' with
    | last final => rw [final] at next; cases next
    | replayed _ forced => rw [free] at forced; cases forced
    | kept => exact ⟨rfl, rfl⟩
    | closed _ _ due => exact absurd early (not_lt.2 due)
  | closed next free due =>
    cases w' with
    | last final => rw [final] at next; cases next
    | replayed _ forced => rw [free] at forced; cases forced
    | kept _ _ early => exact absurd early (not_lt.2 due)
    | closed => exact ⟨rfl, rfl⟩

namespace Solo

variable {s : Settings} {t : Tier} {u : Tuning} {o : Solo} {x : Sample} {xs : List Sample}

theorem after_concat (t : Tier) (u : Tuning) (xs : List Sample) (x : Sample) :
    after t u (xs ++ [x]) = (after t u xs).take x := by
  rw [after, List.foldl_append]
  rfl

theorem take_of_not_finite (o : Solo) (infinite : x.value.isFinite = false) : o.take x = o := by
  rw [take, Stage.process_of_not_finite o.stage infinite]

theorem take_of_finite (o : Solo) (finite : x.value.isFinite = true) :
    o.take x = ⟨((o.stage.taken x).closeWindow (o.stage.absorbed x).1 none).2,
      o.aggregates ++ [(o.stage.absorbed x).1],
      o.onward ++ ((o.stage.taken x).closeWindow (o.stage.absorbed x).1 none).1.toList⟩ := by
  rw [take, Stage.process_of_finite o.stage finite]
  rfl

theorem after_filter (t : Tier) (u : Tuning) (xs : List Sample) :
    after t u (xs.filter (·.value.isFinite)) = after t u xs := by
  induction xs using List.reverseRecOn with
  | nil => rfl
  | append_singleton xs x ih =>
    rw [List.filter_append, after_concat, ← ih]
    cases finite : x.value.isFinite with
    | true => rw [List.filter_singleton, finite, cond_true, after_concat]
    | false => rw [List.filter_singleton, finite, cond_false, List.append_nil, take_of_not_finite _ finite]

theorem stage_after (t : Tier) (u : Tuning) (xs : List Sample) :
    (after t u xs).stage.tier = t ∧ (after t u xs).stage.tuning = u := by
  induction xs using List.reverseRecOn with
  | nil => exact ⟨rfl, rfl⟩
  | append_singleton xs x ih =>
    rw [after_concat]
    cases finite : x.value.isFinite with
    | true =>
      rw [take_of_finite _ finite]
      exact ⟨(Stage.closeWindow_tier ..).trans ih.1, (Stage.closeWindow_tuning ..).trans ih.2⟩
    | false => rw [take_of_not_finite _ finite]; exact ih

/-- What a stage alone makes of one more sample, in terms of the state of its series: it takes the sample in,
and the rule of the window does the rest. -/
theorem take_after {a : Aggregate} {mid final : SeriesState} {v : Verdict}
    (finite : x.value.isFinite = true)
    (absorbed : s.absorb t ((after t s.tuning xs).stage.inspect x.series) x = (a, mid))
    (rule : Window t none a mid v final) :
    let o := after t s.tuning xs
    let o' := after t s.tuning (xs ++ [x])
    o'.stage.inspect x.series = some final ∧ o'.aggregates = o.aggregates ++ [a] ∧
      o'.onward = o.onward ++ if v = .kept then [] else [a.toSample] := by
  obtain ⟨tier, tuning⟩ := stage_after t s.tuning xs
  intro o o'
  have same : o.stage.absorbed x = (a, mid) := by
    rw [← absorbed, Stage.absorbed, tier, tuning]
    rfl
  have series : a.series = x.series := congrArg (fun made => made.1.series) same.symm
  have known : (o.stage.taken x).table.get? a.series = some mid := by
    rw [series, Stage.taken, same]
    exact SeriesTable.get?_put_self ..
  obtain ⟨final', rule', left, moved⟩ := Stage.closeWindow_window none known
  have here : (o.stage.taken x).tier = t := tier
  rw [here] at rule'
  obtain ⟨rfl, rfl⟩ := rule.unique rule'
  have taken : o' = o.take x := after_concat ..
  rw [taken, take_of_finite o finite, same, moved]
  refine ⟨series ▸ left, rfl, ?_⟩
  split <;> rfl

end Solo

end TierCascade
