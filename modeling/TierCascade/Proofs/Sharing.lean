import TierCascade.Proofs.Metering
import TierCascade.Proofs.WorkerOutput
/-!
# Series that share their workers

Series that go to one worker at every tier travel in the order in which their samples came in: what a
chain of single stages makes of them, in that order, is what is recorded (`Run.recorded_of_drained`). That
tells more than what becomes of each series, for it tells how their aggregates are interleaved.
-/

namespace TierCascade

theorem Window.exists (t : Tier) (a : Aggregate) (state : SeriesState) :
    ∃ v after, Window t none a state v after := by
  cases next : t.next with
  | none => exact ⟨.kept, state, .last next⟩
  | some g =>
    by_cases early : state.elapsed a.timestamp < t.period
    · exact ⟨.kept, state, .kept next rfl early⟩
    · exact ⟨.closed, _, .closed next rfl (not_lt.1 early)⟩

/-! ### Some of the series of a stage -/

/-- What a stage alone has of the series of a class is what another one has that got no others. -/
structure Solo.Part (mine : Series → Bool) (part whole : Solo) : Prop where
  states : ∀ {y}, mine y = true → part.stage.inspect y = whole.stage.inspect y
  aggregates : part.aggregates = whole.aggregates.filter fun a => mine a.series
  onward : part.onward = whole.onward.filter fun x => mine x.series

namespace Solo

variable {s : Settings} {t : Tier} {mine : Series → Bool} {x : Sample} {y : Series}

theorem inspect_take_of_ne (o : Solo) (other : y ≠ x.series) : (o.take x).stage.inspect y = o.stage.inspect y := by
  cases finite : x.value.isFinite with
  | false => rw [take_of_not_finite o finite]
  | true =>
    rw [take_of_finite o finite]
    exact (Stage.get?_closeWindow_of_ne _ none other).trans (SeriesTable.get?_put_of_ne _ _ other)

theorem Part.skip {part : Solo} {xs : List Sample} (same : Part mine part (after t s.tuning xs))
    (finite : x.value.isFinite = true) (theirs : mine x.series = false) :
    Part mine part (after t s.tuning (xs ++ [x])) := by
  have other : ∀ {y}, mine y = true → y ≠ x.series := by
    rintro y own rfl
    cases own.symm.trans theirs
  cases absorbed : s.absorb t ((after t s.tuning xs).stage.inspect x.series) x with
  | mk a mid =>
    have series : a.series = x.series := congrArg (fun made => made.1.series) absorbed.symm
    obtain ⟨v, final, rule⟩ := Window.exists t a mid
    obtain ⟨-, made, onward⟩ := take_after finite absorbed rule
    constructor
    case states =>
      intro y own
      rw [after_concat, inspect_take_of_ne _ (other own)]
      exact same.states own
    case aggregates =>
      rw [made, List.filter_append, List.filter_singleton, series, theirs, cond_false, List.append_nil]
      exact same.aggregates
    case onward =>
      rw [onward, List.filter_append, same.onward]
      have none : List.filter (fun x => mine x.series) (if v = .kept then [] else [a.toSample]) = [] := by
        split
        · rfl
        · rw [List.filter_singleton, show a.toSample.series = x.series from series, theirs]
          rfl
      rw [none, List.append_nil]

theorem Part.take {xs ys : List Sample} (same : Part mine (after t s.tuning ys) (after t s.tuning xs))
    (finite : x.value.isFinite = true) (own : mine x.series = true) :
    Part mine (after t s.tuning (ys ++ [x])) (after t s.tuning (xs ++ [x])) := by
  cases absorbed : s.absorb t ((after t s.tuning xs).stage.inspect x.series) x with
  | mk a mid =>
    have series : a.series = x.series := congrArg (fun made => made.1.series) absorbed.symm
    obtain ⟨v, final, rule⟩ := Window.exists t a mid
    obtain ⟨state, made, onward⟩ := take_after finite absorbed rule
    have absorbed' : s.absorb t ((after t s.tuning ys).stage.inspect x.series) x = (a, mid) := by
      rw [same.states own, absorbed]
    obtain ⟨state', made', onward'⟩ := take_after finite absorbed' rule
    constructor
    case states =>
      intro y mem
      by_cases here : y = x.series
      · rw [here, state, state']
      · rw [after_concat, after_concat, inspect_take_of_ne _ here, inspect_take_of_ne _ here, same.states mem]
    case aggregates =>
      rw [made, made', List.filter_append, List.filter_singleton, series, own, cond_true, same.aggregates]
    case onward =>
      rw [onward, onward', List.filter_append, same.onward]
      congr 1
      split
      · rfl
      · rw [List.filter_singleton, show a.toSample.series = x.series from series, own]
        rfl

/-- **A stage treats each series by itself.** -/
theorem part_after (t : Tier) (s : Settings) (mine : Series → Bool) (xs : List Sample) :
    Part mine (after t s.tuning (xs.filter fun x => mine x.series)) (after t s.tuning xs) := by
  induction xs using List.reverseRecOn with
  | nil => exact ⟨fun _ => rfl, rfl, rfl⟩
  | append_singleton xs x ih =>
    rw [List.filter_append, List.filter_singleton]
    cases finite : x.value.isFinite with
    | false =>
      have none : ∀ ys, after t s.tuning (ys ++ [x]) = after t s.tuning ys := fun ys => by
        rw [after_concat, take_of_not_finite _ finite]
      rw [none]
      cases mine x.series with
      | true => rw [cond_true, none]; exact ih
      | false => rw [cond_false, List.append_nil]; exact ih
    | true =>
      cases own : mine x.series with
      | true => exact ih.take finite own
      | false =>
        rw [cond_false, List.append_nil]
        exact ih.skip finite own

end Solo

/-! ### Along a run -/

/-- Whether all series of a class have their workers in common with a series, at every tier. -/
def Settings.Together (s : Settings) (mine : Series → Bool) (x : Series) : Prop :=
  ∀ t y, mine y = true → s.place t y = s.place t x

namespace History

variable {s : Settings} {h : History} {t : Tier} {mine : Series → Bool} {x : Series}

theorem filter_brought (together : s.Together mine x) :
    (h.brought s t (s.place t x)).filter (fun y => mine y.series) = (h.arrivals t).filter fun y => mine y.series := by
  rw [brought, List.filter_filter]
  refine List.filter_congr fun y _ => ?_
  cases own : mine y.series with
  | true => rw [decide_eq_true (together t _ own)]; rfl
  | false => rfl

theorem filter_recorded (together : s.Together mine x) :
    (h.recorded s t (s.place t x)).filter (fun a => mine a.series)
      = (h.attempts .store).filter fun a => decide (a.tier = t) && mine a.series := by
  rw [recorded, List.filter_filter]
  refine List.filter_congr fun a _ => ?_
  cases own : mine a.series with
  | true => simp [together t _ own]
  | false => simp

theorem filter_handedOn (together : s.Together mine x) {g : Tier} (next : t.next = some g) :
    (h.handedOn s t (s.place t x)).filter (fun y => mine y.series) = (h.arrivals g).filter fun y => mine y.series := by
  rw [handedOn, next, Option.elim_some, List.filter_filter]
  refine List.filter_congr fun y _ => ?_
  cases own : mine y.series with
  | true => rw [decide_eq_true (together t _ own)]; rfl
  | false => rfl

end History

namespace Run

variable {σ : Type} {s : Settings} {c : Collaborator σ} {h : History} {p : Plant σ} {mine : Series → Bool}
  {x : Series}

/-- A worker of a run that has drained has made what a stage alone makes of all that came to it. -/
theorem done_of_drained (run : Run s c h p) (calm : h.Faultless) (stores : ∀ t, s.stored.get t = true)
    (drained : p.loop.exit = some .drained) {t : Tier} {i : Nat} {w : Worker} (here : p.worker? t i = some w) :
    ⟨w.stage, h.recorded s t i, h.handedOn s t i⟩ = Solo.after t s.tuning (h.brought s t i) := by
  obtain ⟨-, settled⟩ := run.settled_of_drained drained
  obtain ⟨queue, rests⟩ := Plant.rests_of_custody (run.sound.custody_eq_zero settled) here
  rw [← run.foreseen calm stores here, Worker.outlook, queue]
  rcases rests with idle | stopped
  · rw [idle]
    rfl
  · rw [stopped]
    rfl

theorem part_of_drained (run : Run s c h p) (calm : h.Faultless) (stores : ∀ t, s.stored.get t = true)
    (drained : p.loop.exit = some .drained) (together : s.Together mine x) (t : Tier) :
    let o := Solo.after t s.tuning ((h.arrivals t).filter fun y => mine y.series)
    ((h.attempts .store).filter fun a => decide (a.tier = t) && mine a.series) = o.aggregates ∧
      ∀ g, t.next = some g → ((h.arrivals g).filter fun y => mine y.series) = o.onward := by
  obtain ⟨w, here, -⟩ := run.sound.orderly.target_eq t x
  have part := Solo.part_after t s mine (h.brought s t (s.place t x))
  rw [History.filter_brought together, ← run.done_of_drained calm stores drained here] at part
  refine ⟨?_, fun g next => ?_⟩
  · rw [part.aggregates, History.filter_recorded together]
  · rw [part.onward, History.filter_handedOn together next]

/-- **Series that share their workers are recorded in one order.** What a run that has drained has recorded
of them at a tier is what the stage of that tier makes at the end of a chain of single stages, if the chain
takes in their samples in the order in which they came in. -/
theorem recorded_of_drained (run : Run s c h p) (calm : h.Faultless) (stores : ∀ t, s.stored.get t = true)
    (drained : p.loop.exit = some .drained) (together : s.Together mine x) (t : Tier) :
    ((h.attempts .store).filter fun a => decide (a.tier = t) && mine a.series)
      = (s.tuning.alone (h.inputs.filter fun y => mine y.series) t).aggregates := by
  have parts := run.part_of_drained calm stores drained together
  rw [(parts t).1]
  congr 1
  refine Tier.climb (P := fun t => Solo.after t s.tuning ((h.arrivals t).filter fun y => mine y.series)
    = s.tuning.alone (h.inputs.filter fun y => mine y.series) t) ?_ ?_ t
  · rw [run.inputs_of_drained calm drained, Tuning.alone_raw]
  · intro t g next same
    rw [Tuning.alone_next _ _ next, ← same, (parts t).2 g next]

end Run

end TierCascade
