import TierCascade.Proofs.Open
import TierCascade.Proofs.Sequential
import TierCascade.Proofs.Summary
/-!
# Tiers are nested

Calls may fail, units may be delivered again, and workers of all tiers run at the same time: still a
tier takes in nothing but what the tier before has let through, in the same order, and that tier lets
through nothing but what it has taken in before. So what a tier has taken in of a series is part of what
the finer tiers have, and the states are nested likewise (`Plant.tiers_nested`).

The argument follows one lane. `Lane.Nests` says what of its history is still in the lane;
`Lane.Step.nests` is the step.
-/

namespace TierCascade

namespace History

def folds (h : History) : List Sample :=
  h.filterMap fun
    | .worked d _ (.folded _) .. => some d.sample.bare
    | _ => none

/-- The samples that were let through, one after the other. -/
def passes (h : History) : List Sample :=
  h.filterMap fun
    | .worked _ _ (.looked a v) .. => if v = .kept then none else some a.toSample
    | _ => none

@[simp] theorem folds_append (h g : History) : (h ++ g).folds = h.folds ++ g.folds :=
  List.filterMap_append

@[simp] theorem passes_append (h g : History) : (h ++ g).passes = h.passes ++ g.passes :=
  List.filterMap_append

theorem passes_looked (d : Delivery) (t : Tier) (a : Aggregate) {v : Verdict} (moves : v ≠ .kept)
    (before after : Option SeriesState) :
    passes [.worked d t (.looked a v) before after] = [a.toSample] := by
  simp [passes, moves]

theorem bare_of_mem_passes {h : History} {x : Sample} (mem : x ∈ h.passes) : x.bare = x := by
  obtain ⟨e, -, shape⟩ := List.mem_filterMap.1 mem
  cases e with
  | worked d t act =>
    cases act with
    | looked a v =>
      simp only [Option.ite_none_left_eq_some] at shape
      rw [← Option.some.inj shape.2]
      rfl
    | _ => cases shape
  | _ => cases shape

theorem arrivals_eq_nil {h : History} (silent : ∀ e ∈ h, ∀ t x, e.concerns t x = false) (t : Tier) :
    h.arrivals t = [] := by
  refine List.filterMap_eq_nil_iff.2 fun e mem => ?_
  cases e with
  | queued d r =>
    have loud := silent _ mem r d.sample.series
    simp [Deed.concerns] at loud
  | _ => rfl

end History

/-! ### One lane -/

/-- A look at the window changes at most the start of the window, and that to the sample at hand. -/
theorem Window.marks {t : Tier} {replay : Option Tier} {a : Aggregate} {old new : SeriesState}
    {v : Verdict} (rule : Window t replay a old v new) : new.unmarked = old.unmarked ∧
      ∀ {e}, new.lastEmitted = some e → old.lastEmitted = some e ∨ e = a.timestamp := by
  cases rule with
  | closed => exact ⟨rfl, fun emitted => .inr (Option.some.inj emitted).symm⟩
  | _ => exact ⟨rfl, .inl⟩

def Spot.aggregate? : Spot → Option Aggregate
  | serving _ a _ | closing _ a => some a
  | outside | queued _ | moving _ => none

theorem Spot.aggregate?_afterCall (t : Tier) (a : Aggregate) (sink : Sink) :
    (Spot.afterCall t a sink).aggregate? = some a := by
  cases sink <;> rfl

namespace Lane

/-- What a tier has let through it has taken in before; and all but the sample in hand has come to the
next tier. The sample in hand is the last one that was taken in, or the last one that was let
through. -/
inductive Handles (t : Tier) (h : History) : Option (Delivery × Spot) → Prop where
  | free (within : h.passes.Sublist h.folds) (went : ∀ g, t.next = some g → h.arrivals g = h.passes) :
      Handles t h none
  | making {d : Delivery} {spot : Spot} {a : Aggregate} {front : List Sample}
      (makes : spot.aggregate? = some a) (folds : h.folds = front ++ [a.toSample])
      (within : h.passes.Sublist front) (went : ∀ g, t.next = some g → h.arrivals g = h.passes) :
      Handles t h (some (d, spot))
  | moving {d : Delivery} {g : Tier} (next : t.next = some g) (within : h.passes.Sublist h.folds)
      (went : h.arrivals g ++ [d.sample] = h.passes) : Handles t h (some (d, .moving g))

structure Nests (s : Settings) (t : Tier) (L : Lane) (h : History) : Prop where
  came : ∃ past, h.arrivals t = past ++ L.queue.map (·.sample) ∧ h.folds.Sublist (past.map Sample.bare)
  finite : ∀ x ∈ h.folds, x.value.isFinite = true
  state : L.state.map SeriesState.unmarked = s.stateAfter t h.folds
  marked : ∀ {st e}, L.state = some st → st.lastEmitted = some e → e ∈ h.folds.map (·.timestamp)
  handles : Handles t h L.hand

variable {s : Settings} {t g : Tier} {h ds : History} {L L' : Lane} {now now' : Option (Delivery × Spot)}
  {queue : List Delivery} {state : Option SeriesState} {d : Delivery} {a : Aggregate}

theorem Handles.quiet (handles : Handles t h now) (folds : ds.folds = []) (passes : ds.passes = [])
    (stays : ∀ g, t.next = some g → ds.arrivals g = []) : Handles t (h ++ ds) now := by
  have sameFolds : (h ++ ds).folds = h.folds := by rw [History.folds_append, folds, List.append_nil]
  have samePasses : (h ++ ds).passes = h.passes := by
    rw [History.passes_append, passes, List.append_nil]
  have sameArrivals : ∀ g, t.next = some g → (h ++ ds).arrivals g = h.arrivals g := fun g next => by
    rw [History.arrivals_append, stays g next, List.append_nil]
  cases handles with
  | free within went =>
    refine .free ?_ fun g next => ?_
    · rwa [sameFolds, samePasses]
    · rw [sameArrivals g next, samePasses, went g next]
  | making makes taken within went =>
    refine .making makes (sameFolds.trans taken) (samePasses ▸ within) fun g next => ?_
    rw [sameArrivals g next, samePasses, went g next]
  | moving next within went =>
    refine .moving next ?_ ?_
    · rwa [sameFolds, samePasses]
    · rw [sameArrivals _ next, samePasses, went]

theorem Handles.drop {e : Delivery × Spot} (handles : Handles t h (some e)) {a : Aggregate}
    (makes : e.2.aggregate? = some a) : Handles t h none := by
  cases handles with
  | making _ folds within went => exact .free (folds ▸ within.trans (List.sublist_append_left ..)) went
  | moving => cases makes

theorem Handles.again {spot spot' : Spot} (handles : Handles t h (some (d, spot)))
    (makes : spot.aggregate? = some a) (makes' : spot'.aggregate? = some a) :
    Handles t h (some (d, spot')) := by
  cases handles with
  | making made folds within went =>
    cases makes.symm.trans made
    exact .making makes' folds within went
  | moving => cases makes

namespace Nests

theorem quiet (nests : Nests s t L h) (queue : L'.queue = L.queue) (same : L'.state = L.state)
    (folds : ds.folds = []) (arrivals : ds.arrivals t = []) (handles : Handles t (h ++ ds) L'.hand) :
    Nests s t L' (h ++ ds) := by
  have taken : (h ++ ds).folds = h.folds := by rw [History.folds_append, folds, List.append_nil]
  obtain ⟨past, came, part⟩ := nests.came
  refine ⟨⟨past, ?_, taken ▸ part⟩, taken ▸ nests.finite, ?_, ?_, handles⟩
  · rw [History.arrivals_append, arrivals, List.append_nil, queue, came]
  · rw [same, taken, nests.state]
  · rw [same, taken]
    exact nests.marked

theorem arrive (nests : Nests s t ⟨queue, now, state⟩ h) (d : Delivery) :
    Nests s t ⟨queue ++ [d], now, state⟩ (h ++ [.queued d t]) := by
  obtain ⟨⟨past, came, part⟩, finite, known, marked, handles⟩ := nests
  have taken : History.folds (h ++ [.queued d t]) = h.folds := by
    rw [History.folds_append]
    exact List.append_nil _
  refine ⟨⟨past, ?_, taken ▸ part⟩, taken ▸ finite, taken ▸ known, taken ▸ marked, ?_⟩
  · rw [History.arrivals_append, came, History.arrivals_queued_self, List.map_append]
    exact List.append_assoc ..
  · refine handles.quiet rfl rfl fun g next => ?_
    exact History.arrivals_queued_of_ne d (ne_of_lt (Tier.lt_next next))

theorem reject (nests : Nests s t ⟨d :: queue, none, state⟩ h) (f : Failure) :
    Nests s t ⟨queue, none, state⟩ (h ++ [.worked d t (.rejected f) state state]) := by
  obtain ⟨⟨past, came, part⟩, finite, known, marked, handles⟩ := nests
  have taken : History.folds (h ++ [.worked d t (.rejected f) state state]) = h.folds := by
    rw [History.folds_append]
    exact List.append_nil _
  refine ⟨⟨past ++ [d.sample], ?_, ?_⟩, taken ▸ finite, taken ▸ known, taken ▸ marked, ?_⟩
  · rw [History.arrivals_append, came]
    simp [History.arrivals]
  · rw [taken, List.map_append]
    exact part.trans (List.sublist_append_left ..)
  · exact handles.quiet rfl rfl fun _ _ => rfl

theorem fold (nests : Nests s t ⟨d :: queue, none, state⟩ h) {new : SeriesState}
    (finite : d.sample.value.isFinite = true) (absorbed : s.absorb t state d.sample = (a, new)) :
    Nests s t ⟨queue, some (d, .serving t a .store), some new⟩
      (h ++ [.worked d t (.folded a) state (some new)]) := by
  obtain ⟨⟨past, came, part⟩, all, known, marked, handles⟩ := nests
  have made : a.toSample = d.sample.bare := by
    have absorbs : a.Of d.sample := by
      rw [← show (s.absorb t state d.sample).1 = a from congrArg Prod.fst absorbed]
      exact SeriesState.absorb_of ..
    exact absorbs.toSample
  have left : (s.absorb t state d.sample).2 = new := congrArg Prod.snd absorbed
  have taken : History.folds (h ++ [.worked d t (.folded a) state (some new)])
      = h.folds ++ [d.sample.bare] :=
    History.folds_append ..
  constructor
  case came =>
    refine ⟨past ++ [d.sample], ?_, ?_⟩
    · rw [History.arrivals_append, came]
      simp [History.arrivals]
    · rw [taken, List.map_append]
      exact part.append (List.Sublist.refl _)
  case finite =>
    intro x mem
    rw [taken] at mem
    rcases List.mem_append.1 mem with old | last
    · exact all x old
    · rw [List.mem_singleton.1 last]
      exact finite
  case state =>
    rw [taken, Settings.stateAfter_concat, ← known, ← Settings.unmarked_absorb, left]
    rfl
  case marked =>
    -- Taking a sample in leaves the start of the window alone.
    intro st e same emitted
    cases same
    rw [← left] at emitted
    rw [taken, List.map_append]
    refine List.mem_append_left _ ?_
    cases state with
    | none => cases emitted
    | some old => exact marked rfl emitted
  case handles =>
    cases handles with
    | free within went =>
      have folds := taken
      rw [← made] at folds
      refine .making rfl folds ?_ fun g next => ?_
      · rw [History.passes_append]
        exact (List.append_nil _).symm ▸ within
      · rw [History.arrivals_append, History.passes_append, went g next]
        rfl

theorem keep {old new : SeriesState} (nests : Nests s t ⟨queue, some (d, .closing t a), some old⟩ h)
    (rule : Window t d.replay a old .kept new) :
    Nests s t ⟨queue, none, some new⟩ (h ++ [.worked d t (.looked a .kept) (some old) (some new)]) := by
  have same : new = old := by cases rule <;> rfl
  subst same
  exact nests.quiet rfl rfl rfl rfl ((nests.handles.drop rfl).quiet rfl rfl fun _ _ => rfl)

theorem move {old new : SeriesState} {v : Verdict}
    (nests : Nests s t ⟨queue, some (d, .closing t a), some old⟩ h)
    (rule : Window t d.replay a old v new) (moves : v ≠ .kept) (next : t.next = some g) :
    Nests s t ⟨queue, some (⟨d.ticket, a.toSample, d.replay⟩, .moving g), some new⟩
      (h ++ [.worked d t (.looked a v) (some old) (some new)]) := by
  obtain ⟨⟨past, came, part⟩, finite, known, marked, handles⟩ := nests
  obtain ⟨unmarked, window⟩ := rule.marks
  have taken : History.folds (h ++ [.worked d t (.looked a v) (some old) (some new)]) = h.folds := by
    rw [History.folds_append]
    exact List.append_nil _
  cases handles with
  | making makes folds within went =>
    cases makes
    constructor
    case came =>
      refine ⟨past, ?_, taken ▸ part⟩
      rw [History.arrivals_append, came]
      exact List.append_nil _
    case finite => exact taken ▸ finite
    case state =>
      rw [taken, ← known]
      exact congrArg some unmarked
    case marked =>
      intro st e same emitted
      cases same
      rw [taken]
      rcases window emitted with before | rfl
      · exact marked rfl before
      · rw [folds, List.map_append]
        exact List.mem_append_right _ List.mem_cons_self
    case handles =>
      refine .moving next ?_ ?_
      · -- The sample in hand was taken in last, so it may come last of what is let through.
        rw [taken, folds, History.passes_append, History.passes_looked d t a moves]
        exact within.append (List.Sublist.refl _)
      · rw [History.arrivals_append, History.passes_append, History.passes_looked d t a moves,
          went g next]
        exact congrArg (· ++ _) (List.append_nil _)

theorem hand (nests : Nests s t ⟨queue, some (d, .moving g), state⟩ h) (next : t.next = some g) :
    Nests s t ⟨queue, none, state⟩ (h ++ [.queued d g]) := by
  have elsewhere : History.arrivals [.queued d g] t = [] :=
    History.arrivals_queued_of_ne d (ne_of_gt (Tier.lt_next next))
  refine nests.quiet rfl rfl rfl elsewhere ?_
  cases nests.handles with
  | making makes => cases makes
  | moving _ within went =>
    refine .free ?_ fun g' next' => ?_
    · rw [History.passes_append, History.folds_append]
      exact within.append (List.Sublist.refl _)
    · obtain rfl : g = g' := Option.some.inj (next.symm.trans next')
      rw [History.arrivals_append, History.arrivals_queued_self, went, History.passes_append]
      exact (List.append_nil _).symm

end Nests

/-- **Every step of a lane keeps all this.** -/
theorem Step.nests (step : L.Step s t ds L') (nests : L.Nests s t h) : L'.Nests s t (h ++ ds) := by
  cases step with
  | rest =>
    rw [List.append_nil]
    exact nests
  | arrive d => exact nests.arrive d
  | reject => exact nests.reject _
  | fold finite absorbed => exact nests.fold finite absorbed
  | call =>
    refine nests.quiet rfl rfl rfl rfl (Handles.quiet ?_ rfl rfl fun _ _ => rfl)
    exact nests.handles.again rfl (Spot.aggregate?_afterCall ..)
  | skip =>
    refine nests.quiet rfl rfl rfl rfl (Handles.quiet ?_ rfl rfl fun _ _ => rfl)
    exact nests.handles.again rfl (Spot.aggregate?_afterCall ..)
  | fault =>
    exact nests.quiet rfl rfl rfl rfl ((nests.handles.drop rfl).quiet rfl rfl fun _ _ => rfl)
  | keep rule => exact nests.keep rule
  | move rule moves next => exact nests.move rule moves next
  | hand next => exact nests.hand next

/-- What was let through was taken in before. -/
theorem Handles.passes_sublist (handles : Handles t h now) : h.passes.Sublist h.folds := by
  cases handles with
  | free within => exact within
  | making _ folds within => exact folds ▸ within.trans (List.sublist_append_left ..)
  | moving _ within => exact within

theorem Handles.arrivals_sublist (handles : Handles t h now) (next : t.next = some g) :
    (h.arrivals g).Sublist h.passes := by
  cases handles with
  | free _ went => exact went g next ▸ List.Sublist.refl _
  | making _ _ _ went => exact went g next ▸ List.Sublist.refl _
  | moving next' _ went =>
    obtain rfl := Option.some.inj (next'.symm.trans next)
    exact went ▸ List.sublist_append_left ..

namespace Nests

theorem folds_sublist (nests : Nests s t L h) :
    h.folds.Sublist ((h.arrivals t).map Sample.bare) := by
  obtain ⟨past, came, part⟩ := nests.came
  rw [came, List.map_append]
  exact part.trans (List.sublist_append_left ..)

theorem shows (nests : Nests s t L h) {st : SeriesState} (known : L.state = some st) :
    st.Shows h.folds := by
  have state := nests.state
  rw [known] at state
  exact .of_unmarked (.of_stateAfter nests.finite state.symm)

theorem exists_state (nests : Nests s t L h) (taken : h.folds ≠ []) : ∃ st, L.state = some st := by
  have state := nests.state
  cases known : L.state with
  | some st => exact ⟨st, rfl⟩
  | none =>
    rw [known] at state
    exact absurd ((Settings.stateAfter_eq_none ..).1 state.symm) taken

end Nests

end Lane

/-! ### Plants -/

theorem Turn.entered {σ : Type} {s : Settings} {c : Collaborator σ} {p q : Plant σ} {ds : History}
    (turn : Turn s c p ds q) (o : p.Orderly s) :
    ds.arrivals .raw = (p.loop.submitting.map (·.sample)).toList ∨ ds.arrivals .raw = [] := by
  cases turn with
  | enter waits =>
    refine .inl ?_
    rw [waits]
    exact History.arrivals_queued_self ..
  | @hand t i w d onward g taker here hands =>
    have next := (o.fits here).next hands
    refine .inr (History.arrivals_queued_of_ne onward ?_)
    exact ne_of_gt (lt_of_le_of_lt (Tier.raw_le t) (Tier.lt_next next))
  | call => exact .inr (Plant.callDeeds_inputs ..).2
  | fault => exact .inr (Plant.callDeeds_inputs ..).2
  | reject => exact .inr Tickets.arrivals_farewells
  | keep => exact .inr Tickets.arrivals_farewells
  | part => exact .inr Tickets.arrivals_farewells
  | @settle _ _ st => exact .inr (by cases st <;> rfl)
  | _ => exact .inr rfl

theorem Plant.Orderly.entered {σ : Type} {s : Settings} {c : Collaborator σ} {p q : Plant σ} {a : Action}
    (o : p.Orderly s) (stays : a.closes = false) (move : p.step s c a = some q) :
    ∀ y ∈ (p.deeds s c a).arrivals .raw, ∃ d ∈ p.loop.deliveries, d.sample = y := by
  intro y mem
  cases workers : a.concernsWorkers with
  | false =>
    rw [History.arrivals_eq_nil (Plant.silent_deeds workers)] at mem
    cases mem
  | true =>
    rcases (o.turn workers stays move).entered o with waited | none
    · rw [waited, Option.mem_toList] at mem
      obtain ⟨d, submitting, rfl⟩ := Option.map_eq_some_iff.1 mem
      exact ⟨d, Loop.mem_deliveries.2 (.inl submitting), rfl⟩
    · rw [none] at mem
      cases mem

/-- What holds of a plant that is not shut down, to which some samples came. -/
structure Plant.Open {σ : Type} (s : Settings) (h : History) (xs : List Sample) (p : Plant σ) : Prop where
  orderly : p.Orderly s
  sourced : p.Sourced xs
  entered : ∀ y ∈ h.arrivals .raw, y ∈ xs
  lanes : ∀ t x, (p.lane s t x).Nests s t (h.lane t x)

/-- The numbers of a series among some samples. -/
def Series.numbers (x : Series) (xs : List Sample) : List Sample :=
  xs.filter fun y => y.series = x && y.value.isFinite

/-- All that a state quotes stems from some samples. -/
structure SeriesState.Quotes (st : SeriesState) (xs : List Sample) : Prop where
  values : ∀ v ∈ [st.min, st.max, st.lastValue], v ∈ xs.map (·.value)
  timestamps : ∀ v ∈ [st.openedAt, st.lastTimestamp] ++ st.lastEmitted.toList, v ∈ xs.map (·.timestamp)

namespace Plant.Open

variable {σ : Type} {s : Settings} {c : Collaborator σ} {h : History} {xs : List Sample} {p q : Plant σ}
  {t g : Tier} {x : Series}

theorem launch {sinks : σ} {board : Board} {now : Int} (start : Plant.launch s sinks board now = .ok p) :
    p.Open s [] [] := by
  have lanes : ∀ t x, (p.lane s t x).Nests s t (History.lane [] t x) := by
    intro t x
    rw [lane_of_launch start]
    exact ⟨⟨[], rfl, List.Sublist.refl _⟩, nofun, rfl, nofun, .free (List.Sublist.refl _) fun _ _ => rfl⟩
  obtain ⟨usable, j, rfl⟩ := launch_eq_ok start
  exact ⟨(orderly_new usable sinks board now).of_pools rfl, .new s sinks board now j, nofun, lanes⟩

theorem step {a : Action} (stays : a.closes = false) (move : p.step s c a = some q)
    (before : p.Open s h xs) : q.Open s (h ++ p.deeds s c a) (xs ++ a.received.toList) := by
  obtain ⟨orderly, sourced, entered, lanes⟩ := before
  obtain ⟨orderly', moves⟩ := orderly.step stays move
  refine ⟨orderly', sourced.step stays move, fun y mem => List.mem_append_left _ ?_, fun t x => ?_⟩
  · rw [History.arrivals_append] at mem
    rcases List.mem_append.1 mem with old | new
    · exact entered y old
    · obtain ⟨d, held, rfl⟩ := orderly.entered stays move y new
      exact sourced.loop d held
  · rw [History.lane_append]
    exact (moves t x).nests (lanes t x)

/-- What a tier has taken in the tier before has let through. -/
theorem folds_sublist (now : p.Open s h xs) (next : t.next = some g) :
    (h.lane g x).folds.Sublist (h.lane t x).passes := by
  have came : (h.lane g x).arrivals g = (h.lane t x).arrivals g := by
    rw [History.arrivals_lane (.inl rfl), History.arrivals_lane (.inr next)]
  have same : (h.lane t x).passes.map Sample.bare = (h.lane t x).passes := by
    rw [List.map_congr_left fun y mem => History.bare_of_mem_passes mem]
    exact List.map_id _
  have went := (now.lanes t x).handles.arrivals_sublist next
  rw [← same]
  exact (now.lanes g x).folds_sublist.trans (came ▸ went.map Sample.bare)

theorem folds_subset (now : p.Open s h xs) (x : Series) (t : Tier) :
    ∀ y ∈ (h.lane t x).folds, y ∈ (x.numbers xs).map Sample.bare := by
  refine Tier.climb (P := fun t => ∀ y ∈ (h.lane t x).folds, y ∈ (x.numbers xs).map Sample.bare) ?_ ?_ t
  · intro y mem
    have finite := (now.lanes .raw x).finite y mem
    obtain ⟨z, came, rfl⟩ := List.mem_map.1 ((now.lanes .raw x).folds_sublist.subset mem)
    rw [History.arrivals_lane (.inl rfl), List.mem_filter] at came
    refine List.mem_map_of_mem (List.mem_filter.2 ⟨now.entered z came.1, ?_⟩)
    rw [came.2]
    exact finite
  · intro t g next coarser y mem
    exact coarser y ((now.lanes t x).handles.passes_sublist.subset ((now.folds_sublist next).subset mem))

theorem quotes (now : p.Open s h xs) {st : SeriesState} (known : p.stateAt s t x = some st) :
    st.Quotes (x.numbers xs) := by
  have shows := (now.lanes t x).shows known
  have source := now.folds_subset x t
  -- A sample without its label has the same value and the same timestamp.
  have values : ∀ {v}, v ∈ (h.lane t x).folds.map (·.value) → v ∈ (x.numbers xs).map (·.value) := by
    intro v mem
    obtain ⟨y, taken, rfl⟩ := List.mem_map.1 mem
    obtain ⟨z, came, rfl⟩ := List.mem_map.1 (source y taken)
    exact List.mem_map.2 ⟨z, came, rfl⟩
  have timestamps : ∀ {v}, v ∈ (h.lane t x).folds.map (·.timestamp) →
      v ∈ (x.numbers xs).map (·.timestamp) := by
    intro v mem
    obtain ⟨y, taken, rfl⟩ := List.mem_map.1 mem
    obtain ⟨z, came, rfl⟩ := List.mem_map.1 (source y taken)
    exact List.mem_map.2 ⟨z, came, rfl⟩
  constructor
  case values =>
    simp only [List.forall_mem_cons]
    exact ⟨values shows.min, values shows.max, values shows.lastValue, nofun⟩
  case timestamps =>
    simp only [List.forall_mem_append, List.forall_mem_cons, Option.mem_toList]
    exact ⟨⟨timestamps shows.openedAt, timestamps shows.lastTimestamp, nofun⟩,
      fun e emitted => timestamps ((now.lanes t x).marked known emitted)⟩

theorem within (now : p.Open s h xs) (next : t.next = some g) {st : SeriesState}
    (known : p.stateAt s g x = some st) : ∃ st', p.stateAt s t x = some st' ∧ st.count ≤ st'.count ∧
      st'.min ≤ st.min ∧ st.max ≤ st'.max ∧ st.lastTimestamp ≤ st'.lastTimestamp := by
  have part := (now.folds_sublist next).trans (now.lanes t x).handles.passes_sublist
  have shows := (now.lanes g x).shows known
  have some : (h.lane g x).folds ≠ [] := by
    intro none
    have least := shows.min
    rw [none] at least
    cases least
  obtain ⟨st', known'⟩ := (now.lanes t x).exists_state fun none => some (List.sublist_nil.1 (none ▸ part))
  exact ⟨st', known', shows.within ((now.lanes t x).shows known') part⟩

end Plant.Open

/-- **Tiers are nested.** As long as nobody shuts the plant down: what a tier has taken in of a series are
numbers of that series that came in, and but for the start of its window the state is what they make of
it, so it quotes nothing else. What the next tier has taken in is part of what this one has let
through, in the same order, and that is part of what this one has taken in. So where the next tier has a
state this one has one too, with at least as many samples, with least and greatest value no less far
apart, and not behind in time. -/
theorem Plant.tiers_nested {σ : Type} {s : Settings} {c : Collaborator σ} {sinks : σ} {board : Board}
    {now : Int} {start : Plant σ} {as : List Action} {h : History} {p : Plant σ}
    (launched : Plant.launch s sinks board now = .ok start) (stays : ∀ a ∈ as, a.closes = false)
    (moves : Plant.follow s c as ([], start) = some (h, p)) (x : Series) :
    (∀ t, (∀ y ∈ (h.lane t x).folds, y ∈ (x.numbers (as.filterMap Action.received)).map Sample.bare) ∧
      ∃ state, p.inspect s t x = .ok state ∧
        state.map SeriesState.unmarked = s.stateAfter t (h.lane t x).folds ∧
        ∀ st, state = some st → st.count = (h.lane t x).folds.length ∧
          st.Quotes (x.numbers (as.filterMap Action.received))) ∧
    ∀ t g, t.next = some g →
      (h.lane g x).folds.Sublist (h.lane t x).passes ∧ (h.lane t x).passes.Sublist (h.lane t x).folds ∧
      ∀ st, p.inspect s g x = .ok (some st) → ∃ st', p.inspect s t x = .ok (some st') ∧
        st.count ≤ st'.count ∧ st'.min ≤ st.min ∧ st.max ≤ st'.max ∧
        st.lastTimestamp ≤ st'.lastTimestamp := by
  have now : p.Open s h (as.filterMap Action.received) :=
    follow_keeps (P := fun h xs p => p.Open s h xs) Plant.Open.step stays moves (.launch launched)
  refine ⟨fun t => ⟨now.folds_subset x t, p.stateAt s t x, now.orderly.inspect_eq t x,
    (now.lanes t x).state, fun st known => ⟨((now.lanes t x).shows known).count, now.quotes known⟩⟩,
    fun t g next => ⟨now.folds_sublist next, (now.lanes t x).handles.passes_sublist, fun st known => ?_⟩⟩
  rw [now.orderly.inspect_eq, Except.ok.injEq] at known
  obtain ⟨st', known', nested⟩ := now.within next known
  exact ⟨st', (now.orderly.inspect_eq t x).trans (congrArg _ known'), nested⟩

/-- In the short run the second tier takes the second sample in twice, and so does the first one. -/
theorem tiers_nested_trial :
    ((Trial.history.lane .raw (Trial.sample 0).series).folds
        = [Trial.sample 0, Trial.sample 1000, Trial.sample 1000] ∧
      (Trial.history.lane .minute (Trial.sample 0).series).folds
        = [Trial.sample 1000, Trial.sample 1000]) ∧
    (Trial.history.lane .minute (Trial.sample 0).series).folds.Sublist
      (Trial.history.lane .raw (Trial.sample 0).series).passes ∧
    ∃ st st', Trial.final.inspect Trial.settings .minute (Trial.sample 0).series = .ok (some st) ∧
      Trial.final.inspect Trial.settings .raw (Trial.sample 0).series = .ok (some st') ∧
      st.count ≤ st'.count ∧ st'.min ≤ st.min ∧ st.max ≤ st'.max := by
  have launched : Plant.launch Trial.settings (.new Trial.rules) ⟨.empty, true⟩ 0
      = .ok (Trial.start Trial.settings Trial.rules) := by rfl
  have stays : ∀ a ∈ Trial.actions, a.closes = false := by decide
  obtain ⟨states, nested⟩ := Plant.tiers_nested launched stays
    (Option.some_get Trial.reach_isSome).symm (Trial.sample 0).series
  obtain ⟨part, -, within⟩ := nested .raw .minute rfl
  obtain ⟨-, state, looked, -, -⟩ := states .minute
  have known : state.isSome = true := by
    have seen : (Trial.final.inspect Trial.settings .minute (Trial.sample 0).series).toOption.join.isSome
        = true := by decide +kernel
    have looked' : Trial.final.inspect Trial.settings .minute (Trial.sample 0).series = .ok state := looked
    rw [looked'] at seen
    exact seen
  obtain ⟨st, rfl⟩ := Option.isSome_iff_exists.1 known
  obtain ⟨st', looked', count, least, greatest, -⟩ := within st looked
  exact ⟨by decide +kernel, part, st, st', looked, looked', count, least, greatest⟩

end TierCascade
