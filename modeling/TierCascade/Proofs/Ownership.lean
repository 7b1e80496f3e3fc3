import Mathlib.Data.Finset.Card
import TierCascade.Proofs.Queues
/-!
# Every series has one worker

The tables of a tier's workers hold just the series of which the tier has taken something in, and each of
them stands in the table of the worker that it is routed to (`Plant.Owns`). A turn puts at most one
series into a table, the one of the sample it takes in, and that was routed to the worker before it was
queued (`Turn.owns`). So a look from outside finds what there is, and nothing is counted twice
(`Plant.single_writer`).
-/

namespace TierCascade

/-- The series of which a tier has taken a sample in, once for each sample. -/
def History.takenIn (h : History) (t : Tier) : List Series := (h.taken t).map (·.sample.series)

namespace History

variable {h g : History} {t r : Tier} {d : Delivery} {before after : Option SeriesState}

@[simp] theorem takenIn_append (h g : History) (t : Tier) :
    (h ++ g).takenIn t = h.takenIn t ++ g.takenIn t := by
  rw [takenIn, taken, met_append, List.map_append]
  rfl

theorem takenIn_eq_nil (silent : ∀ e ∈ h, ∀ r y, e.concerns r y = false) (t : Tier) :
    h.takenIn t = [] := by
  rw [takenIn, taken, met_eq_nil silent, List.map_nil]

theorem takenIn_worked {act : Act} (other : act.takesIn = false)
    (silent : ∀ e ∈ g, ∀ r y, e.concerns r y = false) :
    takenIn (.worked d r act before after :: g) t = [] := by
  rw [takenIn, taken, met_worked silent, other]
  rfl

theorem mem_takenIn_folded {a : Aggregate} {x : Series} :
    x ∈ takenIn [.worked d r (.folded a) before after] t ↔ r = t ∧ d.sample.series = x := by
  have one : met [.worked d r (.folded a) before after] Act.takesIn t = if r = t then [d] else [] := by
    simp [met_worked, Act.takesIn]
  rw [takenIn, taken, one]
  by_cases same : r = t <;> simp [same, eq_comm]

end History

theorem Plant.takenIn_callDeeds {σ : Type} (s : Settings) (c : Collaborator σ) (p : Plant σ) (t r : Tier)
    (w : Worker) (d : Delivery) (a : Aggregate) (sink : Sink) :
    (p.callDeeds s c t w d a sink).takenIn r = [] := by
  rcases p.callDeeds_cases s c t w d a sink with ⟨-, none⟩ | ⟨tries, rest, -, deeds, silent⟩
  · rw [none]
    rfl
  · rw [deeds]
    exact History.takenIn_worked rfl silent

/-! ### Tables -/

/-- The tables hold just the series of which something was taken in, each where it is routed to. -/
structure Plant.Owns {σ : Type} (s : Settings) (h : History) (p : Plant σ) : Prop where
  iff : ∀ {t i w}, p.worker? t i = some w →
    ∀ x, (w.sees x).isSome = true ↔ x ∈ h.takenIn t ∧ s.place t x = i

/-- All workers know the series that they knew before. -/
structure Plant.Knows {σ : Type} (p q : Plant σ) : Prop where
  before : ∀ {t i w'}, q.worker? t i = some w' →
    ∃ w, p.worker? t i = some w ∧ ∀ x, (w'.sees x).isSome = (w.sees x).isSome

theorem Worker.isSome_sees_close (w : Worker) (a : Aggregate) (replay : Option Tier) (x : Series) :
    ((w.stage.closeWindow a replay).2.inspect x).isSome = (w.sees x).isSome := by
  by_cases own : x = a.series
  · subst own
    cases known : w.sees a.series with
    | none =>
      have none : w.stage.table.get? a.series = none := known
      have same : (w.stage.closeWindow a replay).2 = w.stage := by
        unfold Stage.closeWindow
        rw [none]
        split <;> simp_all
      rw [same]
      exact congrArg Option.isSome known
    | some state =>
      obtain ⟨after, -, left, -⟩ := Stage.closeWindow_window replay known
      rw [Stage.inspect, left]
      rfl
  · exact congrArg Option.isSome (Stage.get?_closeWindow_of_ne w.stage replay own)

namespace Plant

variable {σ : Type} {s : Settings} {h ds : History} {p q r : Plant σ} {t : Tier} {i : Nat} {w w' : Worker}

theorem Knows.of_pools (pools : q.pools = p.pools) : p.Knows q :=
  ⟨fun {_ _ w'} there => ⟨w', by rwa [worker?, pools] at there, fun _ => rfl⟩⟩

theorem Knows.swap (w' : Worker) (here : p.worker? t i = some w)
    (pools : q.pools = (p.setWorker t i w').pools) (same : ∀ x, (w'.sees x).isSome = (w.sees x).isSome) :
    p.Knows q := by
  refine ⟨fun {r j v} there => ?_⟩
  rw [worker?, pools] at there
  rcases worker?_setWorker p here there with ⟨rfl, rfl, rfl⟩ | ⟨-, before⟩
  · exact ⟨w, here, same⟩
  · exact ⟨v, before, fun _ => rfl⟩

theorem Knows.trans (first : p.Knows q) (second : q.Knows r) : p.Knows r := by
  refine ⟨fun {t i w''} there => ?_⟩
  obtain ⟨w', mid, same'⟩ := second.before there
  obtain ⟨w, here, same⟩ := first.before mid
  exact ⟨w, here, fun x => (same' x).trans (same x)⟩

theorem Owns.quiet (owns : p.Owns s h) (knows : p.Knows q) (none : ∀ t, ds.takenIn t = []) :
    q.Owns s (h ++ ds) := by
  refine ⟨fun {t i w'} there x => ?_⟩
  obtain ⟨w, here, same⟩ := knows.before there
  rw [same, owns.iff here, History.takenIn_append, none, List.append_nil]

theorem Owns.fold (w' : Worker) {d : Delivery} {a : Aggregate} {state : SeriesState} {stage : Stage}
    {before after : Option SeriesState} (owns : p.Owns s h) (here : p.worker? t i = some w)
    (place : s.place t d.sample.series = i)
    (put : stage = { w.stage with table := w.stage.table.put d.sample.series state })
    (holds : w'.stage = stage) (pools : q.pools = (p.setWorker t i w').pools) :
    q.Owns s (h ++ [.worked d t (.folded a) before after]) := by
  refine ⟨fun {r j v} there x => ?_⟩
  rw [worker?, pools] at there
  rw [History.takenIn_append, List.mem_append, History.mem_takenIn_folded]
  rcases worker?_setWorker p here there with ⟨rfl, rfl, rfl⟩ | ⟨apart, old⟩
  · rw [Worker.sees, holds, put]
    by_cases own : d.sample.series = x
    · subst own
      have found : (w.stage.table.put d.sample.series state).get? d.sample.series = some state :=
        SeriesTable.get?_put_self ..
      simp [Stage.inspect, found, place]
    · have kept : (w.stage.table.put d.sample.series state).get? x = w.sees x :=
        SeriesTable.get?_put_of_ne _ _ (Ne.symm own)
      simp only [Stage.inspect, kept, owns.iff here, own, and_false, or_false]
  · rw [owns.iff old]
    -- Elsewhere the series is not at its place.
    have strange : s.place r x = j → ¬(t = r ∧ d.sample.series = x) := by
      rintro at_place ⟨rfl, rfl⟩
      exact apart.elim (absurd rfl) fun other => other (at_place.symm.trans place)
    exact ⟨fun both => ⟨.inl both.1, both.2⟩, fun both => ⟨both.1.resolve_right (strange both.2), both.2⟩⟩

end Plant

/-- **Every turn keeps the series where they are routed to.** -/
theorem Turn.owns {σ : Type} {s : Settings} {c : Collaborator σ} {h ds : History} {p q : Plant σ}
    (turn : Turn s c p ds q) (o : p.Orderly s) (owns : p.Owns s h) : q.Owns s (h ++ ds) := by
  have farewells : ∀ {k}, ∀ e ∈ p.tickets.farewells k, ∀ r y, e.concerns r y = false :=
    fun e mem => Tickets.concerns_of_mem_farewells mem
  cases turn with
  | begin => exact owns.quiet (.of_pools rfl) fun _ => rfl
  | receive => exact owns.quiet (.of_pools rfl) fun _ => rfl
  | closeInput => exact owns.quiet (.of_pools rfl) fun _ => rfl
  | @settle q o st ready settled =>
    obtain ⟨tickets, meter, journal, read, -, rfl⟩ := Plant.settle_eq_some settled
    cases st <;> exact owns.quiet (.of_pools rfl) fun _ => rfl
  | wake => exact owns.quiet (.of_pools rfl) fun _ => rfl
  | resubmit => exact owns.quiet (.of_pools rfl) fun _ => rfl
  | finish => exact owns.quiet (.of_pools rfl) fun _ => rfl
  | enter waits found room => exact owns.quiet (.swap _ found rfl fun _ => rfl) fun _ => rfl
  | @reject t i w d rest f here free head refused =>
    obtain ⟨m, j, taken⟩ := p.take_eq_of_error t i { w with queue := rest } d refused
    rw [taken]
    exact owns.quiet (.swap { w with queue := rest } here rfl fun _ => rfl)
      fun _ => History.takenIn_worked rfl farewells
  | @fold t i w d rest a stage here free head folded =>
    obtain ⟨m, taken⟩ := p.take_eq_of_ok t i { w with queue := rest } d folded
    obtain ⟨-, -, put⟩ := Stage.process_eq_ok folded
    rw [taken]
    exact owns.fold { w with stage, queue := rest, activity := .storing d a } here
      ((o.fits here).head head) put rfl rfl
  | @call t i w sink d a sinks done here calls issued =>
    exact owns.quiet (.swap { w with activity := w.activity.afterCall done } here rfl fun _ => rfl)
      fun r => p.takenIn_callDeeds s c t r w d a sink
  | @fault t i w sink d a sinks fault here calls issued =>
    exact owns.quiet (.swap { w with activity := .idle } here rfl fun _ => rfl)
      fun r => p.takenIn_callDeeds s c t r w d a sink
  | @keep t i w d a receipt here looks kept =>
    obtain ⟨m, desk, closed⟩ := p.close_eq_of_kept t i w d receipt kept
    rw [closed]
    exact owns.quiet (.swap _ here rfl (w.isSome_sees_close a d.replay))
      fun _ => History.takenIn_worked rfl farewells
  | @move t i w d a receipt g here looks moves next =>
    have ahead := (o.fits here).ahead_of_next next
    obtain ⟨j, desk, closed⟩ := p.close_eq_of_moved t i w d receipt moves ahead
    rw [closed]
    exact owns.quiet (.swap _ here rfl (w.isSome_sees_close a d.replay))
      fun _ => History.takenIn_worked rfl (by simp)
  | @hand t i w d onward g taker here hands found room =>
    have still := o.worker?_hand here hands (s.place g onward.sample.series) (taker.push (.process onward))
    have given : p.Knows (p.setWorker g (s.place g onward.sample.series) (taker.push (.process onward))) :=
      .swap _ found rfl fun _ => rfl
    exact owns.quiet (given.trans (.swap { w with activity := .parting d } still rfl fun _ => rfl))
      fun _ => rfl
  | part here parts =>
    exact owns.quiet (.swap _ here rfl fun _ => rfl) (History.takenIn_eq_nil farewells)

/-! ### Looking in -/

/-- The series with a state at a tier, worker by worker. -/
def Plant.series {σ : Type} (p : Plant σ) (t : Tier) : List Series :=
  (p.pools.get t).flatMap fun w => w.stage.table.series

namespace Plant

variable {σ : Type} {s : Settings} {h : History} {p : Plant σ} {t : Tier} {x : Series}

theorem mem_series : x ∈ p.series t ↔ ∃ i w, p.worker? t i = some w ∧ (w.sees x).isSome = true := by
  rw [series, List.mem_flatMap]
  constructor
  · rintro ⟨w, inside, mem⟩
    obtain ⟨i, here⟩ := List.getElem?_of_mem inside
    exact ⟨i, w, here, SeriesTable.mem_series.1 mem⟩
  · rintro ⟨i, w, here, known⟩
    exact ⟨w, List.mem_of_getElem? here, SeriesTable.mem_series.2 known⟩

/-- There is a state for every series of which something was taken in, and for no other. -/
theorem Owns.mem_series (owns : p.Owns s h) (o : p.Orderly s) : x ∈ p.series t ↔ x ∈ h.takenIn t := by
  rw [Plant.mem_series]
  constructor
  · rintro ⟨i, w, here, known⟩
    exact ((owns.iff here x).1 known).1
  · intro taken
    obtain ⟨w, here, -⟩ := o.target_eq t x
    exact ⟨s.place t x, w, here, (owns.iff here x).2 ⟨taken, rfl⟩⟩

/-- **No series stands in two tables.** -/
theorem Owns.nodup_series (owns : p.Owns s h) (t : Tier) : (p.series t).Nodup := by
  refine List.nodup_flatMap.2 ⟨fun w _ => OrderedMap.nodup_keys _, ?_⟩
  refine List.pairwise_iff_getElem.2 fun i j inside inside' before x here there => ?_
  have known := (owns.iff (List.getElem?_eq_getElem inside) x).1 (SeriesTable.mem_series.1 here)
  have known' := (owns.iff (List.getElem?_eq_getElem inside') x).1 (SeriesTable.mem_series.1 there)
  exact Nat.ne_of_lt before (known.2.symm.trans known'.2)

theorem poolStates_eq (t : Tier) {ws : List Worker} (work : ∀ w ∈ ws, w.isStopped = false) (i : Nat) :
    poolStates t ws i = .ok (ws.flatMap fun w => w.stage.table.series).length := by
  induction ws generalizing i with
  | nil => rfl
  | cons w ws ih =>
    have rest := ih (fun v mem => work v (List.mem_cons_of_mem w mem)) (i + 1)
    rw [poolStates, work w List.mem_cons_self, if_neg Bool.false_ne_true, rest, List.flatMap_cons,
      List.length_append, SeriesTable.length_series]
    rfl

theorem Orderly.census_eq (o : p.Orderly s) :
    p.census = .ok (Tier.all.map fun t => ⟨t, s.workersOf t, (p.series t).length⟩) := by
  have counts : ∀ t, poolStates t (p.pools.get t) 0 = .ok (p.series t).length := by
    refine fun t => poolStates_eq t (fun w mem => ?_) 0
    obtain ⟨i, here⟩ := List.getElem?_of_mem mem
    exact Worker.isStopped_of_works (o.fits here).works
  simp only [census, Tier.all, List.mapM_cons, List.mapM_nil, counts, o.size, bind, Except.bind, pure,
    Except.pure, List.map_cons, List.map_nil]

theorem Owns.length_series (owns : p.Owns s h) (o : p.Orderly s) (t : Tier) :
    (p.series t).length = (h.takenIn t).toFinset.card := by
  rw [← List.toFinset_card_of_nodup (owns.nodup_series t)]
  congr 1
  ext x
  rw [List.mem_toFinset, List.mem_toFinset, owns.mem_series o]

theorem owns_of_launch {sinks : σ} {board : Board} {now : Int} (start : Plant.launch s sinks board now = .ok p) :
    p.Owns s [] := by
  obtain ⟨-, j, rfl⟩ := launch_eq_ok start
  refine ⟨fun {t i w} here x => ?_⟩
  obtain rfl := eq_new_of_worker? (show (new s sinks board now).worker? t i = some w from here)
  exact ⟨nofun, nofun⟩

/-- A plant in the order of things, each of whose series has one worker. -/
structure Staffed (s : Settings) (h : History) (p : Plant σ) : Prop where
  orderly : p.Orderly s
  owns : p.Owns s h

theorem Staffed.step {c : Collaborator σ} {q : Plant σ} {a : Action} (stays : a.closes = false)
    (move : p.step s c a = some q) (before : p.Staffed s h) : q.Staffed s (h ++ p.deeds s c a) := by
  obtain ⟨orderly, owns⟩ := before
  refine ⟨(orderly.step stays move).1, ?_⟩
  cases workers : a.concernsWorkers with
  | false =>
    have silent := silent_deeds (p := p) (s := s) (c := c) workers
    exact owns.quiet (.of_pools (loop_frame workers move).pools) (History.takenIn_eq_nil silent)
  | true => exact (orderly.turn workers stays move).owns orderly owns

theorem staffed_of_launch {sinks : σ} {board : Board} {now : Int}
    (start : Plant.launch s sinks board now = .ok p) : p.Staffed s [] := by
  refine ⟨?_, owns_of_launch start⟩
  obtain ⟨usable, j, rfl⟩ := launch_eq_ok start
  exact (orderly_new usable sinks board now).of_pools rfl

/-- The census counts the series of which a tier has taken something in. -/
theorem Staffed.census_eq (staffed : p.Staffed s h) :
    p.census = .ok (Tier.all.map fun t => ⟨t, s.workersOf t, (h.takenIn t).toFinset.card⟩) := by
  rw [staffed.orderly.census_eq]
  simp only [staffed.owns.length_series staffed.orderly]

theorem staffed_of_follow {c : Collaborator σ} {sinks : σ} {board : Board} {now : Int} {start : Plant σ}
    (launched : Plant.launch s sinks board now = .ok start) {as : List Action}
    (stays : ∀ a ∈ as, a.closes = false) (moves : Plant.follow s c as ([], start) = some (h, p)) :
    p.Staffed s h :=
  @follow_keeps σ s c (fun h _ p => p.Staffed s h) _ Staffed.step as stays [] h [] start p moves
    (staffed_of_launch launched)

end Plant

/-- **Every series has one worker at each tier.** With settings that can be used a plant starts; and
whatever happens, as long as nobody shuts it down: the gate that is found for a tier is the tier's own
and has a queue for every worker that its routing can name, so every series is passed on and looked up
without fail. The workers of a tier hand on through the gate of the next tier, which they have wherever
they let a sample through. A worker has a state only for series that are routed to it, so a look from
outside finds every state, and the census counts the series of which a tier has taken something in. -/
theorem Plant.single_writer {σ : Type} {s : Settings} (usable : s.check = .ok ()) (c : Collaborator σ)
    (sinks : σ) (board : Board) (now : Int) :
    ∃ start, Plant.launch s sinks board now = .ok start ∧
    ∀ {as : List Action} {h : History} {p : Plant σ}, (∀ a ∈ as, a.closes = false) →
      Plant.follow s c as ([], start) = some (h, p) →
      (∀ t, ∃ gate, s.findGate t = .ok gate ∧ gate.tier = t ∧ gate.routing = s.routing t ∧
        gate.queues = gate.routing.workers ∧ gate.queues = (p.pools.get t).length ∧
        (∀ x, ∃ w, p.worker? t (gate.routing.route x) = some w ∧
          p.behind gate x = .ok (gate.routing.route x, w) ∧ p.inspect s t x = .ok (w.sees x)) ∧
        ∀ {i w}, p.worker? t i = some w →
          w.stage.tier = t ∧ w.ahead.map .ok = t.next.map s.findGate ∧
          (∀ {d onward through}, w.activity = .forwarding d onward through → w.ahead = some through) ∧
          (∀ a replay, (w.stage.closeWindow a replay).1.isSome = true → w.ahead.isSome = true) ∧
          ∀ {x state}, w.sees x = some state →
            gate.routing.route x = i ∧ p.inspect s t x = .ok (some state)) ∧
      p.census = .ok (Tier.all.map fun t => ⟨t, s.workersOf t, (h.takenIn t).toFinset.card⟩) := by
  have manned := s.manned_of_check usable
  have launched : Plant.launch s sinks board now
      = .ok ((new s sinks board now).report (.started version s.totalWorkers)) := by
    rw [Plant.launch, Plant.start_eq_ok usable]
    rfl
  refine ⟨_, launched, fun {as h p} stays moves => ?_⟩
  have staffed := Plant.staffed_of_follow launched stays moves
  have orderly := staffed.orderly
  have owns := staffed.owns
  refine ⟨fun t => ⟨s.gateOf t, s.findGate_eq manned t, rfl, rfl, rfl, (orderly.size t).symm, ?_, ?_⟩,
    staffed.census_eq⟩
  · intro x
    obtain ⟨w, here, reached⟩ := orderly.behind_eq t x
    refine ⟨w, here, reached, ?_⟩
    rw [orderly.inspect_eq, stateAt, lane_of_worker here]
    rfl
  · intro i w here
    have fits := orderly.fits here
    have gates : ∀ g, s.findGate g = .ok (s.gateOf g) := s.findGate_eq manned
    refine ⟨fits.tier, ?_, ?_, ?_, ?_⟩
    · rw [fits.ahead, Option.map_map, funext gates]
      rfl
    · intro d onward through hands
      exact fits.ahead.trans (fits.onward hands).1
    · intro a replay moves
      obtain ⟨g, next⟩ := Stage.next_of_verdict ((Stage.closeWindow_isSome ..).1 moves)
      rw [fits.ahead_of_next (fits.tier ▸ next)]
      rfl
    · intro x state known
      obtain ⟨-, place⟩ := (owns.iff here x).1 (Option.isSome_of_eq_some known)
      refine ⟨place, ?_⟩
      rw [orderly.inspect_eq, stateAt, lane_of_worker (place ▸ here)]
      exact congrArg Except.ok known

/-- Two workers a tier: two series came to the first one, and one of them to the second. -/
theorem single_writer_trial :
    Trial.busy.2.census = .ok [⟨.raw, 2, 2⟩, ⟨.minute, 2, 1⟩, ⟨.hour, 2, 0⟩, ⟨.day, 2, 0⟩, ⟨.week, 2, 0⟩,
      ⟨.month, 2, 0⟩] ∧
    ∃ w, Trial.busy.2.worker? .minute 1 = some w ∧ w.ahead.map .ok = some (Trial.crowded.findGate .hour) ∧
      (w.sees (Trial.sample 0).series).isSome = true := by
  have usable : Trial.crowded.check = .ok () := by decide +kernel
  obtain ⟨start, launched, holds⟩ :=
    Plant.single_writer usable Recorder.collaborator (.new []) ⟨.empty, true⟩ 0
  obtain rfl := Except.ok.inj ((Trial.launch_eq usable []).symm.trans launched)
  obtain ⟨tiers, census⟩ := holds (by decide) (Trial.follow_of_reach Trial.between_isSome)
  refine ⟨census.trans (congrArg Except.ok (by decide +kernel)), ?_⟩
  obtain ⟨gate, -, -, -, -, -, -, workers⟩ := tiers .minute
  obtain ⟨w, here⟩ : ∃ w, Trial.busy.2.worker? .minute 1 = some w :=
    Option.isSome_iff_exists.1 (by decide +kernel)
  obtain ⟨-, ahead, -, -, -⟩ := workers here
  have known : (Trial.busy.2.worker? .minute 1).all
      (fun w => (w.sees (Trial.sample 0).series).isSome) = true := by decide +kernel
  rw [here] at known
  exact ⟨w, here, ahead, known⟩

end TierCascade
