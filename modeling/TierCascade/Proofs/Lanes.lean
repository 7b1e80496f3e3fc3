import TierCascade.Proofs.Runs
/-!
# One series at one tier

All samples of a series at a tier go through the hands of one worker, one at a time and in the order
in which they came. A `Lane` is what of a plant concerns them: those that wait, the one in hand, and
the state of the series. `Turn.lane` says that a turn of a plant is a step of each of its lanes, and
that the deeds of the turn that concern a lane are those of its step; so whatever is to be proved
about a series at a tier can be proved of `Lane.Step`.
-/

namespace TierCascade

/-- Whether a deed concerns a series at a tier: one of its samples comes to the tier, is in hand
there, or goes on from there. -/
def Deed.concerns (t : Tier) (x : Series) : Deed → Bool
  | queued d r => decide (r = t ∨ t.next = some r) && decide (d.sample.series = x)
  | worked d r .. => decide (r = t) && decide (d.sample.series = x)
  | issued _ | sent .. | settled .. => false

/-- What happened to the samples of a series at a tier. -/
def History.lane (h : History) (t : Tier) (x : Series) : History := h.filter (Deed.concerns t x)

/-- A series at a tier: the deliveries that wait, the one in hand and where it stands, and the state
of the series. -/
structure Lane where
  queue : List Delivery
  hand : Option (Delivery × Spot)
  state : Option SeriesState

/-- What taking a sample in makes of the state of its series. -/
def Settings.absorb (s : Settings) (t : Tier) (state : Option SeriesState) (x : Sample) :
    Aggregate × SeriesState :=
  (state.getD (.opened x.timestamp)).absorb s.tuning t x

/-- One step of a lane, with what it leaves in the history. -/
inductive Lane.Step (s : Settings) (t : Tier) : Lane → History → Lane → Prop where
  | rest {L : Lane} : Step s t L [] L
  | arrive {queue : List Delivery} {hand : Option (Delivery × Spot)} {state : Option SeriesState}
      (d : Delivery) :
      Step s t ⟨queue, hand, state⟩ [.queued d t] ⟨queue ++ [d], hand, state⟩
  | reject {queue : List Delivery} {state : Option SeriesState} {d : Delivery} {f : Failure}
      (infinite : d.sample.value.isFinite = false) :
      Step s t ⟨d :: queue, none, state⟩ [.worked d t (.rejected f) state state] ⟨queue, none, state⟩
  | fold {queue : List Delivery} {state : Option SeriesState} {d : Delivery} {a : Aggregate}
      {new : SeriesState} (finite : d.sample.value.isFinite = true)
      (absorbed : s.absorb t state d.sample = (a, new)) :
      Step s t ⟨d :: queue, none, state⟩ [.worked d t (.folded a) state (some new)]
        ⟨queue, some (d, .serving t a .store), some new⟩
  | call {queue : List Delivery} {state : Option SeriesState} {d : Delivery} {a : Aggregate}
      {sink : Sink} (tries : Nat) (due : s.dispatch.due a sink = true) :
      Step s t ⟨queue, some (d, .serving t a sink), state⟩
        [.worked d t (.called sink a tries (.ok ())) state state]
        ⟨queue, some (d, .afterCall t a sink), state⟩
  | skip {queue : List Delivery} {state : Option SeriesState} {d : Delivery} {a : Aggregate}
      {sink : Sink} (due : s.dispatch.due a sink = false) :
      Step s t ⟨queue, some (d, .serving t a sink), state⟩ []
        ⟨queue, some (d, .afterCall t a sink), state⟩
  | fault {queue : List Delivery} {state : Option SeriesState} {d : Delivery} {a : Aggregate}
      {sink : Sink} (tries : Nat) (fault : SinkFault) :
      Step s t ⟨queue, some (d, .serving t a sink), state⟩
        [.worked d t (.called sink a tries (.error fault)) state state] ⟨queue, none, state⟩
  | keep {queue : List Delivery} {old new : SeriesState} {d : Delivery} {a : Aggregate}
      (rule : Window t d.replay a old .kept new) :
      Step s t ⟨queue, some (d, .closing t a), some old⟩
        [.worked d t (.looked a .kept) (some old) (some new)] ⟨queue, none, some new⟩
  | move {queue : List Delivery} {old new : SeriesState} {d : Delivery} {a : Aggregate} {v : Verdict}
      {g : Tier} (rule : Window t d.replay a old v new) (moves : v ≠ .kept)
      (next : t.next = some g) :
      Step s t ⟨queue, some (d, .closing t a), some old⟩
        [.worked d t (.looked a v) (some old) (some new)]
        ⟨queue, some (⟨d.ticket, a.toSample, d.replay⟩, .moving g), some new⟩
  | hand {queue : List Delivery} {state : Option SeriesState} {d : Delivery} {g : Tier}
      (next : t.next = some g) :
      Step s t ⟨queue, some (d, .moving g), state⟩ [.queued d g] ⟨queue, none, state⟩

theorem Lane.Step.before_eq {s : Settings} {t r : Tier} {L L' : Lane} {ds : History}
    (step : L.Step s t ds L') {d : Delivery} {act : Act} {before after : Option SeriesState}
    (mem : .worked d r act before after ∈ ds) : before = L.state := by
  cases step with
  | rest => cases mem
  | skip => cases mem
  | _ => cases List.mem_singleton.1 mem <;> rfl

/-! ### Lanes of a plant -/

def Activity.hand (t : Tier) : Activity → Option (Delivery × Spot)
  | storing d a => some (d, .serving t a .store)
  | notifying d a _ => some (d, .serving t a .notifier)
  | closing d a _ => some (d, .closing t a)
  | forwarding _ onward gate => some (onward, .moving gate.tier)
  | idle | parting _ | stopped => none

def Worker.lane (t : Tier) (x : Series) (w : Worker) : Lane where
  queue := (Command.deliveries w.queue).filter fun d => d.sample.series = x
  hand := (w.activity.hand t).filter fun e => e.1.sample.series = x
  state := w.sees x

/-- A series at a tier of a plant. -/
def Plant.lane {σ : Type} (s : Settings) (p : Plant σ) (t : Tier) (x : Series) : Lane :=
  ((p.worker? t (s.place t x)).map fun w => w.lane t x).getD ⟨[], none, none⟩

/-! ### The deeds that concern a lane -/

namespace History

variable {h g : History} {t r : Tier} {x y : Series} {d : Delivery} {act : Act}
  {before after : Option SeriesState}

@[simp] theorem lane_append (h g : History) (t : Tier) (x : Series) :
    (h ++ g).lane t x = h.lane t x ++ g.lane t x :=
  List.filter_append ..

theorem mem_lane {e : Deed} : e ∈ h.lane t x ↔ e ∈ h ∧ e.concerns t x = true :=
  List.mem_filter

theorem mem_lane_worked : .worked d r act before after ∈ h.lane t x ↔
    .worked d r act before after ∈ h ∧ r = t ∧ d.sample.series = x := by
  simp [mem_lane, Deed.concerns]

theorem lane_eq_nil (silent : ∀ e ∈ h, e.concerns t x = false) : h.lane t x = [] := by
  apply List.filter_eq_nil_iff.2
  intro e mem
  rw [silent e mem]
  exact Bool.false_ne_true

theorem lane_queued (h : r = t ∨ t.next = some r) :
    lane [.queued d r] t d.sample.series = [.queued d r] := by
  simp [lane, Deed.concerns, h]

theorem lane_queued_of_ne (h : (r ≠ t ∧ t.next ≠ some r) ∨ x ≠ d.sample.series) :
    lane [.queued d r] t x = [] := by
  rcases h with ⟨here, next⟩ | series
  · simp [lane, Deed.concerns, here, next]
  · simp [lane, Deed.concerns, Ne.symm series]

/-- Where a worker does something to a sample, the lane of the sample is the only one concerned. -/
theorem lane_worked (silent : ∀ e ∈ g, ∀ r y, e.concerns r y = false) :
    lane (.worked d t act before after :: g) t d.sample.series = [.worked d t act before after] := by
  have rest : g.lane t d.sample.series = [] := lane_eq_nil fun e mem => silent e mem _ _
  rw [lane, List.filter_cons_of_pos (by simp [Deed.concerns])]
  exact congrArg _ rest

theorem lane_worked_of_ne (silent : ∀ e ∈ g, ∀ r y, e.concerns r y = false)
    (h : r ≠ t ∨ y ≠ d.sample.series) : lane (.worked d t act before after :: g) r y = [] := by
  apply lane_eq_nil
  intro e mem
  rcases List.mem_cons.1 mem with rfl | later
  · rcases h with tier | series
    · simp [Deed.concerns, Ne.symm tier]
    · simp [Deed.concerns, Ne.symm series]
  · exact silent e later r y

end History

theorem Tickets.concerns_of_mem_farewells {ts : Tickets} {k : Ticket} {e : Deed}
    (mem : e ∈ ts.farewells k) (t : Tier) (x : Series) : e.concerns t x = false := by
  obtain ⟨o, -, rfl⟩ := List.mem_map.1 mem
  rfl

theorem Plant.callDeeds_cases {σ : Type} (s : Settings) (c : Collaborator σ) (p : Plant σ) (t : Tier)
    (w : Worker) (d : Delivery) (a : Aggregate) (sink : Sink) :
    (s.dispatch.due a sink = false ∧ p.callDeeds s c t w d a sink = []) ∨
      ∃ tries rest, s.dispatch.due a sink = true ∧ p.callDeeds s c t w d a sink
        = .worked d t (.called sink a tries (s.calls.call sink.label (c sink a) p.sinks).2)
            (w.sees d.sample.series) (w.sees d.sample.series) :: rest ∧
        ∀ e ∈ rest, ∀ r y, e.concerns r y = false := by
  unfold callDeeds
  by_cases due : s.dispatch.due a sink = true
  · rw [if_pos due]
    refine .inr ⟨_, _, due, rfl, fun e mem => ?_⟩
    split at mem
    · cases mem
    · exact Tickets.concerns_of_mem_farewells mem
  · rw [if_neg due]
    exact .inl ⟨by simpa using due, rfl⟩

theorem Activity.hand_of_calls? {act : Activity} {t : Tier} {sink : Sink} {d : Delivery} {a : Aggregate}
    (calls : act.calls? = some (sink, d, a)) (done : Bool) :
    act.hand t = some (d, .serving t a sink) ∧
      (act.afterCall done).hand t = some (d, .afterCall t a sink) := by
  cases act <;> cases calls <;> exact ⟨rfl, rfl⟩

/-! ### The lanes of a worker -/

namespace Worker

variable {t : Tier} {w w' : Worker} {d : Delivery} {spot : Spot} {x y : Series}

theorem lane_of_hand (holds : w.activity.hand t = some (d, spot)) :
    w.lane t d.sample.series
      = ⟨(w.lane t d.sample.series).queue, some (d, spot), w.sees d.sample.series⟩ := by
  simp [lane, holds, Option.filter]

theorem lane_of_free (free : w.activity.hand t = none) :
    w.lane t x = ⟨(w.lane t x).queue, none, w.sees x⟩ := by
  simp [lane, free]

theorem hand_lane_of_ne (holds : ∀ e ∈ w.activity.hand t, e.1.sample.series = x) (h : y ≠ x) :
    (w.lane t y).hand = none := by
  simp only [lane, Option.filter_eq_none_iff]
  intro e mem
  simpa using fun same => h (same.symm.trans (holds e mem))

theorem lane_of_ne (queue : (w'.lane t y).queue = (w.lane t y).queue)
    (holds : ∀ e ∈ w.activity.hand t, e.1.sample.series = x)
    (holds' : ∀ e ∈ w'.activity.hand t, e.1.sample.series = x) (h : y ≠ x)
    (sees : w'.sees y = w.sees y) : w'.lane t y = w.lane t y := by
  have none := hand_lane_of_ne holds h
  have none' := hand_lane_of_ne holds' h
  cases before : w.lane t y
  cases after : w'.lane t y
  rw [before] at none queue
  rw [after] at none' queue
  have state := congrArg Lane.state before
  have state' := congrArg Lane.state after
  subst none none' queue
  exact congrArg _ (state'.symm.trans (sees.trans state))

theorem lane_push (w : Worker) (d : Delivery) :
    (w.push (.process d)).lane t d.sample.series
      = { w.lane t d.sample.series with queue := (w.lane t d.sample.series).queue ++ [d] } := by
  simp [lane, push, Command.deliveries, sees]

theorem lane_push_of_ne (w : Worker) (d : Delivery) (h : y ≠ d.sample.series) :
    (w.push (.process d)).lane t y = w.lane t y := by
  simp [lane, push, Command.deliveries, sees, Ne.symm h]

theorem queue_lane_of_head {rest : List Command} (head : w.queue = .process d :: rest) :
    (w.lane t d.sample.series).queue
      = d :: ({ w with queue := rest }.lane t d.sample.series).queue := by
  simp [lane, head, Command.deliveries]

theorem queue_lane_of_head_of_ne {rest : List Command} (head : w.queue = .process d :: rest)
    (h : y ≠ d.sample.series) :
    ({ w with queue := rest }.lane t y).queue = (w.lane t y).queue := by
  simp [lane, head, Command.deliveries, Ne.symm h]

end Worker

theorem Worker.Fits.absorb {s : Settings} {t : Tier} {i : Nat} {w : Worker} {d : Delivery}
    {a : Aggregate} {stage : Stage} (fits : w.Fits s t i)
    (folded : w.stage.process d.sample = .ok (a, stage)) : d.sample.value.isFinite = true ∧
      ∃ new, s.absorb t (w.sees d.sample.series) d.sample = (a, new) ∧
        stage.inspect d.sample.series = some new := by
  obtain ⟨finite, rfl, rfl⟩ := Stage.process_eq_ok folded
  have same : w.stage.absorbed d.sample = s.absorb t (w.sees d.sample.series) d.sample := by
    rw [Stage.absorbed, fits.tier, fits.tuning]
    rfl
  exact ⟨finite, _, same.symm, SeriesTable.get?_put_self ..⟩

/-! ### The lanes of a plant -/

namespace Plant

variable {σ : Type} {s : Settings} {p q : Plant σ} {t r : Tier} {i : Nat} {w w' : Worker}
  {x y : Series}

theorem lane_of_pools (pools : q.pools = p.pools) (t : Tier) (x : Series) :
    q.lane s t x = p.lane s t x := by
  rw [lane, worker?, pools]
  rfl

theorem lane_of_worker (here : p.worker? t (s.place t x) = some w) :
    p.lane s t x = w.lane t x := by
  rw [lane, here]
  rfl

theorem lane_setWorker_self (here : p.worker? t (s.place t x) = some w) (w' : Worker) :
    (p.setWorker t (s.place t x) w').lane s t x = w'.lane t x :=
  lane_of_worker (p.worker?_setWorker_self here w')

theorem lane_setWorker_of_ne (here : p.worker? t i = some w)
    (others : ∀ y, y ≠ x → w'.lane t y = w.lane t y) (h : r ≠ t ∨ y ≠ x)
    (place : s.place t x = i) : (p.setWorker t i w').lane s r y = p.lane s r y := by
  by_cases same : r = t ∧ s.place r y = i
  · obtain ⟨rfl, rfl⟩ := same
    rw [lane_of_worker here, lane_setWorker_self here]
    exact others y (h.resolve_left fun apart => apart rfl)
  · have apart : r ≠ t ∨ s.place r y ≠ i := not_and_or.1 same
    rw [lane, worker?_setWorker_of_ne p w' apart]
    rfl

/-- The state of a series at a tier. -/
def stateAt (s : Settings) (p : Plant σ) (t : Tier) (x : Series) : Option SeriesState :=
  (p.lane s t x).state

theorem Orderly.inspect_eq (o : p.Orderly s) (t : Tier) (x : Series) :
    p.inspect s t x = .ok (p.stateAt s t x) := by
  obtain ⟨w, found, reached⟩ := o.target_eq t x
  rw [inspect, reached, stateAt, lane_of_worker found]
  rfl

theorem lane_of_launch {sinks : σ} {board : Board} {now : Int}
    (start : Plant.launch s sinks board now = .ok p) (t : Tier) (x : Series) :
    p.lane s t x = ⟨[], none, none⟩ := by
  obtain ⟨-, j, rfl⟩ := launch_eq_ok start
  cases here : Plant.worker? { Plant.new s sinks board now with journal := j } t (s.place t x) with
  | none => rw [lane, here]; rfl
  | some w =>
    rw [lane_of_worker here, eq_new_of_worker? (show (new s sinks board now).worker? _ _ = _ from here)]
    rfl

end Plant

/-! ### Turns are steps -/

/-- Each lane of a plant takes a step, with those deeds that concern it. -/
def Plant.Moves {σ : Type} (s : Settings) (p : Plant σ) (ds : History) (q : Plant σ) : Prop :=
  ∀ t x, Lane.Step s t (p.lane s t x) (ds.lane t x) (q.lane s t x)

namespace Plant.Moves

variable {σ : Type} {s : Settings} {c : Collaborator σ} {p q : Plant σ} {ds rest : History} {t : Tier}
  {i : Nat} {w : Worker} {x : Series} {d : Delivery} {a : Aggregate}

theorem of_pools (silent : ∀ e ∈ ds, ∀ r y, e.concerns r y = false) (pools : q.pools = p.pools) :
    p.Moves s ds q := by
  intro r y
  rw [History.lane_eq_nil fun e mem => silent e mem r y, lane_of_pools pools]
  exact .rest

theorem step_of_worker (w' : Worker) (here : p.worker? t i = some w) (place : s.place t x = i)
    (pools : q.pools = (p.setWorker t i w').pools) (others : ∀ y, y ≠ x → w'.lane t y = w.lane t y)
    {r : Tier} {y : Series} (silent : r ≠ t ∨ y ≠ x → ds.lane r y = [])
    (own : Lane.Step s t (w.lane t x) (ds.lane t x) (w'.lane t x)) :
    Lane.Step s r (p.lane s r y) (ds.lane r y) (q.lane s r y) := by
  rw [lane_of_pools pools]
  by_cases same : r = t ∧ y = x
  · obtain ⟨rfl, rfl⟩ := same
    subst place
    rw [lane_setWorker_self here, lane_of_worker here]
    exact own
  · have apart : r ≠ t ∨ y ≠ x := not_and_or.1 same
    rw [lane_setWorker_of_ne here others apart place, silent apart]
    exact .rest

theorem worked {act : Act} {before after : Option SeriesState} (w' : Worker)
    (here : p.worker? t i = some w) (place : s.place t d.sample.series = i)
    (pools : q.pools = (p.setWorker t i w').pools)
    (queue : ∀ y, y ≠ d.sample.series → (w'.lane t y).queue = (w.lane t y).queue)
    (holds : ∀ e ∈ w.activity.hand t, e.1.sample.series = d.sample.series)
    (holds' : ∀ e ∈ w'.activity.hand t, e.1.sample.series = d.sample.series)
    (sees : ∀ y, y ≠ d.sample.series → w'.sees y = w.sees y)
    (silent : ∀ e ∈ rest, ∀ r y, e.concerns r y = false)
    (own : Lane.Step s t (w.lane t d.sample.series) [.worked d t act before after]
      (w'.lane t d.sample.series)) :
    p.Moves s (.worked d t act before after :: rest) q := by
  intro r y
  refine step_of_worker w' here place pools ?_ (fun apart => History.lane_worked_of_ne silent apart) ?_
  · intro y other
    exact Worker.lane_of_ne (queue y other) holds holds' other (sees y other)
  · rw [History.lane_worked silent]
    exact own

theorem enter {taker : Worker} (found : p.worker? .raw (s.place .raw d.sample.series) = some taker)
    (pools : q.pools
      = (p.setWorker .raw (s.place .raw d.sample.series) (taker.push (.process d))).pools) :
    p.Moves s [.queued d .raw] q := by
  intro r y
  refine step_of_worker (x := d.sample.series) (taker.push (.process d)) found rfl pools
    (fun y other => Worker.lane_push_of_ne taker d other)
    (fun apart => History.lane_queued_of_ne ?_) ?_
  · have first : r.next ≠ some .raw := by cases r <;> decide
    exact apart.imp_left fun tier => ⟨Ne.symm tier, first⟩
  · rw [Worker.lane_push, History.lane_queued (.inl rfl)]
    exact .arrive d

theorem reject (o : p.Orderly s) {queue : List Command} {f : Failure} (here : p.worker? t i = some w)
    (free : w.activity = .idle) (head : w.queue = .process d :: queue)
    (refused : w.stage.process d.sample = .error f) :
    p.Moves s (.worked d t (.rejected f) (w.sees d.sample.series) (w.sees d.sample.series)
      :: p.tickets.farewells d.ticket) (p.take t i { w with queue } d) := by
  obtain ⟨m, j, taken⟩ := p.take_eq_of_error t i { w with queue } d refused
  obtain ⟨infinite, rfl⟩ := Stage.process_eq_error refused
  have none : w.activity.hand t = none := by rw [free]; rfl
  rw [taken]
  refine worked { w with queue } here ((o.fits here).head head) rfl
    (fun y other => Worker.queue_lane_of_head_of_ne head other) (by simp [none]) (by simp [none])
    (fun _ _ => rfl) (fun e mem => Tickets.concerns_of_mem_farewells mem) ?_
  rw [Worker.lane_of_free none, Worker.queue_lane_of_head head,
    Worker.lane_of_free (w := { w with queue }) none]
  exact .reject infinite

theorem fold (o : p.Orderly s) {queue : List Command} {stage : Stage} (here : p.worker? t i = some w)
    (free : w.activity = .idle) (head : w.queue = .process d :: queue)
    (folded : w.stage.process d.sample = .ok (a, stage)) :
    p.Moves s [.worked d t (.folded a) (w.sees d.sample.series) (stage.inspect d.sample.series)]
      (p.take t i { w with queue } d) := by
  obtain ⟨m, taken⟩ := p.take_eq_of_ok t i { w with queue } d folded
  have none : w.activity.hand t = none := by rw [free]; rfl
  have holds : (Activity.storing d a).hand t = some (d, .serving t a .store) := rfl
  rw [taken]
  refine worked { w with stage, queue, activity := .storing d a } here ((o.fits here).head head) rfl
    (fun y other => Worker.queue_lane_of_head_of_ne head other) (by simp [none]) (by simp [holds])
    (fun y other => ?_) (by simp) ?_
  · obtain ⟨-, -, rfl⟩ := Stage.process_eq_ok folded
    exact SeriesTable.get?_put_of_ne _ _ other
  · obtain ⟨finite, new, absorbed, left⟩ := (o.fits here).absorb folded
    have sees : Worker.sees { w with stage, queue, activity := .storing d a } d.sample.series = some new := left
    rw [Worker.lane_of_free none, Worker.queue_lane_of_head head,
      Worker.lane_of_hand (w := { w with stage, queue, activity := .storing d a }) holds, sees, left]
    exact .fold finite absorbed

theorem call (o : p.Orderly s) {sink : Sink} {sinks : σ} {done : Bool} (here : p.worker? t i = some w)
    (calls : w.activity.calls? = some (sink, d, a))
    (issued : s.dispatch.issue c sink a p.sinks = (sinks, .ok done)) :
    p.Moves s (p.callDeeds s c t w d a sink)
      ({ p with sinks }.setWorker t i { w with activity := w.activity.afterCall done }) := by
  obtain ⟨before, after⟩ := Activity.hand_of_calls? (t := t) calls done
  have taken := Activity.taken?_of_serving? (Activity.serving?_of_calls? calls)
  have place := (o.fits here).taken taken
  have lane := Worker.lane_of_hand (w := { w with activity := w.activity.afterCall done }) after
  rcases p.callDeeds_cases s c t w d a sink with ⟨idle, none⟩ | ⟨tries, rest, due, deeds, silent⟩
  · rw [none]
    intro r y
    refine step_of_worker (p := p) { w with activity := w.activity.afterCall done } here place rfl ?_
      (fun _ => rfl) ?_
    · intro y other
      exact Worker.lane_of_ne rfl (by simp [before]) (by simp [after]) other rfl
    · rw [Worker.lane_of_hand before, lane]
      exact .skip idle
  · have good : (s.calls.call sink.label (c sink a) p.sinks).2 = .ok () :=
      Dispatch.result_of_issue due issued
    rw [deeds, good]
    refine worked (p := p) { w with activity := w.activity.afterCall done } here place rfl
      (fun _ _ => rfl) (by simp [before]) (by simp [after]) (fun _ _ => rfl) silent ?_
    rw [Worker.lane_of_hand before, lane]
    exact .call tries due

theorem fault (o : p.Orderly s) {sink : Sink} {sinks : σ} {fault : SinkFault}
    (here : p.worker? t i = some w) (calls : w.activity.calls? = some (sink, d, a))
    (issued : s.dispatch.issue c sink a p.sinks = (sinks, .error fault)) :
    p.Moves s (p.callDeeds s c t w d a sink) ({ p with sinks }.fail t i w d a fault) := by
  obtain ⟨m, j, desk, failed⟩ := Plant.fail_eq { p with sinks } t i w d a fault
  obtain ⟨before, -⟩ := Activity.hand_of_calls? (t := t) calls false
  have taken := Activity.taken?_of_serving? (Activity.serving?_of_calls? calls)
  obtain ⟨-, tries, deeds⟩ := callDeeds_eq_of_fault (p := p) (t := t) (w := w) (d := d) issued
  rw [failed, deeds]
  refine worked (p := p) { w with activity := .idle } here ((o.fits here).taken taken) rfl
    (fun _ _ => rfl) (by simp [before]) (by simp [Activity.hand]) (fun _ _ => rfl)
    (fun e mem => Tickets.concerns_of_mem_farewells mem) ?_
  rw [Worker.lane_of_hand before, Worker.lane_of_free (w := { w with activity := .idle }) rfl]
  exact .fault tries fault

theorem keep (o : p.Orderly s) {receipt : Receipt} (here : p.worker? t i = some w)
    (looks : w.activity = .closing d a receipt) (kept : w.stage.verdict a d.replay = .kept) :
    p.Moves s (.worked d t (.looked a .kept) (w.sees d.sample.series)
        ((w.stage.closeWindow a d.replay).2.inspect d.sample.series)
      :: p.tickets.farewells d.ticket) (p.close t i w d a receipt) := by
  obtain ⟨m, desk, closed⟩ := p.close_eq_of_kept t i w d receipt kept
  have serves : w.activity.serving? = some (d, a) := by rw [looks]; rfl
  have before : w.activity.hand t = some (d, .closing t a) := by rw [looks]; rfl
  have after : Activity.idle.hand t = none := rfl
  obtain ⟨made, old, new, known, left, rule⟩ := (o.fits here).lawful_looked serves
  rw [closed]
  refine worked { w with stage := (w.stage.closeWindow a d.replay).2, activity := .idle } here
    ((o.fits here).taken (Activity.taken?_of_serving? serves)) rfl (fun _ _ => rfl) (by simp [before])
    (by simp [after]) (fun y other => Stage.get?_closeWindow_of_ne _ _ (made.1.symm ▸ other))
    (fun e mem => Tickets.concerns_of_mem_farewells mem) ?_
  rw [kept] at rule
  have sees : Worker.sees { w with stage := (w.stage.closeWindow a d.replay).2, activity := .idle }
    d.sample.series = some new := left
  rw [Worker.lane_of_hand before, Worker.lane_of_free
    (w := { w with stage := (w.stage.closeWindow a d.replay).2, activity := .idle }) after, known, left,
    sees]
  exact .keep rule

theorem move (o : p.Orderly s) {receipt : Receipt} {g : Tier} (here : p.worker? t i = some w)
    (looks : w.activity = .closing d a receipt) (moves : w.stage.verdict a d.replay ≠ .kept)
    (next : t.next = some g) :
    p.Moves s [.worked d t (.looked a (w.stage.verdict a d.replay)) (w.sees d.sample.series)
      ((w.stage.closeWindow a d.replay).2.inspect d.sample.series)] (p.close t i w d a receipt) := by
  have ahead := (o.fits here).ahead_of_next next
  obtain ⟨j, desk, closed⟩ := p.close_eq_of_moved t i w d receipt moves ahead
  have serves : w.activity.serving? = some (d, a) := by rw [looks]; rfl
  have before : w.activity.hand t = some (d, .closing t a) := by rw [looks]; rfl
  obtain ⟨made, old, new, known, left, rule⟩ := (o.fits here).lawful_looked serves
  let mover : Worker := { w with
    stage := (w.stage.closeWindow a d.replay).2
    activity := .forwarding d ⟨d.ticket, a.toSample, d.replay⟩ (s.gateOf g) }
  have after : mover.activity.hand t = some (⟨d.ticket, a.toSample, d.replay⟩, .moving g) := rfl
  have series : a.toSample.series = d.sample.series := made.1
  have sees : mover.sees d.sample.series = some new := left
  have lane := Worker.lane_of_hand after
  rw [closed]
  refine worked mover here ((o.fits here).taken (Activity.taken?_of_serving? serves)) rfl
    (fun _ _ => rfl) (by simp [before]) (by simp [after, series])
    (fun y other => Stage.get?_closeWindow_of_ne _ _ (made.1.symm ▸ other)) (by simp) ?_
  rw [series, sees] at lane
  rw [Worker.lane_of_hand before, lane, known, left]
  exact .move rule moves next

theorem hand (o : p.Orderly s) {onward : Delivery} {g : Tier} {taker : Worker}
    (here : p.worker? t i = some w) (hands : w.activity = .forwarding d onward (s.gateOf g))
    (found : p.worker? g (s.place g onward.sample.series) = some taker) :
    p.Moves s [.queued onward g]
      ((p.setWorker g (s.place g onward.sample.series) (taker.push (.process onward))).setWorker
        t i { w with activity := .parting d }) := by
  have next := (o.fits here).next hands
  obtain ⟨-, -, series⟩ := (o.fits here).onward hands
  have holds : w.activity.hand t = some (onward, .moving g) := by rw [hands]; rfl
  have place : s.place t onward.sample.series = i := by
    rw [series]
    exact (o.fits here).taken (by rw [hands]; rfl)
  have there := o.worker?_hand here hands (s.place g onward.sample.series)
    (taker.push (.process onward))
  have taken : ∀ y, y ≠ onward.sample.series →
      (taker.push (.process onward)).lane g y = taker.lane g y :=
    fun y other => Worker.lane_push_of_ne taker onward other
  have given : ∀ y, y ≠ onward.sample.series →
      { w with activity := .parting d }.lane t y = w.lane t y := fun y other =>
    Worker.lane_of_ne rfl (by simp [holds]) (by simp [Activity.hand]) other rfl
  intro r y
  -- At this tier the lane gives its sample away; at another one it may be the lane that takes it.
  by_cases tier : r = t
  · subst tier
    have apart : r ≠ g := ne_of_lt (Tier.lt_next next)
    rw [← lane_setWorker_of_ne found taken (.inl apart) rfl]
    refine step_of_worker { w with activity := .parting d } there place rfl given (fun other => ?_) ?_
    · exact History.lane_queued_of_ne (.inr (other.resolve_left fun h => h rfl))
    · rw [History.lane_queued (.inr next), Worker.lane_of_hand holds,
        Worker.lane_of_free (w := { w with activity := .parting d }) rfl]
      exact .hand next
  · rw [lane_setWorker_of_ne there given (.inl tier) place]
    refine step_of_worker (taker.push (.process onward)) found rfl rfl taken (fun other => ?_) ?_
    · apply History.lane_queued_of_ne
      rcases other with far | series
      · exact .inl ⟨Ne.symm far, fun before => tier (Tier.next_injective before next)⟩
      · exact .inr series
    · rw [Worker.lane_push, History.lane_queued (.inl rfl)]
      exact .arrive onward

theorem part (o : p.Orderly s) (here : p.worker? t i = some w) (parts : w.activity = .parting d) :
    p.Moves s (p.tickets.farewells d.ticket) ((p.count (.forwarded t)).complete t i w d) := by
  have none : w.activity.hand t = none := by rw [parts]; rfl
  have same : ∀ y, { w with activity := .idle }.lane t y = w.lane t y := fun y => by
    rw [Worker.lane_of_free none, Worker.lane_of_free (w := { w with activity := .idle }) rfl]
    rfl
  have silent : ∀ r y, (p.tickets.farewells d.ticket).lane r y = [] := fun r y =>
    History.lane_eq_nil fun e mem => Tickets.concerns_of_mem_farewells mem r y
  intro r y
  refine step_of_worker (x := d.sample.series) { w with activity := .idle } here
    ((o.fits here).taken (by rw [parts]; rfl)) rfl (fun y _ => same y) (fun _ => silent r y) ?_
  rw [silent, same]
  exact .rest

end Plant.Moves

/-- **Turns are steps of lanes.** -/
theorem Turn.lane {σ : Type} {s : Settings} {c : Collaborator σ} {p q : Plant σ} {ds : History}
    (turn : Turn s c p ds q) (o : p.Orderly s) : p.Moves s ds q := by
  cases turn with
  | begin => exact .of_pools (by simp) rfl
  | closeInput => exact .of_pools (by simp) rfl
  | finish => exact .of_pools (by simp) rfl
  | wake => exact .of_pools (by simp) rfl
  | resubmit => exact .of_pools (by simp) rfl
  | receive => exact .of_pools (by simp [Deed.concerns]) rfl
  | @settle _ _ st ready settled =>
    obtain ⟨tickets, meter, journal, read, -, rfl⟩ := Plant.settle_eq_some settled
    refine .of_pools (fun e mem => ?_) rfl
    rcases List.mem_cons.1 mem with rfl | issued
    · exact fun _ _ => rfl
    · cases st with
      | redeliver d reason =>
        rw [List.mem_singleton.1 issued]
        exact fun _ _ => rfl
      | _ => cases issued
  | enter waits found room => exact .enter found rfl
  | reject here free head refused => exact .reject o here free head refused
  | fold here free head folded => exact .fold o here free head folded
  | call here calls issued => exact .call o here calls issued
  | fault here calls issued => exact .fault o here calls issued
  | keep here looks kept => exact .keep o here looks kept
  | move here looks moves next => exact .move o here looks moves next
  | hand here hands found room => exact .hand o here hands found
  | part here parts => exact .part o here parts

end TierCascade
