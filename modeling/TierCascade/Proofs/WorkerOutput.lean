import TierCascade.Proofs.Sequential
/-!
# What a worker is going to have made

As long as no call fails and everything is stored, a worker is only a slow stage: what it has made, what
it will make of the sample in hand and what it will make of those that wait add up to what a stage alone
makes of all the samples that came to the worker, whatever the other workers do (`Run.foreseen`). No step
changes that sum, but that a sample that comes adds its own share (`Turn.foresees`).

A lane says the same of a single series. Here the samples of all series of the worker stay together, so
that the order in which they were dealt with is told as well.
-/

namespace TierCascade

namespace Solo

variable {o : Solo} {x : Sample} {a : Aggregate} {stage : Stage}

def look (o : Solo) (a : Aggregate) : Solo :=
  ⟨(o.stage.closeWindow a none).2, o.aggregates, o.onward ++ (o.stage.closeWindow a none).1.toList⟩

theorem take_of_ok (folded : o.stage.process x = .ok (a, stage)) :
    o.take x = look ⟨stage, o.aggregates ++ [a], o.onward⟩ a := by
  rw [take, folded]
  rfl

theorem take_of_error {f : Failure} (refused : o.stage.process x = .error f) : o.take x = o := by
  rw [take, refused]

end Solo

/-- What there will be of a stage once it is done with the sample in hand. -/
def Activity.outlook (act : Activity) (o : Solo) : Solo :=
  match act with
  | storing _ a => Solo.look { o with aggregates := o.aggregates ++ [a] } a
  | notifying _ a _ | closing _ a _ => o.look a
  | forwarding _ onward _ => { o with onward := o.onward ++ [onward.sample] }
  | idle | parting _ | stopped => o

/-- What there will be of a worker once it is done with all that it has, if `made` is what the store got
from it so far, and `gone` is what it handed on. -/
def Worker.outlook (w : Worker) (made : List Aggregate) (gone : List Sample) : Solo :=
  ((Command.deliveries w.queue).map (·.sample)).foldl Solo.take (w.activity.outlook ⟨w.stage, made, gone⟩)

namespace Worker

variable {w w' : Worker} {made made' : List Aggregate} {gone gone' : List Sample} {d : Delivery}

theorem outlook_of_queue (queue : w'.queue = w.queue)
    (act : w'.activity.outlook ⟨w'.stage, made', gone'⟩ = w.activity.outlook ⟨w.stage, made, gone⟩) :
    w'.outlook made' gone' = w.outlook made gone := by
  rw [outlook, outlook, queue, act]

theorem outlook_of_head (free : w.activity = .idle) (head : w.queue = .process d :: w'.queue)
    (took : w'.activity.outlook ⟨w'.stage, made, gone⟩ = Solo.take ⟨w.stage, made, gone⟩ d.sample) :
    w'.outlook made gone = w.outlook made gone := by
  rw [outlook, outlook, free, head, took]
  rfl

theorem outlook_push (w : Worker) (d : Delivery) (made : List Aggregate) (gone : List Sample) :
    (w.push (.process d)).outlook made gone = (w.outlook made gone).take d.sample := by
  have queue : Command.deliveries (w.push (.process d)).queue = Command.deliveries w.queue ++ [d] :=
    List.filterMap_append
  rw [outlook, queue, List.map_append, List.foldl_append]
  rfl

end Worker

/-! ### What concerns a worker -/

namespace History

def brought (s : Settings) (h : History) (t : Tier) (i : Nat) : List Sample :=
  (h.arrivals t).filter fun x => s.place t x.series = i

/-- What the store got from a worker, in order. -/
def recorded (s : Settings) (h : History) (t : Tier) (i : Nat) : List Aggregate :=
  (h.attempts .store).filter fun a => a.tier = t ∧ s.place t a.series = i

def handedOn (s : Settings) (h : History) (t : Tier) (i : Nat) : List Sample :=
  t.next.elim [] fun g => (h.arrivals g).filter fun x => s.place t x.series = i

variable {s : Settings} {h g ds : History} {t r : Tier} {i : Nat}

theorem brought_append : (h ++ g).brought s t i = h.brought s t i ++ g.brought s t i := by
  rw [brought, arrivals_append, List.filter_append]
  rfl

theorem recorded_append : (h ++ g).recorded s t i = h.recorded s t i ++ g.recorded s t i := by
  rw [recorded, attempts_append, List.filter_append]
  rfl

theorem handedOn_append : (h ++ g).handedOn s t i = h.handedOn s t i ++ g.handedOn s t i := by
  unfold handedOn
  cases t.next with
  | none => rfl
  | some r =>
    simp only [Option.elim_some]
    rw [arrivals_append, List.filter_append]

theorem brought_eq_nil (none : ∀ t, ds.arrivals t = []) : ds.brought s t i = [] := by
  rw [brought, none, List.filter_nil]

theorem handedOn_eq_nil (none : ∀ t, ds.arrivals t = []) : ds.handedOn s t i = [] := by
  unfold handedOn
  cases t.next with
  | none => rfl
  | some g => simp only [Option.elim_some, none, List.filter_nil]

/-- Nothing is handed to the store or to a queue. -/
structure Mute (ds : History) : Prop where
  attempts : ds.attempts .store = []
  arrivals : ∀ t, ds.arrivals t = []

theorem Mute.nil : Mute [] := ⟨rfl, fun _ => rfl⟩

theorem Mute.recorded (mute : ds.Mute) : ds.recorded s t i = [] := by
  rw [History.recorded, mute.attempts, List.filter_nil]

theorem Mute.brought (mute : ds.Mute) : ds.brought s t i = [] := brought_eq_nil mute.arrivals

theorem Mute.handedOn (mute : ds.Mute) : ds.handedOn s t i = [] := handedOn_eq_nil mute.arrivals

theorem Mute.of_silent (silent : ∀ e ∈ ds, ∀ r y, e.concerns r y = false) : ds.Mute := by
  constructor
  case attempts =>
    refine List.flatMap_eq_nil_iff.2 fun e mem => ?_
    cases e with
    | worked d r act => simpa [Deed.concerns] using silent _ mem r d.sample.series
    | _ => rfl
  case arrivals =>
    refine fun t => List.filterMap_eq_nil_iff.2 fun e mem => ?_
    cases e with
    | queued d r => simpa [Deed.concerns] using silent _ mem r d.sample.series
    | _ => rfl

theorem recorded_called (rest : ds.Mute) (d : Delivery) (t : Tier) (a : Aggregate)
    (result : Except SinkFault Unit) (before after : Option SeriesState) :
    recorded s (.worked d t (.called .store a 1 result) before after :: ds) r i
      = if a.tier = r ∧ s.place r a.series = i then [a] else [] := by
  have one : attempts (.worked d t (.called .store a 1 result) before after :: ds) .store = [a] := by
    rw [attempts, List.flatMap_cons, ← attempts, rest.attempts]
    rfl
  rw [recorded, one, List.filter_singleton, Bool.cond_decide]

theorem brought_queued (d : Delivery) (g : Tier) : brought s [.queued d g] t i
    = if g = t ∧ s.place t d.sample.series = i then [d.sample] else [] := by
  by_cases tier : g = t
  · subst tier
    simp only [brought, arrivals_queued_self, List.filter_singleton, Bool.cond_decide, true_and]
  · rw [brought, arrivals_queued_of_ne d tier, if_neg fun both => tier both.1, List.filter_nil]

theorem handedOn_queued (d : Delivery) (g : Tier) : handedOn s [.queued d g] t i
    = if t.next = some g ∧ s.place t d.sample.series = i then [d.sample] else [] := by
  unfold handedOn
  cases next : t.next with
  | none => rw [if_neg fun both => nomatch both.1]; rfl
  | some r =>
    simp only [Option.elim_some]
    by_cases tier : g = r
    · subst tier
      simp only [arrivals_queued_self, List.filter_singleton, Bool.cond_decide, true_and]
    · rw [arrivals_queued_of_ne d tier, if_neg fun both => tier (Option.some.inj both.1).symm, List.filter_nil]

/-- Whatever a worker does but for calling the store, it hands nothing to it. -/
theorem Mute.worked {d : Delivery} {act : Act} {before after : Option SeriesState}
    (quiet : ∀ a tries result, act ≠ .called .store a tries result) (rest : ds.Mute) :
    Mute (.worked d t act before after :: ds) := by
  refine ⟨?_, rest.arrivals⟩
  rw [History.attempts, List.flatMap_cons, ← History.attempts, rest.attempts, List.append_nil]
  cases act with
  | called sink a tries result =>
    cases sink with
    | store => exact absurd rfl (quiet a tries result)
    | notifier => rfl
  | _ => rfl

end History

/-! ### Turns -/

/-- What there will be of each worker is what there would have been without the deeds, and what it makes
of the samples that they brought. -/
def Plant.Foresees {σ : Type} (s : Settings) (p : Plant σ) (ds : History) (q : Plant σ) : Prop :=
  ∀ t i w', q.worker? t i = some w' → ∃ w, p.worker? t i = some w ∧ ∀ made gone,
    w'.outlook (made ++ ds.recorded s t i) (gone ++ ds.handedOn s t i)
      = (ds.brought s t i).foldl Solo.take (w.outlook made gone)

namespace Plant.Foresees

variable {σ : Type} {s : Settings} {c : Collaborator σ} {p q : Plant σ} {ds : History} {t r : Tier} {i : Nat}
  {w : Worker} {d : Delivery} {a : Aggregate}

theorem of_pools (mute : ds.Mute) (pools : q.pools = p.pools) : p.Foresees s ds q := by
  intro r j w' there
  rw [worker?, pools] at there
  refine ⟨w', there, fun made gone => ?_⟩
  rw [mute.recorded, mute.handedOn, mute.brought, List.append_nil, List.append_nil, List.foldl_nil]

/-- One worker does something that is nothing to the others. -/
theorem swap (w' : Worker) (here : p.worker? t i = some w) (pools : q.pools = (p.setWorker t i w').pools)
    (others : ∀ {r j}, r ≠ t ∨ j ≠ i →
      ds.recorded s r j = [] ∧ ds.handedOn s r j = [] ∧ ds.brought s r j = [])
    (own : ∀ made gone, w'.outlook (made ++ ds.recorded s t i) (gone ++ ds.handedOn s t i)
      = (ds.brought s t i).foldl Solo.take (w.outlook made gone)) : p.Foresees s ds q := by
  intro r j v there
  rw [worker?, pools] at there
  rcases worker?_setWorker p here there with ⟨rfl, rfl, rfl⟩ | ⟨apart, before⟩
  · exact ⟨w, here, own⟩
  · refine ⟨v, before, fun made gone => ?_⟩
    obtain ⟨made', gone', came⟩ := others apart
    rw [made', gone', came, List.append_nil, List.append_nil, List.foldl_nil]

theorem quiet (w' : Worker) (here : p.worker? t i = some w) (pools : q.pools = (p.setWorker t i w').pools)
    (mute : ds.Mute) (own : ∀ made gone, w'.outlook made gone = w.outlook made gone) : p.Foresees s ds q := by
  refine swap w' here pools (fun _ => ⟨mute.recorded, mute.handedOn, mute.brought⟩) fun made gone => ?_
  rw [mute.recorded, mute.handedOn, mute.brought, List.append_nil, List.append_nil, List.foldl_nil, own]

theorem enter {taker : Worker} (found : p.worker? .raw (s.place .raw d.sample.series) = some taker)
    (pools : q.pools
      = (p.setWorker .raw (s.place .raw d.sample.series) (taker.push (.process d))).pools) :
    p.Foresees s [.queued d .raw] q := by
  have first : ∀ r : Tier, r.next ≠ some .raw := fun r => by cases r <;> decide
  refine swap _ found pools (fun {r j} apart => ⟨rfl, ?_, ?_⟩) fun made gone => ?_
  · rw [History.handedOn_queued, if_neg fun both => first r both.1]
  · rw [History.brought_queued, if_neg]
    rintro ⟨rfl, rfl⟩
    exact apart.elim (fun h => h rfl) fun h => h rfl
  · rw [History.handedOn_queued, if_neg fun both => first .raw both.1, History.brought_queued, if_pos ⟨rfl, rfl⟩,
      show History.recorded s [.queued d .raw] .raw (s.place .raw d.sample.series) = [] from rfl,
      List.append_nil, List.append_nil, Worker.outlook_push]
    rfl

theorem reject {queue : List Command} {f : Failure} (here : p.worker? t i = some w)
    (free : w.activity = .idle) (head : w.queue = .process d :: queue)
    (refused : w.stage.process d.sample = .error f) :
    p.Foresees s (.worked d t (.rejected f) (w.sees d.sample.series) (w.sees d.sample.series)
      :: p.tickets.farewells d.ticket) (p.take t i { w with queue } d) := by
  obtain ⟨m, j, taken⟩ := p.take_eq_of_error t i { w with queue } d refused
  rw [taken]
  have silent : ∀ e ∈ p.tickets.farewells d.ticket, ∀ r y, e.concerns r y = false :=
    fun e mem => Tickets.concerns_of_mem_farewells mem
  refine quiet { w with queue } here rfl (.worked (by simp) (.of_silent silent)) fun made gone => ?_
  refine Worker.outlook_of_head free head ?_
  rw [Solo.take_of_error (o := ⟨w.stage, made, gone⟩) refused, free]
  rfl

theorem fold {queue : List Command} {stage : Stage} (here : p.worker? t i = some w)
    (free : w.activity = .idle) (head : w.queue = .process d :: queue)
    (folded : w.stage.process d.sample = .ok (a, stage)) :
    p.Foresees s [.worked d t (.folded a) (w.sees d.sample.series) (stage.inspect d.sample.series)]
      (p.take t i { w with queue } d) := by
  obtain ⟨m, taken⟩ := p.take_eq_of_ok t i { w with queue } d folded
  rw [taken]
  refine quiet { w with stage, queue, activity := .storing d a } here rfl (.worked (by simp) .nil)
    fun made gone => ?_
  exact Worker.outlook_of_head free head (Solo.take_of_ok (o := ⟨w.stage, made, gone⟩) folded).symm

theorem call (o : p.Orderly s) {sink : Sink} {sinks : σ} {done : Bool} (here : p.worker? t i = some w)
    (calls : w.activity.calls? = some (sink, d, a)) (stores : ∀ t, s.stored.get t = true)
    (calm : (p.callDeeds s c t w d a sink).Faultless) :
    p.Foresees s (p.callDeeds s c t w d a sink)
      ({ p with sinks }.setWorker t i { w with activity := w.activity.afterCall done }) := by
  have serves := Activity.serving?_of_calls? calls
  obtain ⟨made, tier, -⟩ := (o.fits here).serving serves
  have place : s.place t a.series = i :=
    made.1 ▸ (o.fits here).taken (Activity.taken?_of_serving? serves)
  cases act : w.activity <;> rw [act] at calls <;> cases calls
  case storing =>
    -- Everything is stored, so the call was due, and it took one attempt.
    have due : s.dispatch.due a .store = true := stores a.tier
    rcases p.callDeeds_cases s c t w d a .store with ⟨idle, -⟩ | ⟨tries, rest, -, deeds, silent⟩
    · cases due.symm.trans idle
    · rw [deeds] at calm ⊢
      have fine := calm _ List.mem_cons_self
      simp only [Deed.isFault, Bool.or_eq_false_iff, bne_eq_false_iff_eq] at fine
      obtain rfl := fine.1
      have mute : History.Mute rest := .of_silent silent
      refine swap { w with activity := .notifying d a done } here rfl (fun {r j} apart => ?_) fun made gone => ?_
      · refine ⟨?_, History.handedOn_eq_nil mute.arrivals, History.brought_eq_nil mute.arrivals⟩
        rw [History.recorded_called mute, if_neg]
        rintro ⟨rfl, rfl⟩
        exact apart.elim (fun h => h tier) fun h => h (tier ▸ place)
      · rw [History.recorded_called mute, if_pos ⟨tier, place⟩, History.handedOn_eq_nil, History.brought_eq_nil]
        · rw [List.append_nil]
          exact Worker.outlook_of_queue rfl (by rw [act]; rfl)
        · exact mute.arrivals
        · exact mute.arrivals
  case notifying =>
    refine quiet (p := { p with sinks }) { w with activity := _ } here rfl ?_ fun made gone =>
      Worker.outlook_of_queue rfl (by rw [act]; rfl)
    rcases p.callDeeds_cases s c t w d a .notifier with ⟨-, none⟩ | ⟨tries, rest, -, deeds, silent⟩
    · rw [none]
      exact .nil
    · rw [deeds]
      exact .worked (by simp) (.of_silent silent)

theorem keep {receipt : Receipt} (here : p.worker? t i = some w) (looks : w.activity = .closing d a receipt)
    (fresh : d.replay = none) (kept : w.stage.verdict a d.replay = .kept) :
    p.Foresees s (.worked d t (.looked a .kept) (w.sees d.sample.series)
        ((w.stage.closeWindow a d.replay).2.inspect d.sample.series)
      :: p.tickets.farewells d.ticket) (p.close t i w d a receipt) := by
  obtain ⟨m, desk, closed⟩ := p.close_eq_of_kept t i w d receipt kept
  have stays : (w.stage.closeWindow a none).1 = none := by
    rw [← fresh, ← Option.not_isSome_iff_eq_none, Stage.closeWindow_isSome]
    exact fun moves => moves kept
  rw [closed]
  refine quiet { w with stage := (w.stage.closeWindow a d.replay).2, activity := .idle } here rfl
    (.worked (by simp) (.of_silent fun e mem => Tickets.concerns_of_mem_farewells mem)) fun made gone => ?_
  refine Worker.outlook_of_queue rfl ?_
  rw [looks, fresh]
  simp only [Activity.outlook, Solo.look, stays, Option.toList_none, List.append_nil]

theorem move (o : p.Orderly s) {receipt : Receipt} {g : Tier} (here : p.worker? t i = some w)
    (looks : w.activity = .closing d a receipt) (fresh : d.replay = none)
    (moves : w.stage.verdict a d.replay ≠ .kept) (next : t.next = some g) :
    p.Foresees s [.worked d t (.looked a (w.stage.verdict a d.replay)) (w.sees d.sample.series)
      ((w.stage.closeWindow a d.replay).2.inspect d.sample.series)] (p.close t i w d a receipt) := by
  obtain ⟨j, desk, closed⟩ := p.close_eq_of_moved t i w d receipt moves ((o.fits here).ahead_of_next next)
  obtain ⟨x, onward⟩ := Option.isSome_iff_exists.1 ((Stage.closeWindow_isSome ..).2 moves)
  obtain rfl := Stage.eq_toSample_of_closeWindow onward
  rw [fresh] at onward
  rw [closed]
  refine quiet { w with
      stage := (w.stage.closeWindow a d.replay).2
      activity := .forwarding d ⟨d.ticket, a.toSample, d.replay⟩ (s.gateOf g) } here rfl
    (.worked (by simp) .nil) fun made gone => ?_
  refine Worker.outlook_of_queue rfl ?_
  rw [looks, fresh]
  simp only [Activity.outlook, Solo.look, onward, Option.toList_some]

theorem hand (o : p.Orderly s) {onward : Delivery} {g : Tier} {taker : Worker}
    (here : p.worker? t i = some w) (hands : w.activity = .forwarding d onward (s.gateOf g))
    (found : p.worker? g (s.place g onward.sample.series) = some taker) :
    p.Foresees s [.queued onward g]
      ((p.setWorker g (s.place g onward.sample.series) (taker.push (.process onward))).setWorker
        t i { w with activity := .parting d }) := by
  have next := (o.fits here).next hands
  obtain ⟨-, -, series⟩ := (o.fits here).onward hands
  have place : s.place t onward.sample.series = i := series ▸ (o.fits here).taken (by rw [hands]; rfl)
  have still := o.worker?_hand here hands (s.place g onward.sample.series) (taker.push (.process onward))
  have apart : t ≠ g := ne_of_lt (Tier.lt_next next)
  intro r j v there
  have none : History.recorded s [.queued onward g] r j = [] := rfl
  rw [none, History.handedOn_queued, History.brought_queued]
  rcases worker?_setWorker _ still there with ⟨rfl, rfl, rfl⟩ | ⟨other, before⟩
  · refine ⟨w, here, fun made gone => ?_⟩
    rw [if_pos ⟨next, place⟩, if_neg fun both => apart both.1.symm, List.append_nil]
    exact Worker.outlook_of_queue rfl (by rw [hands]; rfl)
  · have kept : ¬(r.next = some g ∧ s.place r onward.sample.series = j) := fun both => by
      obtain rfl := Tier.next_injective next both.1
      exact other.elim (fun h => h rfl) fun h => h (both.2.symm.trans place)
    rcases worker?_setWorker _ found before with ⟨rfl, rfl, rfl⟩ | ⟨other', before⟩
    · refine ⟨taker, found, fun made gone => ?_⟩
      rw [if_neg kept, if_pos ⟨rfl, rfl⟩, List.append_nil, List.append_nil, Worker.outlook_push]
      rfl
    · refine ⟨v, before, fun made gone => ?_⟩
      rw [if_neg kept, if_neg, List.append_nil, List.append_nil, List.foldl_nil]
      rintro ⟨rfl, rfl⟩
      exact other'.elim (fun h => h rfl) fun h => h rfl

theorem part (here : p.worker? t i = some w) (parts : w.activity = .parting d) :
    p.Foresees s (p.tickets.farewells d.ticket) ((p.count (.forwarded t)).complete t i w d) := by
  refine quiet { w with activity := .idle } here rfl
    (.of_silent fun e mem => Tickets.concerns_of_mem_farewells mem) fun made gone => ?_
  exact Worker.outlook_of_queue rfl (by rw [parts]; rfl)

end Plant.Foresees

/-- **No turn changes what there will be of a worker**, but for the samples that it brings. -/
theorem Turn.foresees {σ : Type} {s : Settings} {c : Collaborator σ} {p q : Plant σ} {ds : History}
    (turn : Turn s c p ds q) (o : p.Orderly s) (stores : ∀ t, s.stored.get t = true) (calm : ds.Faultless)
    (fresh : ∀ {d t act before after}, .worked d t act before after ∈ ds → d.replay = none) :
    p.Foresees s ds q := by
  cases turn with
  | begin => exact .of_pools .nil rfl
  | closeInput => exact .of_pools .nil rfl
  | finish => exact .of_pools .nil rfl
  | wake => exact .of_pools .nil rfl
  | resubmit => exact .of_pools .nil rfl
  | receive => exact .of_pools (.of_silent (by simp [Deed.concerns])) rfl
  | @settle _ _ st ready settled =>
    obtain ⟨tickets, meter, journal, read, -, rfl⟩ := Plant.settle_eq_some settled
    refine .of_pools ?_ rfl
    cases st <;> exact ⟨rfl, fun _ => rfl⟩
  | enter waits found room => exact .enter found rfl
  | reject here free head refused => exact .reject here free head refused
  | fold here free head folded => exact .fold here free head folded
  | call here calls issued => exact .call o here calls stores calm
  | @fault t i w sink d a sinks fault here calls issued =>
    obtain ⟨-, tries, deeds⟩ := Plant.callDeeds_eq_of_fault (p := p) (t := t) (w := w) (d := d) issued
    rw [deeds] at calm
    have wrong := calm _ List.mem_cons_self
    simp [Deed.isFault, Except.isOk, Except.toBool] at wrong
  | keep here looks kept => exact .keep here looks (fresh List.mem_cons_self) kept
  | move here looks moves next => exact .move o here looks (fresh List.mem_cons_self) moves next
  | hand here hands found room => exact .hand o here hands found
  | part here parts => exact .part here parts

/-- **A worker is only slow.** All along a run in which no attempt fails and everything is stored, what there
will be of a worker is what a stage alone makes of the samples that came to it. -/
theorem Run.foreseen {σ : Type} {s : Settings} {c : Collaborator σ} {h : History} {p : Plant σ}
    (run : Run s c h p) (calm : h.Faultless) (stores : ∀ t, s.stored.get t = true) {t : Tier} {i : Nat}
    {w : Worker} (here : p.worker? t i = some w) :
    w.outlook (h.recorded s t i) (h.handedOn s t i) = .after t s.tuning (h.brought s t i) := by
  refine Run.by_turns_of (P := fun h p => ∀ t i w, p.worker? t i = some w →
    w.outlook (h.recorded s t i) (h.handedOn s t i) = .after t s.tuning (h.brought s t i))
    (fun calm => (History.faultless_append.1 calm).1) ?_ ?_ run calm t i w here
  · intro sinks board now p start t i w here
    obtain ⟨-, j, rfl⟩ := Plant.launch_eq_ok start
    rw [Plant.eq_new_of_worker? (show (Plant.new s sinks board now).worker? t i = some w from here)]
    cases t <;> rfl
  · intro h p ds q run calm turn ih t i w' there
    have now := (run.sound.after turn).traffic
    obtain ⟨w, here, goesOn⟩ := turn.foresees run.sound.orderly stores (History.faultless_append.1 calm).2
      (fun mem => now.replay_eq_none calm (List.mem_append_right h mem)) t i w' there
    have before := ih t i w here
    rw [History.recorded_append, History.handedOn_append, goesOn, before, History.brought_append, Solo.after,
      Solo.after, List.foldl_append]

end TierCascade
