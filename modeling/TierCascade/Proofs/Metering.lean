import Mathlib.Data.Multiset.OrderedMonoid
import TierCascade.Proofs.Balance
import TierCascade.Proofs.Custody
/-!
# What is counted on the way

The meter counts the samples that a worker is done with, those that it handed on and those that it turned
away. A worker that is not yet done owes the meter what it will count (`Activity.owes`), so that at every
point of a run what was counted and what is owed is what happened (`Run.metered`).
-/

namespace TierCascade

/-! ### The meter -/

def Counter.flows : Counter → Bool
  | processed _ | forwarded _ | invalid => true
  | latency _ | anomalies .. | sinkErrors _ | states _ | acked | failed | redelivered | deadLettered
  | inFlight => false

def Deed.raises : Deed → List Counter
  | worked _ t (.folded _) .. => [.processed t]
  | worked _ _ (.rejected _) .. => [.invalid]
  | queued _ g => (Tier.all.filter fun t => t.next = some g).map .forwarded
  | _ => []

def History.raised (h : History) : List Counter := h.flatMap Deed.raises

@[simp] theorem History.raised_append (h g : History) : (h ++ g).raised = h.raised ++ g.raised :=
  List.flatMap_append

/-- What a worker has yet to count. -/
def Activity.owes (t : Tier) : Activity → List Counter
  | storing .. | notifying .. | closing .. | forwarding .. => [.processed t]
  | parting _ => [.forwarded t, .processed t]
  | idle | stopped => []

theorem Activity.count_owes_parting (t : Tier) (d : Delivery) (c : Counter) :
    ((parting d).owes t).count c = [Counter.forwarded t].count c + [Counter.processed t].count c := by
  rw [← List.count_append]
  rfl

def Plant.owed {σ : Type} (p : Plant σ) (c : Counter) : Nat :=
  p.total fun t w => (w.activity.owes t).count c

namespace Meter

variable (m : Meter) {c : Counter}

theorem read_count (d : Counter) : (m.count d).read c = m.read c + [d].count c :=
  read_countAll m [d] c

theorem read_count_of_flows {d : Counter} (flows : c.flows = true) (other : d.flows = false) :
    (m.count d).read c = m.read c := by
  refine read_count_of_ne m ?_
  rintro rfl
  rw [flows] at other
  cases other

theorem read_observe (flows : c.flows = true) (t : Tier) :
    (m.observe t).read c = m.read c + [.processed t].count c := by
  have other : c ≠ .latency t := by
    rintro rfl
    cases flows
  rw [observe, read_countAll]
  by_cases same : c = .processed t
  · subst same
    simp
  · simp [Ne.symm other, Ne.symm same]

end Meter

theorem Tickets.raised_farewells (ts : Tickets) (k : Ticket) : (ts.farewells k).raised = [] := by
  rw [farewells]
  cases ts.farewell k <;> rfl

theorem Plant.raised_callDeeds {σ : Type} (s : Settings) (c : Collaborator σ) (p : Plant σ) (t : Tier)
    (w : Worker) (d : Delivery) (a : Aggregate) (sink : Sink) :
    (p.callDeeds s c t w d a sink).raised = [] := by
  unfold callDeeds
  split
  · simp only
    split
    · rfl
    · exact Tickets.raised_farewells ..
  · rfl

theorem Tier.filter_next {t g : Tier} (next : t.next = some g) :
    (Tier.all.filter fun r => r.next = some g) = [t] := by
  cases t <;> cases next <;> rfl

/-- What was counted and what is owed, for one counter. -/
def Plant.due {σ : Type} (p : Plant σ) (c : Counter) : Int := p.meter.read c + p.owed c

/-- What happens in a turn is counted, or it is owed. -/
structure Plant.Counts {σ : Type} (p : Plant σ) (ds : History) (q : Plant σ) : Prop where
  due : ∀ {c}, c.flows = true → q.due c = p.due c + ds.raised.count c

namespace Plant.Counts

variable {σ : Type} {p q r : Plant σ} {ds es : History} {t : Tier} {i : Nat} {w : Worker}

theorem of_pools (pools : q.pools = p.pools) (meter : ∀ c, c.flows = true → q.meter.read c = p.meter.read c)
    (none : ds.raised = []) : p.Counts ds q := by
  refine ⟨fun {c} flows => ?_⟩
  rw [Plant.due, Plant.due, none, meter c flows, owed, total, pools]
  exact (add_zero _).symm

theorem trans (first : p.Counts ds q) (second : q.Counts es r) : p.Counts (ds ++ es) r := by
  refine ⟨fun {c} flows => ?_⟩
  rw [second.due flows, first.due flows, History.raised_append, List.count_append]
  push_cast
  exact add_assoc ..

theorem swap (w' : Worker) (here : p.worker? t i = some w) (pools : q.pools = (p.setWorker t i w').pools)
    (counts : ∀ c, c.flows = true → q.meter.read c + (w'.activity.owes t).count c
      = p.meter.read c + (w.activity.owes t).count c + ds.raised.count c) : p.Counts ds q := by
  refine ⟨fun {c} flows => ?_⟩
  obtain ⟨rest, before, after⟩ := p.exists_total_eq (fun t w => (w.activity.owes t).count c) here
  have now : q.owed c = (w'.activity.owes t).count c + rest := by
    rw [← after w', owed, total, pools]
    rfl
  have own := counts c flows
  rw [Plant.due, Plant.due, now, owed, before]
  push_cast
  omega

end Plant.Counts

/-! ### What a step counts -/

theorem Settlement.not_flows (st : Settlement) : ∀ d ∈ st.counters, d.flows = false := by
  cases st <;> simp [counters, Counter.flows]

namespace Plant

variable {σ : Type} (p : Plant σ) {q : Plant σ} {t : Tier} {i : Nat} {w : Worker} {d : Delivery}
  {a : Aggregate} {c : Counter}

theorem read_settle {o : Outcome} {st : Settlement} (settled : p.settle = some (q, o, st))
    (flows : c.flows = true) : q.meter.read c = p.meter.read c := by
  have meter := congrArg Office.meter (office_settle [] settled)
  have other : c ≠ .inFlight := by
    rintro rfl
    cases flows
  have none : (p.ledger.settle o).2.counters.count c = 0 := by
    refine List.count_eq_zero_of_not_mem fun mem => ?_
    rw [Settlement.not_flows _ c mem] at flows
    cases flows
  change q.meter = _ at meter
  rw [meter]
  change Meter.read (Meter.gauge (Meter.countAll p.meter (p.ledger.settle o).2.counters) _) c = _
  rw [Meter.read_gauge_of_ne _ _ other, Meter.read_countAll, none]
  exact add_zero _

theorem read_take_of_ok {stage : Stage} (h : w.stage.process d.sample = .ok (a, stage))
    (flows : c.flows = true) : (p.take t i w d).meter.read c = p.meter.read c := by
  have states : (p.meter.count (.states t)).read c = p.meter.read c :=
    Meter.read_count_of_flows _ flows rfl
  have anomalies : ∀ m : Meter, (m.count (.anomalies t a.severity)).read c = m.read c := fun m =>
    m.read_count_of_flows flows rfl
  simp only [take, h]
  by_cases opens : w.stage.opens d.sample.series = true <;>
    by_cases anomaly : a.isAnomaly = true <;>
    simp only [opens, anomaly, if_true, Bool.false_eq_true, if_false]
  · exact (anomalies _).trans states
  · exact states
  · exact anomalies _
  · rfl

theorem meter_take_of_error {f : Failure} (h : w.stage.process d.sample = .error f) :
    (p.take t i w d).meter = p.meter.count .invalid := by
  obtain ⟨-, rfl⟩ := Stage.process_eq_error h
  simp only [take, h, Failure.failsUnit, Bool.false_eq_true, if_false]
  rfl

theorem meter_close_of_kept {receipt : Receipt} (kept : w.stage.verdict a d.replay = .kept) :
    (p.close t i w d a receipt).meter = p.meter.observe t := by
  have stays : (w.stage.closeWindow a d.replay).1 = none := by
    rw [← Option.not_isSome_iff_eq_none, Stage.closeWindow_isSome]
    exact fun moves => moves kept
  simp only [close, stays]
  rfl

theorem meter_close_of_moved {receipt : Receipt} {gate : Gate}
    (moves : w.stage.verdict a d.replay ≠ .kept) (ahead : w.ahead = some gate) :
    (p.close t i w d a receipt).meter = p.meter := by
  obtain ⟨x, moved⟩ := Option.isSome_iff_exists.1 ((Stage.closeWindow_isSome ..).2 moves)
  simp only [close, moved, ahead]
  rfl

end Plant

/-- **Every turn counts what happens, or owes it.** -/
theorem Turn.counts {σ : Type} {s : Settings} {c : Collaborator σ} {p q : Plant σ} {ds : History}
    (turn : Turn s c p ds q) (o : p.Orderly s) : p.Counts ds q := by
  cases turn with
  | begin => exact .of_pools rfl (fun _ _ => rfl) rfl
  | closeInput => exact .of_pools rfl (fun _ _ => rfl) rfl
  | finish => exact .of_pools rfl (fun _ _ => rfl) rfl
  | wake => exact .of_pools rfl (fun _ _ => rfl) rfl
  | resubmit => exact .of_pools rfl (fun _ _ => rfl) rfl
  | receive x ready =>
    refine .of_pools rfl (fun c flows => Meter.read_gauge_of_ne _ _ ?_) rfl
    rintro rfl
    cases flows
  | @settle _ o st ready settled =>
    have read := fun c flows => p.read_settle (c := c) settled flows
    obtain ⟨tickets, meter, journal, -, -, rfl⟩ := Plant.settle_eq_some settled
    exact .of_pools rfl read (by cases st <;> rfl)
  | @enter d taker waits found room =>
    exact .swap (taker.push (.process d)) found rfl fun c flows => (add_zero _).symm
  | @reject t i w d rest f here free head refused =>
    obtain ⟨m, j, taken⟩ := p.take_eq_of_error t i { w with queue := rest } d refused
    have raised : History.raised (.worked d t (.rejected f) (w.sees d.sample.series)
        (w.sees d.sample.series) :: p.tickets.farewells d.ticket) = [.invalid] :=
      congrArg _ (Tickets.raised_farewells ..)
    refine .swap { w with queue := rest } here (by rw [taken]) fun c flows => ?_
    rw [p.meter_take_of_error (w := { w with queue := rest }) refused, Meter.read_count, raised]
    exact Int.add_right_comm ..
  | @fold t i w d rest a stage here free head folded =>
    obtain ⟨m, taken⟩ := p.take_eq_of_ok t i { w with queue := rest } d folded
    refine .swap { w with stage, queue := rest, activity := .storing d a } here (by rw [taken])
      fun c flows => ?_
    rw [p.read_take_of_ok (w := { w with queue := rest }) folded flows, free]
    exact congrArg (· + _) (add_zero _).symm
  | @call t i w sink d a sinks done here calls issued =>
    refine .swap { w with activity := w.activity.afterCall done } here rfl fun c flows => ?_
    have same : (w.activity.afterCall done).owes t = w.activity.owes t := by
      cases act : w.activity <;> rw [act] at calls <;> cases calls <;> rfl
    rw [p.raised_callDeeds, same]
    exact (add_zero _).symm
  | @fault t i w sink d a sinks fault here calls issued =>
    refine .swap { w with activity := .idle } here rfl fun c flows => ?_
    have owed : w.activity.owes t = [.processed t] := by
      cases act : w.activity <;> rw [act] at calls <;> cases calls <;> rfl
    have meter : (Plant.fail { p with sinks } t i w d a fault).meter
        = (p.meter.count (.sinkErrors fault.label)).observe t := rfl
    rw [p.raised_callDeeds, owed, meter, Meter.read_observe _ flows,
      Meter.read_count_of_flows _ flows rfl]
    exact (add_zero _).trans (add_zero _).symm
  | @keep t i w d a receipt here looks kept =>
    obtain ⟨m, desk, closed⟩ := p.close_eq_of_kept t i w d receipt kept
    have raised : History.raised (.worked d t (.looked a .kept) (w.sees d.sample.series)
        ((w.stage.closeWindow a d.replay).2.inspect d.sample.series) :: p.tickets.farewells d.ticket) = [] :=
      Tickets.raised_farewells ..
    refine .swap { w with stage := (w.stage.closeWindow a d.replay).2, activity := .idle } here
      (by rw [closed]) fun c flows => ?_
    rw [p.meter_close_of_kept kept, Meter.read_observe _ flows, raised, looks]
    exact (add_zero _).trans (add_zero _).symm
  | @move t i w d a receipt g here looks moves next =>
    have ahead := (o.fits here).ahead_of_next next
    obtain ⟨j, desk, closed⟩ := p.close_eq_of_moved t i w d receipt moves ahead
    refine .swap
      { w with
        stage := (w.stage.closeWindow a d.replay).2
        activity := .forwarding d ⟨d.ticket, a.toSample, d.replay⟩ (s.gateOf g) }
      here (by rw [closed]) fun c flows => ?_
    rw [p.meter_close_of_moved moves ahead, looks]
    exact (add_zero _).symm
  | @hand t i w d onward g taker here hands found room =>
    have still := o.worker?_hand here hands (s.place g onward.sample.series) (taker.push (.process onward))
    have given : p.Counts [] (p.setWorker g (s.place g onward.sample.series) (taker.push (.process onward))) :=
      .swap (taker.push (.process onward)) found rfl fun c flows => (add_zero _).symm
    have raised : History.raised [.queued onward g] = [.forwarded t] := by
      simp only [History.raised, List.flatMap_cons, List.flatMap_nil, Deed.raises,
        Tier.filter_next ((o.fits here).next hands)]
      rfl
    -- From now on the worker owes one count more.
    refine given.trans (.swap { w with activity := .parting d } still rfl fun c flows => ?_)
    rw [raised, hands, Activity.count_owes_parting, Nat.add_comm, Int.natCast_add, ← add_assoc]
    rfl
  | @part t i w d here parts =>
    refine .swap { w with activity := .idle } here rfl fun c flows => ?_
    have meter : ((p.count (.forwarded t)).complete t i w d).meter
        = (p.meter.count (.forwarded t)).observe t := rfl
    rw [meter, Meter.read_observe _ flows, Meter.read_count, parts, Tickets.raised_farewells,
      Activity.count_owes_parting, Int.natCast_add, ← add_assoc]
    rfl

/-! ### Along a run -/

theorem Plant.due_of_launch {σ : Type} {s : Settings} {sinks : σ} {board : Board} {now : Int} {p : Plant σ}
    (start : Plant.launch s sinks board now = .ok p) (c : Counter) : p.due c = 0 := by
  obtain ⟨-, j, rfl⟩ := launch_eq_ok start
  have none : (Plant.new s sinks board now).owed c = 0 :=
    total_eq_zero fun here => by rw [eq_new_of_worker? here]; rfl
  exact (zero_add _).trans (congrArg Nat.cast none)

/-- **What was counted and what is owed is what happened.** -/
theorem Run.metered {σ : Type} {s : Settings} {c : Collaborator σ} {h : History} {p : Plant σ}
    (run : Run s c h p) {k : Counter} (flows : k.flows = true) : p.due k = h.raised.count k := by
  refine Run.by_turns (P := fun h p => p.due k = h.raised.count k) (fun start => ?_) ?_ run
  · exact Plant.due_of_launch start k
  · intro h p ds q run turn ih
    rw [(turn.counts run.sound.orderly).due flows, ih, History.raised_append, List.count_append,
      Int.natCast_add]

/-- Once nobody holds a ticket, no worker has anything to do. -/
theorem Plant.rests_of_custody {σ : Type} {p : Plant σ} {t : Tier} {i : Nat} {w : Worker} (none : p.custody = 0)
    (here : p.worker? t i = some w) :
    Command.deliveries w.queue = [] ∧ (w.activity = .idle ∨ w.activity = .stopped) := by
  obtain ⟨heads, tails⟩ := add_eq_zero.1 none
  have onTheWay : p.heads = 0 := Multiset.map_eq_zero.1 heads
  obtain ⟨rest, total, -⟩ := p.exists_total_eq Worker.heads here
  obtain ⟨ends, held, -⟩ := p.exists_total_eq (fun _ w => w.tails) here
  rw [Plant.heads, total, add_eq_zero, add_eq_zero, Worker.heads, add_eq_zero] at onTheWay
  rw [Plant.tails, held, add_eq_zero] at tails
  obtain ⟨-, ⟨queue, hand⟩, -⟩ := onTheWay
  have kept : w.activity.tails = 0 := tails.1
  refine ⟨List.map_eq_nil_iff.1 ((Multiset.coe_eq_zero _).1 queue), ?_⟩
  cases act : w.activity <;> rw [act] at hand kept
  case idle => exact .inl rfl
  case stopped => exact .inr rfl
  case parting => exact absurd kept (Multiset.singleton_ne_zero _)
  all_goals exact absurd hand (Multiset.singleton_ne_zero _)

theorem Plant.owed_eq_zero {σ : Type} {p : Plant σ} (none : p.custody = 0) (c : Counter) : p.owed c = 0 := by
  refine total_eq_zero fun {t i w} here => ?_
  rcases (rests_of_custody none here).2 with idle | stopped
  · rw [idle]
    rfl
  · rw [stopped]
    rfl

theorem Plant.Sound.custody_eq_zero {σ : Type} {s : Settings} {h : History} {p : Plant σ} (sound : p.Sound s h)
    (settled : p.ledger.pending = 0) : p.custody = 0 := by
  refine Multiset.eq_zero_of_forall_notMem fun k holds => ?_
  obtain ⟨u, tracked, -⟩ := sound.tracked_of_awaits (.inl (sound.held_of_custody holds))
  rw [OrderedMap.get?_of_length_eq_zero settled] at tracked
  cases tracked

/-- Once a run has drained, the meter shows what happened. -/
theorem Run.read_of_drained {σ : Type} {s : Settings} {c : Collaborator σ} {h : History} {p : Plant σ}
    (run : Run s c h p) (drained : p.loop.exit = some .drained) {k : Counter} (flows : k.flows = true) :
    p.meter.read k = h.raised.count k := by
  obtain ⟨-, settled⟩ := run.settled_of_drained drained
  rw [← run.metered flows, Plant.due, Plant.owed_eq_zero (run.sound.custody_eq_zero settled)]
  exact (add_zero _).symm

end TierCascade
