import Mathlib.Algebra.Order.Group.Multiset
import TierCascade.Proofs.Course
import TierCascade.Proofs.Orderly
/-!
# The traffic of a plant

What becomes of a unit of work depends on which samples are where, and on tickets and ledger, but not
on which worker stands where in its pool. `Traffic` keeps just that: every sample that goes on its
way with its spot (`heads`), every other holder of a ticket (`tails`), the tickets and the ledger. A
turn of an orderly plant is a step of its traffic (`Turn.traffic`), and traffic has seven kinds of
steps where the plant has sixteen kinds of turns.
-/

namespace TierCascade

/-- What of a plant matters to its units of work. -/
structure Traffic where
  heads : Multiset (Delivery × Spot)
  tails : Multiset Ticket
  tickets : Tickets
  ledger : Ledger

/-- The tickets after something went wrong with a delivery, or after nothing did. -/
def Tickets.marked (ts : Tickets) (k : Ticket) : Option Mark → Tickets
  | some m => ts.fail k m.tier m.reason
  | none => ts

def Settlement.heads (st : Settlement) : Multiset (Delivery × Spot) :=
  (st.waits.map fun d => (d, Spot.outside) : List (Delivery × Spot))

/-- One step of traffic: nothing changes, a sample becomes a unit of work, an outcome is settled, a
sample gets farther, a sample moves on while its ticket stays behind as well, a sample is at its end,
or someone who had stayed behind lets go. -/
inductive Traffic.Step (s : Settings) : Traffic → History → Traffic → Prop where
  | rest {T : Traffic} : Step s T [] T
  | emit {heads : Multiset (Delivery × Spot)} {tails : Multiset Ticket} {ts : Tickets} {l : Ledger}
      (x : Sample) :
      Step s ⟨heads, tails, ts, l⟩ [.issued (l.emit x).2]
        ⟨{((l.emit x).2, .outside)} + heads, tails, ts.issue (l.emit x).2.ticket, (l.emit x).1⟩
  | settle {heads : Multiset (Delivery × Spot)} {tails : Multiset Ticket} {ts ts' : Tickets}
      {l : Ledger} {o : Outcome} (read : ts.read? = some (o, ts')) :
      Step s ⟨heads, tails, ts, l⟩ (.settled o (l.settle o).2 :: (l.settle o).2.issues)
        ⟨(l.settle o).2.heads + heads, tails, (l.settle o).2.reissue ts', (l.settle o).1⟩
  | hop {heads : Multiset (Delivery × Spot)} {tails : Multiset Ticket} {ts : Tickets} {l : Ledger}
      {d : Delivery} {spot spot' : Spot} {ds : History} (hop : Hop s d spot ds spot') :
      Step s ⟨{(d, spot)} + heads, tails, ts, l⟩ ds ⟨{(d, spot')} + heads, tails, ts, l⟩
  | branch {heads : Multiset (Delivery × Spot)} {tails : Multiset Ticket} {ts : Tickets} {l : Ledger}
      {d onward : Delivery} {spot : Spot} {e : Deed} {g : Tier} (branch : Branch d spot e onward g) :
      Step s ⟨{(d, spot)} + heads, tails, ts, l⟩ [e]
        ⟨{(onward, .moving g)} + heads, {d.ticket} + tails, ts.share d.ticket, l⟩
  | halt {heads : Multiset (Delivery × Spot)} {tails : Multiset Ticket} {ts : Tickets} {l : Ledger}
      {d : Delivery} {spot : Spot} {e : Deed} {mark : Option Mark} (halt : Halt s d spot e mark) :
      Step s ⟨{(d, spot)} + heads, tails, ts, l⟩ (e :: (ts.marked d.ticket mark).farewells d.ticket)
        ⟨heads, tails, (ts.marked d.ticket mark).release d.ticket, l⟩
  | part {heads : Multiset (Delivery × Spot)} {tails : Multiset Ticket} {ts : Tickets} {l : Ledger}
      (k : Ticket) :
      Step s ⟨heads, {k} + tails, ts, l⟩ (ts.farewells k) ⟨heads, tails, ts.release k, l⟩

/-! ### The traffic of a plant -/

def Activity.heads (t : Tier) : Activity → Multiset (Delivery × Spot)
  | storing d a => {(d, .serving t a .store)}
  | notifying d a _ => {(d, .serving t a .notifier)}
  | closing d a _ => {(d, .closing t a)}
  | forwarding _ onward gate => {(onward, .moving gate.tier)}
  | idle | parting _ | stopped => 0

/-- The ticket that a worker still holds while the sample goes on its way. -/
def Activity.tails : Activity → Multiset Ticket
  | forwarding d _ _ | parting d => {d.ticket}
  | idle | storing .. | notifying .. | closing .. | stopped => 0

def Worker.queuing (t : Tier) (w : Worker) : Multiset (Delivery × Spot) :=
  ((Command.deliveries w.queue).map fun d => (d, Spot.queued t) : List (Delivery × Spot))

/-- The samples that go on their way through a worker. -/
def Worker.heads (t : Tier) (w : Worker) : Multiset (Delivery × Spot) :=
  w.queuing t + w.activity.heads t

/-- The ticket that a worker still holds. -/
def Worker.tails (w : Worker) : Multiset Ticket := w.activity.tails

def Loop.heads (l : Loop) : Multiset (Delivery × Spot) :=
  ((l.submitting.toList ++ l.ready ++ l.waiting.map (·.2)).map fun d => (d, Spot.outside) :
    List (Delivery × Spot))

namespace Plant

variable {σ : Type} (p : Plant σ)

/-- All samples on their way. -/
def heads : Multiset (Delivery × Spot) := p.loop.heads + p.total Worker.heads

/-- All other holders of tickets. -/
def tails : Multiset Ticket := p.total fun _ w => w.tails

def traffic : Traffic := ⟨p.heads, p.tails, p.tickets, p.ledger⟩

variable {p} {q : Plant σ} {t : Tier} {i : Nat} {w : Worker}

theorem exists_total_eq_of_swap {M : Type} [AddCommMonoid M] (f : Tier → Worker → M)
    (here : p.worker? t i = some w) (w' : Worker) {out into keep : M} (old : f t w = out + keep)
    (new : f t w' = into + keep) :
    ∃ rest, p.total f = out + rest ∧ (p.setWorker t i w').total f = into + rest := by
  obtain ⟨rest, before, after⟩ := p.exists_total_eq f here
  refine ⟨keep + rest, ?_, ?_⟩
  · rw [before, old, add_assoc]
  · rw [after, new, add_assoc]

/-- What one worker does to the traffic, if the loop does nothing. -/
theorem exists_traffic_eq (here : p.worker? t i = some w) (w' : Worker)
    (pools : q.pools = (p.setWorker t i w').pools) (loop : q.loop = p.loop)
    {out into keep : Multiset (Delivery × Spot)} (oldHeads : w.heads t = out + keep)
    (newHeads : w'.heads t = into + keep) {gone come stay : Multiset Ticket}
    (oldTails : w.tails = gone + stay) (newTails : w'.tails = come + stay) :
    ∃ heads tails, p.traffic = ⟨out + heads, gone + tails, p.tickets, p.ledger⟩ ∧
      q.traffic = ⟨into + heads, come + tails, q.tickets, q.ledger⟩ := by
  obtain ⟨rest, oldTotal, newTotal⟩ := exists_total_eq_of_swap Worker.heads here w' oldHeads newHeads
  obtain ⟨tails, oldEnds, newEnds⟩ :=
    exists_total_eq_of_swap (fun _ w => w.tails) here w' oldTails newTails
  refine ⟨p.loop.heads + rest, tails, ?_, ?_⟩
  · rw [traffic, heads, Plant.tails, oldTotal, oldEnds, add_left_comm]
  · rw [total, ← pools] at newTotal newEnds
    rw [traffic, heads, Plant.tails, total, newTotal, total, newEnds, loop, add_left_comm]

theorem traffic_eq_of_loop {out into keep : Multiset (Delivery × Spot)} (pools : q.pools = p.pools)
    (old : p.loop.heads = out + keep) (new : q.loop.heads = into + keep) :
    p.traffic = ⟨out + (keep + p.total Worker.heads), p.tails, p.tickets, p.ledger⟩ ∧
      q.traffic = ⟨into + (keep + p.total Worker.heads), p.tails, q.tickets, q.ledger⟩ := by
  refine ⟨?_, ?_⟩
  · rw [traffic, heads, old, add_assoc]
  · have sameHeads : q.total Worker.heads = p.total Worker.heads := by rw [total, pools, total]
    have sameTails : q.tails = p.tails := by rw [tails, total, pools, tails, total]
    rw [traffic, heads, new, sameHeads, sameTails, add_assoc]

end Plant

namespace Worker

variable {t : Tier} {w : Worker}

theorem heads_push (t : Tier) (w : Worker) (d : Delivery) :
    (w.push (.process d)).heads t = {(d, .queued t)} + w.heads t := by
  have queue : (w.push (.process d)).queuing t = {(d, .queued t)} + w.queuing t := by
    simp only [queuing, push, Command.deliveries, List.filterMap_append, List.map_append]
    rw [← Multiset.coe_add, add_comm]
    rfl
  rw [heads, queue, add_assoc]
  rfl

theorem heads_of_queue {d : Delivery} {rest : List Command} (free : w.activity = .idle)
    (head : w.queue = .process d :: rest) :
    w.heads t = {(d, .queued t)} + { w with queue := rest }.queuing t := by
  rw [heads, free, queuing, head]
  exact add_zero _

/-- A worker that is about to look at a window holds the one sample, and nobody's ticket but that. -/
theorem heads_of_closing {d : Delivery} {a : Aggregate} {receipt : Receipt}
    (looks : w.activity = .closing d a receipt) :
    w.heads t = {(d, .closing t a)} + w.queuing t ∧ w.tails = 0 := by
  rw [heads, tails, looks, add_comm]
  exact ⟨rfl, rfl⟩

theorem heads_of_activity (w : Worker) (t : Tier) (act : Activity) :
    { w with activity := act }.heads t = act.heads t + w.queuing t :=
  add_comm _ _

end Worker

/-! ### The deeds of workers are lawful -/

theorem Stage.unmoved_process {st st' : Stage} {x : Sample} {a : Aggregate}
    (h : st.process x = .ok (a, st')) : Unmoved (st.inspect x.series) (st'.inspect x.series) := by
  obtain ⟨-, -, rfl⟩ := process_eq_ok h
  simp only [inspect, SeriesTable.get?_put_self, absorbed, SeriesTable.getOrOpen]
  cases st.table.get? x.series with
  | none => exact SeriesState.absorb_lastEmitted ..
  | some old => exact ⟨SeriesState.absorb_openedAt .., SeriesState.absorb_lastEmitted ..⟩

namespace Worker.Fits

variable {s : Settings} {t : Tier} {i : Nat} {w : Worker} {d : Delivery} {a : Aggregate}

theorem lawful_rejected {f : Failure} (h : w.stage.process d.sample = .error f) :
    (Deed.worked d t (.rejected f) (w.sees d.sample.series) (w.sees d.sample.series)).Lawful := by
  obtain ⟨infinite, rfl⟩ := Stage.process_eq_error h
  exact ⟨infinite, rfl, rfl⟩

theorem lawful_folded (fits : w.Fits s t i) {stage : Stage}
    (h : w.stage.process d.sample = .ok (a, stage)) :
    (Deed.worked d t (.folded a) (w.sees d.sample.series) (stage.inspect d.sample.series)).Lawful := by
  have unmoved := Stage.unmoved_process h
  obtain ⟨finite, rfl, rfl⟩ := Stage.process_eq_ok h
  refine ⟨finite, SeriesState.absorb_of .., fits.tier, unmoved, ?_⟩
  simp [Stage.inspect]

theorem lawful_called (fits : w.Fits s t i) (serves : w.activity.serving? = some (d, a)) (sink : Sink)
    (tries : Nat) (result : Except SinkFault Unit) :
    (Deed.worked d t (.called sink a tries result) (w.sees d.sample.series)
      (w.sees d.sample.series)).Lawful := by
  obtain ⟨made, -, state, known⟩ := fits.serving serves
  exact ⟨made, rfl, by rw [known]; rfl⟩

theorem lawful_looked (fits : w.Fits s t i) (serves : w.activity.serving? = some (d, a)) :
    (Deed.worked d t (.looked a (w.stage.verdict a d.replay)) (w.sees d.sample.series)
      ((w.stage.closeWindow a d.replay).2.inspect d.sample.series)).Lawful := by
  obtain ⟨made, -, state, known⟩ := fits.serving serves
  have found : w.stage.table.get? a.series = some state := by
    rw [made.1]
    exact known
  obtain ⟨after, rule, left, -⟩ := Stage.closeWindow_window d.replay found
  rw [fits.tier] at rule
  rw [made.1] at left
  exact ⟨made, state, after, known, left, rule⟩

end Worker.Fits

/-! ### Turns are steps -/

theorem Dispatch.result_of_issue {σ : Type} {dispatch : Dispatch} {c : Collaborator σ} {sink : Sink}
    {a : Aggregate} {st sinks : σ} {done : Bool} (due : dispatch.due a sink = true)
    (issued : dispatch.issue c sink a st = (sinks, .ok done)) :
    (dispatch.budget.call sink.label (c sink a) st).2 = .ok () := by
  simp only [issue, due, if_true] at issued
  have result := congrArg Prod.snd issued
  change Except.map _ (dispatch.budget.call sink.label (c sink a) st).2 = _ at result
  cases outcome : (dispatch.budget.call sink.label (c sink a) st).2 with
  | ok _ => rfl
  | error fault => rw [outcome] at result; cases result

namespace Plant

variable {σ : Type} {s : Settings} {c : Collaborator σ} {p : Plant σ} {t : Tier} {w : Worker}
  {d : Delivery} {a : Aggregate} {sink : Sink} {sinks : σ}

theorem hop_of_call {i : Nat} {done : Bool} (fits : w.Fits s t i)
    (serves : w.activity.serving? = some (d, a))
    (issued : s.dispatch.issue c sink a p.sinks = (sinks, .ok done)) :
    Hop s d (.serving t a sink) (p.callDeeds s c t w d a sink) (.afterCall t a sink) := by
  unfold callDeeds
  by_cases due : s.dispatch.due a sink = true
  · have good : (s.calls.call sink.label (c sink a) p.sinks).2 = .ok () :=
      Dispatch.result_of_issue due issued
    rw [if_pos due]
    simp only [good]
    exact .call due (fits.lawful_called serves ..)
  · simp only [due, Bool.false_eq_true, if_false]
    exact .skip (by simpa using due)

theorem callDeeds_eq_of_fault {fault : SinkFault}
    (issued : s.dispatch.issue c sink a p.sinks = (sinks, .error fault)) :
    s.dispatch.due a sink = true ∧ ∃ tries, p.callDeeds s c t w d a sink
      = .worked d t (.called sink a tries (.error fault)) (w.sees d.sample.series)
          (w.sees d.sample.series)
        :: (p.tickets.marked d.ticket (some ⟨t, fault.message⟩)).farewells d.ticket := by
  unfold callDeeds
  unfold Dispatch.issue at issued
  by_cases due : s.dispatch.due a sink = true
  · simp only [due, if_true] at issued ⊢
    have bad : (s.calls.call sink.label (c sink a) p.sinks).2 = .error fault := by
      have result := congrArg Prod.snd issued
      change Except.map _ (s.calls.call sink.label (c sink a) p.sinks).2 = _ at result
      cases outcome : (s.calls.call sink.label (c sink a) p.sinks).2 with
      | ok _ => rw [outcome] at result; cases result
      | error fault => rw [outcome] at result; cases result; rfl
    simp only [bad]
    exact ⟨trivial, _, rfl⟩
  · simp only [due, Bool.false_eq_true, if_false] at issued
    cases issued

theorem heads_of_call {act : Activity} (calls : act.calls? = some (sink, d, a)) (done : Bool) :
    act.heads t = {(d, .serving t a sink)} ∧
      (act.afterCall done).heads t = {(d, Spot.afterCall t a sink)} ∧
      act.tails = 0 ∧ (act.afterCall done).tails = 0 := by
  cases act <;> cases calls <;> exact ⟨rfl, rfl, rfl, rfl⟩

end Plant

namespace Plant

variable {σ : Type} {s : Settings} {p : Plant σ}

theorem submitting_eq_none (ready : p.loopIdle = true) : p.loop.submitting = none := by
  simp only [loopIdle, Bool.and_eq_true, Option.isNone_iff_eq_none] at ready
  exact ready.2

theorem traffic_enter {d : Delivery} {taker : Worker} (waits : p.loop.submitting = some d)
    (found : p.worker? .raw (s.place .raw d.sample.series) = some taker) :
    ∃ rest, p.traffic = ⟨{(d, .outside)} + rest, p.tails, p.tickets, p.ledger⟩ ∧
      ({ p with loop := { p.loop with submitting := none } }.setWorker .raw
          (s.place .raw d.sample.series) (taker.push (.process d))).traffic
        = ⟨{(d, .queued .raw)} + rest, p.tails, p.tickets, p.ledger⟩ := by
  have loopHeads : p.loop.heads
      = {(d, .outside)} + Loop.heads { p.loop with submitting := none } := by
    simp only [Loop.heads, waits]
    rfl
  have oldHeads : taker.heads .raw = 0 + taker.heads .raw := (zero_add _).symm
  obtain ⟨rest, before, after⟩ := exists_total_eq_of_swap Worker.heads found _ oldHeads
    (Worker.heads_push .raw taker d)
  obtain ⟨tails, oldTails, newTails⟩ := p.exists_total_eq (fun _ w => w.tails) found
  have ends : p.tails
      = (p.setWorker .raw (s.place .raw d.sample.series) (taker.push (.process d))).tails :=
    oldTails.trans (newTails (taker.push (.process d))).symm
  refine ⟨Loop.heads { p.loop with submitting := none } + rest, ?_, ?_⟩
  · rw [traffic, heads, loopHeads, before, zero_add, add_assoc]
  · rw [add_left_comm, ← after, ends]
    rfl

/-- Handing a sample on moves it from one worker to another, and its old ticket stays where it
was. -/
theorem traffic_hand (o : p.Orderly s) {t g : Tier} {i : Nat} {w taker : Worker}
    {d onward : Delivery} (here : p.worker? t i = some w) (hands : w.activity = .forwarding d onward (s.gateOf g))
    (found : p.worker? g (s.place g onward.sample.series) = some taker) :
    ∃ rest, p.traffic = ⟨{(onward, .moving g)} + rest, p.tails, p.tickets, p.ledger⟩ ∧
      ((p.setWorker g (s.place g onward.sample.series) (taker.push (.process onward))).setWorker t i
          { w with activity := .parting d }).traffic
        = ⟨{(onward, .queued g)} + rest, p.tails, p.tickets, p.ledger⟩ := by
  have still := o.worker?_hand here hands (s.place g onward.sample.series)
    (taker.push (.process onward))
  have oldHeads : w.heads t = {(onward, .moving g)} + w.queuing t := by
    rw [Worker.heads, hands, add_comm]
    rfl
  have newHeads : { w with activity := .parting d }.heads t = 0 + w.queuing t :=
    Worker.heads_of_activity ..
  have oldTails : w.tails = 0 + {d.ticket} := by
    rw [Worker.tails, hands, zero_add]
    rfl
  have newTails : { w with activity := .parting d }.tails = 0 + {d.ticket} := (zero_add _).symm
  obtain ⟨rest, before, -⟩ := exists_total_eq_of_swap Worker.heads here _ oldHeads newHeads
  obtain ⟨others, taken, given⟩ := p.exists_total_eq Worker.heads found
  obtain ⟨rest', given', after⟩ := exists_total_eq_of_swap Worker.heads still _ oldHeads newHeads
  obtain ⟨tails, takerEnds, givenEnds⟩ := p.exists_total_eq (fun _ w => w.tails) found
  obtain ⟨tails', stillEnds, partEnds⟩ :=
    exists_total_eq_of_swap (fun _ w => w.tails) still _ oldTails newTails
  have exchanged : rest' = {(onward, .queued g)} + rest := by
    have both : {(onward, Spot.moving g)} + rest'
        = {(onward, Spot.moving g)} + ({(onward, Spot.queued g)} + rest) := by
      rw [← given', given, Worker.heads_push, add_assoc, ← taken, before, add_left_comm]
    exact add_left_cancel both
  refine ⟨p.loop.heads + rest, ?_, ?_⟩
  · rw [traffic, heads, before, add_left_comm]
  · have sameTails : p.tails = tails' := by
      rw [Plant.tails, takerEnds, ← zero_add tails', ← stillEnds]
      exact (givenEnds (taker.push (.process onward))).symm
    have nextTails : ((p.setWorker g (s.place g onward.sample.series)
        (taker.push (.process onward))).setWorker t i { w with activity := .parting d }).tails
          = p.tails := by
      rw [Plant.tails, partEnds, zero_add, sameTails]
    rw [traffic, nextTails, heads, after, exchanged, zero_add, add_left_comm]
    rfl

/-! ### The turns of the loop -/

theorem traffic_receive (x : Sample) (ready : p.loopIdle = true) :
    Traffic.Step s p.traffic [.issued (p.ledger.emit x).2] (p.receive x).traffic := by
  have more : (p.receive x).loop.heads = {((p.ledger.emit x).2, .outside)} + p.loop.heads := by
    simp only [receive, Loop.heads, submitting_eq_none ready]
    rfl
  obtain ⟨before, after⟩ := traffic_eq_of_loop (p := p) (q := p.receive x) rfl (zero_add _).symm more
  rw [before, after, zero_add]
  exact .emit x

theorem traffic_settle {q : Plant σ} {outcome : Outcome} {st : Settlement}
    (settled : p.settle = some (q, outcome, st)) :
    Traffic.Step s p.traffic (.settled outcome st :: st.issues) q.traffic := by
  obtain ⟨tickets, meter, journal, read, rfl, rfl⟩ := settle_eq_some settled
  have more : Loop.heads { p.loop with waiting :=
        p.loop.waiting ++ (p.ledger.settle outcome).2.waits.map fun d => (p.loop.run, d) }
      = (p.ledger.settle outcome).2.heads + p.loop.heads := by
    simp only [Loop.heads, Settlement.heads, List.map_append, List.map_map]
    rw [← List.append_assoc, ← Multiset.coe_add, add_comm]
    rfl
  obtain ⟨before, after⟩ := traffic_eq_of_loop (p := p) (q := { p with
      ledger := (p.ledger.settle outcome).1
      tickets := (p.ledger.settle outcome).2.reissue tickets
      meter := meter, journal := journal
      loop := { p.loop with waiting :=
        p.loop.waiting ++ (p.ledger.settle outcome).2.waits.map fun d => (p.loop.run, d) } })
    rfl (zero_add _).symm more
  rw [before, after, zero_add]
  exact .settle read

theorem traffic_of_loop {q : Plant σ} (pools : q.pools = p.pools) (same : q.loop.heads = p.loop.heads)
    (tickets : q.tickets = p.tickets) (ledger : q.ledger = p.ledger) :
    Traffic.Step s p.traffic [] q.traffic := by
  obtain ⟨before, after⟩ := traffic_eq_of_loop pools (zero_add _).symm (same.trans (zero_add _).symm)
  rw [before, after, tickets, ledger]
  exact .rest

theorem heads_wake {i run : Nat} {d : Delivery} (waits : p.loop.waiting[i]? = some (run, d)) :
    Loop.heads { p.loop with
      waiting := p.loop.waiting.eraseIdx i, ready := p.loop.ready ++ [d] } = p.loop.heads := by
  obtain ⟨inside, here⟩ := List.getElem?_eq_some_iff.1 waits
  have perm := (List.getElem_cons_eraseIdx_perm inside).map (·.2)
  rw [here] at perm
  simp only [Loop.heads]
  refine Multiset.coe_eq_coe.2 (List.Perm.map _ ?_)
  simp only [List.append_assoc, List.singleton_append]
  exact ((perm.append_left _).append_left _)

/-! ### The turns of workers -/

section Work

variable {t : Tier} {i : Nat} {w : Worker} {d : Delivery} {a : Aggregate} {queue : List Command}

theorem traffic_reject {f : Failure} (here : p.worker? t i = some w) (free : w.activity = .idle)
    (head : w.queue = .process d :: queue) (refused : w.stage.process d.sample = .error f) :
    Traffic.Step s p.traffic
      (.worked d t (.rejected f) (w.sees d.sample.series) (w.sees d.sample.series)
        :: p.tickets.farewells d.ticket) (p.take t i { w with queue } d).traffic := by
  obtain ⟨m, j, taken⟩ := p.take_eq_of_error t i { w with queue } d refused
  have oldHeads := Worker.heads_of_queue (t := t) free head
  have newHeads : { w with queue }.heads t = 0 + { w with queue }.queuing t := by
    rw [Worker.heads, free, add_comm]
    rfl
  have sameTails : w.tails = 0 + w.tails := (zero_add _).symm
  rw [taken]
  obtain ⟨heads, tails, before, after⟩ := exists_traffic_eq here { w with queue }
    (q := { p.setWorker t i { w with queue } with
      meter := m, journal := j, tickets := p.tickets.release d.ticket })
    rfl rfl oldHeads newHeads sameTails sameTails
  rw [before, after]
  simp only [zero_add]
  exact .halt (.refuse (Worker.Fits.lawful_rejected refused))

theorem traffic_fold (o : p.Orderly s) {stage : Stage} (here : p.worker? t i = some w)
    (free : w.activity = .idle) (head : w.queue = .process d :: queue)
    (folded : w.stage.process d.sample = .ok (a, stage)) :
    Traffic.Step s p.traffic
      [.worked d t (.folded a) (w.sees d.sample.series) (stage.inspect d.sample.series)]
      (p.take t i { w with queue } d).traffic := by
  obtain ⟨m, taken⟩ := p.take_eq_of_ok t i { w with queue } d folded
  have oldHeads := Worker.heads_of_queue (t := t) free head
  have newHeads : { w with stage, queue, activity := .storing d a }.heads t
      = {(d, .serving t a .store)} + { w with queue }.queuing t := add_comm _ _
  have oldTails : w.tails = 0 + 0 := by
    rw [Worker.tails, free]
    rfl
  have newTails : { w with stage, queue, activity := .storing d a }.tails = 0 + 0 := rfl
  rw [taken]
  obtain ⟨heads, tails, before, after⟩ := exists_traffic_eq here
    { w with stage, queue, activity := .storing d a }
    (q := { p.setWorker t i { w with stage, queue, activity := .storing d a } with meter := m })
    rfl rfl oldHeads newHeads oldTails newTails
  rw [before, after]
  exact .hop (.fold ((o.fits here).lawful_folded folded))

theorem traffic_call {c : Collaborator σ} (o : p.Orderly s) {sink : Sink} {sinks : σ} {done : Bool}
    (here : p.worker? t i = some w) (calls : w.activity.calls? = some (sink, d, a))
    (issued : s.dispatch.issue c sink a p.sinks = (sinks, .ok done)) :
    Traffic.Step s p.traffic (p.callDeeds s c t w d a sink)
      ({ p with sinks }.setWorker t i { w with activity := w.activity.afterCall done }).traffic := by
  obtain ⟨oldHand, newHand, oldTails, newTails⟩ := heads_of_call (t := t) calls done
  have serves := Activity.serving?_of_calls? calls
  have oldHeads : w.heads t = {(d, .serving t a sink)} + w.queuing t := by
    rw [Worker.heads, oldHand, add_comm]
  have newHeads : { w with activity := w.activity.afterCall done }.heads t
      = {(d, .afterCall t a sink)} + w.queuing t := by
    rw [Worker.heads_of_activity, newHand]
  obtain ⟨heads, tails, before, after⟩ := exists_traffic_eq here
    { w with activity := w.activity.afterCall done }
    (q := { p with sinks }.setWorker t i { w with activity := w.activity.afterCall done })
    rfl rfl oldHeads newHeads (oldTails.trans (zero_add 0).symm) (newTails.trans (zero_add 0).symm)
  rw [before, after]
  exact .hop (hop_of_call (o.fits here) serves issued)

theorem traffic_fault {c : Collaborator σ} (o : p.Orderly s) {sink : Sink} {sinks : σ}
    {fault : SinkFault} (here : p.worker? t i = some w)
    (calls : w.activity.calls? = some (sink, d, a))
    (issued : s.dispatch.issue c sink a p.sinks = (sinks, .error fault)) :
    Traffic.Step s p.traffic (p.callDeeds s c t w d a sink)
      ({ p with sinks }.fail t i w d a fault).traffic := by
  obtain ⟨m, j, desk, failed⟩ := fail_eq { p with sinks } t i w d a fault
  obtain ⟨oldHand, -, oldTails, -⟩ := heads_of_call (t := t) calls false
  have serves := Activity.serving?_of_calls? calls
  have oldHeads : w.heads t = {(d, .serving t a sink)} + w.queuing t := by
    rw [Worker.heads, oldHand, add_comm]
  rw [failed]
  obtain ⟨heads, tails, before, after⟩ := exists_traffic_eq here { w with activity := .idle }
    (q := { { p with sinks }.setWorker t i { w with activity := .idle } with
      meter := m, journal := j, desk := desk
      tickets := (p.tickets.fail d.ticket t fault.message).release d.ticket })
    rfl rfl oldHeads (Worker.heads_of_activity w t .idle) (oldTails.trans (zero_add 0).symm)
    (zero_add 0).symm
  obtain ⟨due, tries, deeds⟩ := callDeeds_eq_of_fault (p := p) (t := t) (w := w) (d := d) issued
  rw [before, after, deeds]
  simp only [Activity.heads, zero_add]
  exact .halt (.fault due ((o.fits here).lawful_called serves ..))

theorem traffic_keep (o : p.Orderly s) {receipt : Receipt} (here : p.worker? t i = some w)
    (looks : w.activity = .closing d a receipt) (kept : w.stage.verdict a d.replay = .kept) :
    Traffic.Step s p.traffic
      (.worked d t (.looked a .kept) (w.sees d.sample.series)
          ((w.stage.closeWindow a d.replay).2.inspect d.sample.series)
        :: p.tickets.farewells d.ticket) (p.close t i w d a receipt).traffic := by
  obtain ⟨m, desk, closed⟩ := p.close_eq_of_kept t i w d receipt kept
  have serves : w.activity.serving? = some (d, a) := by rw [looks]; rfl
  have lawful := (o.fits here).lawful_looked serves
  obtain ⟨oldHeads, oldTails⟩ := Worker.heads_of_closing (t := t) looks
  have newHeads : { w with stage := (w.stage.closeWindow a d.replay).2, activity := .idle }.heads t
      = 0 + w.queuing t := add_comm _ _
  rw [closed]
  obtain ⟨heads, tails, before, after⟩ := exists_traffic_eq here
    { w with stage := (w.stage.closeWindow a d.replay).2, activity := .idle }
    (q := { p.setWorker t i
        { w with stage := (w.stage.closeWindow a d.replay).2, activity := .idle } with
      meter := m, desk := desk, tickets := p.tickets.release d.ticket })
    rfl rfl oldHeads newHeads (oldTails.trans (zero_add 0).symm) (zero_add 0).symm
  rw [before, after]
  rw [kept] at lawful
  simp only [zero_add]
  exact .halt (.keep lawful)

theorem traffic_move (o : p.Orderly s) {receipt : Receipt} {g : Tier} (here : p.worker? t i = some w)
    (looks : w.activity = .closing d a receipt) (moves : w.stage.verdict a d.replay ≠ .kept)
    (next : t.next = some g) :
    Traffic.Step s p.traffic
      [.worked d t (.looked a (w.stage.verdict a d.replay)) (w.sees d.sample.series)
        ((w.stage.closeWindow a d.replay).2.inspect d.sample.series)]
      (p.close t i w d a receipt).traffic := by
  have ahead := (o.fits here).ahead_of_next next
  obtain ⟨j, desk, closed⟩ := p.close_eq_of_moved t i w d receipt moves ahead
  have serves : w.activity.serving? = some (d, a) := by rw [looks]; rfl
  obtain ⟨oldHeads, oldTails⟩ := Worker.heads_of_closing (t := t) looks
  let mover : Worker := { w with
    stage := (w.stage.closeWindow a d.replay).2
    activity := .forwarding d ⟨d.ticket, a.toSample, d.replay⟩ (s.gateOf g) }
  have newHeads : mover.heads t
      = {(⟨d.ticket, a.toSample, d.replay⟩, .moving g)} + w.queuing t := add_comm _ _
  have newTails : mover.tails = {d.ticket} + 0 := (add_zero _).symm
  rw [closed]
  obtain ⟨heads, tails, before, after⟩ := exists_traffic_eq here mover
    (q := { p.setWorker t i mover with
      journal := j, desk := desk, tickets := p.tickets.share d.ticket })
    rfl rfl oldHeads newHeads (oldTails.trans (zero_add 0).symm) newTails
  rw [before, after]
  simp only [zero_add]
  exact .branch (.move ((o.fits here).lawful_looked serves) moves next)

theorem traffic_part (here : p.worker? t i = some w) (parts : w.activity = .parting d) :
    Traffic.Step s p.traffic (p.tickets.farewells d.ticket)
      ((p.count (.forwarded t)).complete t i w d).traffic := by
  have oldHeads : w.heads t = 0 + w.queuing t := by
    rw [Worker.heads, parts, add_comm]
    rfl
  have oldTails : w.tails = {d.ticket} + 0 := by
    rw [Worker.tails, parts]
    rfl
  obtain ⟨heads, tails, before, after⟩ := exists_traffic_eq here { w with activity := .idle }
    (q := (p.count (.forwarded t)).complete t i w d) rfl rfl oldHeads
    (Worker.heads_of_activity w t .idle) oldTails (zero_add 0).symm
  rw [before, after]
  simp only [Activity.heads, zero_add]
  exact .part d.ticket

end Work

end Plant

/-- **Turns are steps of traffic.** -/
theorem Turn.traffic {σ : Type} {s : Settings} {c : Collaborator σ} {p q : Plant σ} {ds : History}
    (turn : Turn s c p ds q) (o : p.Orderly s) : Traffic.Step s p.traffic ds q.traffic := by
  cases turn with
  | begin => exact .rest
  | closeInput => exact .rest
  | finish => exact .rest
  | receive x ready => exact Plant.traffic_receive x ready
  | settle ready settled => exact Plant.traffic_settle settled
  | wake waits => exact Plant.traffic_of_loop rfl (Plant.heads_wake waits) rfl rfl
  | @resubmit d rest ready first =>
    have same : Loop.heads { p.loop with ready := rest, submitting := some d } = p.loop.heads := by
      simp only [Loop.heads, Plant.submitting_eq_none ready, first]
      rfl
    exact Plant.traffic_of_loop rfl same rfl rfl
  | enter waits found room =>
    obtain ⟨rest, before, after⟩ := Plant.traffic_enter waits found
    rw [before, after]
    exact .hop .enter
  | reject here free head refused => exact Plant.traffic_reject here free head refused
  | fold here free head folded => exact Plant.traffic_fold o here free head folded
  | call here calls issued => exact Plant.traffic_call o here calls issued
  | fault here calls issued => exact Plant.traffic_fault o here calls issued
  | keep here looks kept => exact Plant.traffic_keep o here looks kept
  | move here looks moves next => exact Plant.traffic_move o here looks moves next
  | hand here hands found room =>
    obtain ⟨rest, before, after⟩ := Plant.traffic_hand o here hands found
    rw [before, after]
    exact .hop .hand
  | part here parts => exact Plant.traffic_part here parts

end TierCascade
