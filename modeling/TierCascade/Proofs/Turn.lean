import TierCascade.Proofs.History
import TierCascade.Proofs.Pools
/-!
# One step, case by case

In an undisturbed run no worker stops, every queue has a taker, and every delivery stands at the
worker that its series is routed to (`Orderly`). Under these conditions a step is one of the turns
listed by `Turn`, and nothing else can happen: the branches of `Plant.step` for closed queues, broken
routes and abandoned deliveries are never taken. All that is proved about runs goes through
`turn_of_step`. What the loop does is listed apart from that (`LoopStep`), for runs that are disturbed.
-/

namespace TierCascade

namespace Activity

def taken? : Activity → Option Delivery
  | storing d _ | notifying d _ _ | closing d _ _ | forwarding d _ _ | parting d => some d
  | idle | stopped => none

/-- The delivery of which a worker has made an aggregate that it is not yet done with. -/
def serving? : Activity → Option (Delivery × Aggregate)
  | storing d a | notifying d a _ | closing d a _ => some (d, a)
  | idle | forwarding .. | parting _ | stopped => none

/-- The call that a worker makes next. -/
def calls? : Activity → Option (Sink × Delivery × Aggregate)
  | storing d a => some (.store, d, a)
  | notifying d a _ => some (.notifier, d, a)
  | idle | closing .. | forwarding .. | parting _ | stopped => none

def afterCall (act : Activity) (done : Bool) : Activity :=
  match act with
  | storing d a => notifying d a done
  | notifying d a stored => closing d a ⟨stored, done⟩
  | other => other

theorem serving?_of_calls? {act : Activity} {sink : Sink} {d : Delivery} {a : Aggregate}
    (h : act.calls? = some (sink, d, a)) : act.serving? = some (d, a) := by
  cases act <;> cases h <;> rfl

theorem taken?_of_serving? {act : Activity} {d : Delivery} {a : Aggregate}
    (h : act.serving? = some (d, a)) : act.taken? = some d := by
  cases act <;> cases h <;> rfl

end Activity

theorem Worker.isStopped_of_works {w : Worker} (h : w.activity ≠ .stopped) :
    w.isStopped = false := by
  unfold isStopped
  split
  · rename_i stopped
    exact absurd stopped h
  · rfl

/-- A worker in the order of things: it works, its queue holds deliveries only, and what it holds is
its own. -/
structure Worker.Fits (s : Settings) (t : Tier) (i : Nat) (w : Worker) : Prop where
  tier : w.stage.tier = t
  tuning : w.stage.tuning = s.tuning
  works : w.activity ≠ .stopped
  queued : ∀ cmd ∈ w.queue, ∃ d, cmd = .process d ∧ (s.routing t).route d.sample.series = i
  taken : ∀ {d}, w.activity.taken? = some d → (s.routing t).route d.sample.series = i
  serving : ∀ {d a}, w.activity.serving? = some (d, a) →
    a.Of d.sample ∧ a.tier = t ∧ ∃ state, w.sees d.sample.series = some state
  onward : ∀ {d o gate}, w.activity = .forwarding d o gate →
    t.next.map s.gateOf = some gate ∧ o.ticket = d.ticket ∧ o.sample.series = d.sample.series
  ahead : w.ahead = t.next.map s.gateOf

/-- A worker that hands a sample on does so through the gate of the next tier. -/
theorem Worker.Fits.next {s : Settings} {t g : Tier} {i : Nat} {w : Worker} {d onward : Delivery}
    (fits : w.Fits s t i) (hands : w.activity = .forwarding d onward (s.gateOf g)) : t.next = some g := by
  obtain ⟨g', next, same⟩ := Option.map_eq_some_iff.1 (fits.onward hands).1
  rw [next, show g' = g from congrArg Gate.tier same]

theorem Worker.Fits.ahead_of_next {s : Settings} {t g : Tier} {i : Nat} {w : Worker}
    (fits : w.Fits s t i) (next : t.next = some g) : w.ahead = some (s.gateOf g) := by
  rw [fits.ahead, next]
  rfl

/-- A plant in the order of things. -/
structure Plant.Orderly {σ : Type} (s : Settings) (p : Plant σ) : Prop where
  manned : ∀ t, 0 < s.workersOf t
  size : ∀ t, (p.pools.get t).length = s.workersOf t
  fits : ∀ {t i w}, p.worker? t i = some w → w.Fits s t i

/-- The worker that a series is routed to. -/
def Settings.place (s : Settings) (t : Tier) (x : Series) : Nat := (s.routing t).route x

/-- What a step of an undisturbed run comes to. -/
inductive Turn {σ : Type} (s : Settings) (c : Collaborator σ) (p : Plant σ) :
    History → Plant σ → Prop where
  | begin (rests : p.loop.running = false) :
      Turn s c p [] { p with loop :=
        { p.loop with run := p.loop.run + 1, running := true, inputOpen := true, exit := none } }
  | receive (x : Sample) (ready : p.loopIdle = true) :
      Turn s c p [.issued (p.ledger.emit x).2] (p.receive x)
  | closeInput (ready : p.loopIdle = true) :
      Turn s c p [] { p with loop := { p.loop with inputOpen := false } }
  | settle {q : Plant σ} {o : Outcome} {st : Settlement} (ready : p.loopIdle = true)
      (settled : p.settle = some (q, o, st)) : Turn s c p (.settled o st :: st.issues) q
  | wake {i run : Nat} {d : Delivery} (waits : p.loop.waiting[i]? = some (run, d)) :
      Turn s c p [] { p with loop :=
        { p.loop with waiting := p.loop.waiting.eraseIdx i, ready := p.loop.ready ++ [d] } }
  | resubmit {d : Delivery} {rest : List Delivery} (ready : p.loopIdle = true)
      (first : p.loop.ready = d :: rest) :
      Turn s c p [] { p with loop := { p.loop with ready := rest, submitting := some d } }
  | enter {d : Delivery} {taker : Worker} (waits : p.loop.submitting = some d)
      (found : p.worker? .raw (s.place .raw d.sample.series) = some taker)
      (room : taker.queue.length < s.capacity) :
      Turn s c p [.queued d .raw]
        ({ p with loop := { p.loop with submitting := none } }.setWorker .raw
          (s.place .raw d.sample.series) (taker.push (.process d)))
  | finish (ready : p.loopIdle = true) (settled : p.ledger.pending = 0) (none : p.loop.ready = []) :
      Turn s c p [] { p with loop :=
        { p.loop with running := false, inputOpen := false, exit := some .drained } }
  | reject {t : Tier} {i : Nat} {w : Worker} {d : Delivery} {rest : List Command} {f : Failure}
      (here : p.worker? t i = some w) (free : w.activity = .idle)
      (head : w.queue = .process d :: rest) (refused : w.stage.process d.sample = .error f) :
      Turn s c p
        (.worked d t (.rejected f) (w.sees d.sample.series) (w.sees d.sample.series)
          :: p.tickets.farewells d.ticket)
        (p.take t i { w with queue := rest } d)
  | fold {t : Tier} {i : Nat} {w : Worker} {d : Delivery} {rest : List Command} {a : Aggregate}
      {stage : Stage} (here : p.worker? t i = some w) (free : w.activity = .idle)
      (head : w.queue = .process d :: rest) (folded : w.stage.process d.sample = .ok (a, stage)) :
      Turn s c p
        [.worked d t (.folded a) (w.sees d.sample.series) (stage.inspect d.sample.series)]
        (p.take t i { w with queue := rest } d)
  | call {t : Tier} {i : Nat} {w : Worker} {sink : Sink} {d : Delivery} {a : Aggregate} {sinks : σ}
      {done : Bool} (here : p.worker? t i = some w) (calls : w.activity.calls? = some (sink, d, a))
      (issued : s.dispatch.issue c sink a p.sinks = (sinks, .ok done)) :
      Turn s c p (p.callDeeds s c t w d a sink)
        ({ p with sinks }.setWorker t i { w with activity := w.activity.afterCall done })
  | fault {t : Tier} {i : Nat} {w : Worker} {sink : Sink} {d : Delivery} {a : Aggregate} {sinks : σ}
      {fault : SinkFault} (here : p.worker? t i = some w)
      (calls : w.activity.calls? = some (sink, d, a))
      (issued : s.dispatch.issue c sink a p.sinks = (sinks, .error fault)) :
      Turn s c p (p.callDeeds s c t w d a sink) ({ p with sinks }.fail t i w d a fault)
  | keep {t : Tier} {i : Nat} {w : Worker} {d : Delivery} {a : Aggregate} {receipt : Receipt}
      (here : p.worker? t i = some w) (looks : w.activity = .closing d a receipt)
      (kept : w.stage.verdict a d.replay = .kept) :
      Turn s c p
        (.worked d t (.looked a .kept) (w.sees d.sample.series)
            ((w.stage.closeWindow a d.replay).2.inspect d.sample.series)
          :: p.tickets.farewells d.ticket)
        (p.close t i w d a receipt)
  | move {t : Tier} {i : Nat} {w : Worker} {d : Delivery} {a : Aggregate} {receipt : Receipt}
      {g : Tier} (here : p.worker? t i = some w) (looks : w.activity = .closing d a receipt)
      (moves : w.stage.verdict a d.replay ≠ .kept) (next : t.next = some g) :
      Turn s c p
        [.worked d t (.looked a (w.stage.verdict a d.replay)) (w.sees d.sample.series)
          ((w.stage.closeWindow a d.replay).2.inspect d.sample.series)]
        (p.close t i w d a receipt)
  | hand {t : Tier} {i : Nat} {w : Worker} {d onward : Delivery} {g : Tier} {taker : Worker}
      (here : p.worker? t i = some w) (hands : w.activity = .forwarding d onward (s.gateOf g))
      (found : p.worker? g (s.place g onward.sample.series) = some taker)
      (room : taker.queue.length < s.capacity) :
      Turn s c p [.queued onward g]
        ((p.setWorker g (s.place g onward.sample.series) (taker.push (.process onward))).setWorker
          t i { w with activity := .parting d })
  | part {t : Tier} {i : Nat} {w : Worker} {d : Delivery} (here : p.worker? t i = some w)
      (parts : w.activity = .parting d) :
      Turn s c p (p.tickets.farewells d.ticket) ((p.count (.forwarded t)).complete t i w d)

def Action.concernsWorkers : Action → Bool
  | .work .. | .enter | .shutdown => true
  | _ => false

namespace Plant

variable {σ : Type} {s : Settings} {c : Collaborator σ} {p q : Plant σ}

theorem Orderly.behind_eq (o : p.Orderly s) (t : Tier) (x : Series) : ∃ w,
    p.worker? t (s.place t x) = some w ∧ p.behind (s.gateOf t) x = .ok (s.place t x, w) := by
  have inside : (s.routing t).route x < s.workersOf t := Routing.route_lt _ x (o.manned t)
  have manned : s.place t x < (p.pools.get t).length := inside.trans_eq (o.size t).symm
  have found : p.worker? t ((s.routing t).route x) = some (p.pools.get t)[s.place t x] :=
    List.getElem?_eq_getElem manned
  refine ⟨_, found, ?_⟩
  simp only [behind, Settings.gateOf, if_pos inside, found,
    Worker.isStopped_of_works (o.fits found).works]
  rfl

theorem Orderly.target_eq (o : p.Orderly s) (t : Tier) (x : Series) :
    ∃ w, p.worker? t (s.place t x) = some w ∧ p.target s t x = .ok (s.place t x, w) := by
  obtain ⟨w, found, reached⟩ := o.behind_eq t x
  refine ⟨w, found, ?_⟩
  rw [target, s.findGate_eq o.manned]
  exact reached

/-! ### A worker's step -/

section Work

variable {t : Tier} {i : Nat} {w : Worker} {d : Delivery} {a : Aggregate}

private theorem turn_of_take {rest : List Command} (here : p.worker? t i = some w)
    (free : w.activity = .idle) (head : w.queue = .process d :: rest) :
    Turn s c p (p.takeDeeds t w d) (p.take t i { w with queue := rest } d) := by
  unfold takeDeeds
  cases result : w.stage.process d.sample with
  | ok made =>
    obtain ⟨a, stage⟩ := made
    exact .fold here free head result
  | error f => exact .reject here free head result

private theorem turn_of_close (fits : w.Fits s t i) {receipt : Receipt}
    (here : p.worker? t i = some w) (looks : w.activity = .closing d a receipt) :
    Turn s c p (p.closeDeeds t w d a) (p.close t i w d a receipt) := by
  unfold closeDeeds
  by_cases kept : w.stage.verdict a d.replay = .kept
  · have stays : (w.stage.closeWindow a d.replay).1.isSome = false := by
      rw [← Bool.not_eq_true, Stage.closeWindow_isSome]
      exact fun moves => moves kept
    simp only [kept, stays, Bool.false_and, Bool.false_eq_true, if_false]
    exact .keep here looks kept
  · obtain ⟨g, next⟩ := Stage.next_of_verdict kept
    rw [fits.tier] at next
    have moves := (Stage.closeWindow_isSome ..).2 kept
    simp only [moves, fits.ahead, next, Option.map_some, Option.isSome_some, Bool.and_self, if_true]
    exact .move here looks kept next

private theorem turn_of_forward (o : p.Orderly s) {onward : Delivery} {gate : Gate}
    (here : p.worker? t i = some w) (hands : w.activity = .forwarding d onward gate)
    (move : p.forward s t i w d onward gate = some q) :
    Turn s c p (p.forwardDeeds s w d onward gate) q := by
  obtain ⟨g, -, rfl⟩ := Option.map_eq_some_iff.1 ((o.fits here).onward hands).1
  obtain ⟨taker, found, reached⟩ := o.behind_eq g onward.sample.series
  simp only [forward, reached] at move
  split at move
  · rename_i room
    cases move
    simp only [forwardDeeds, reached, if_pos room]
    exact .hand here hands found room
  · cases move

theorem turn_of_work (o : p.Orderly s) (move : p.work s c t i = some q) :
    Turn s c p (p.workDeeds s c t i) q := by
  unfold work at move
  cases here : p.worker? t i with
  | none => simp [here] at move
  | some w =>
    have fits := o.fits here
    simp only [here, Option.bind_eq_bind, Option.bind_some] at move
    simp only [workDeeds, here]
    obtain ⟨stage, queue, act, ahead⟩ := w
    cases act with
    | stopped => exact absurd rfl fits.works
    | idle =>
      cases queue with
      | nil => cases move
      | cons cmd rest =>
        obtain ⟨d, rfl, -⟩ := fits.queued cmd List.mem_cons_self
        cases move
        exact turn_of_take here rfl rfl
    | storing d a =>
      cases issued : s.dispatch.issue c .store a p.sinks with
      | mk sinks result =>
        simp only [issued] at move
        cases result with
        | ok stored =>
          cases move
          exact .call here rfl issued
        | error fault =>
          cases move
          exact .fault here rfl issued
    | notifying d a stored =>
      cases issued : s.dispatch.issue c .notifier a p.sinks with
      | mk sinks result =>
        simp only [issued] at move
        cases result with
        | ok notified =>
          cases move
          exact .call here rfl issued
        | error fault =>
          cases move
          exact .fault here rfl issued
    | closing d a receipt =>
      cases move
      exact turn_of_close fits here rfl
    | forwarding d onward g => exact turn_of_forward o here rfl move
    | parting d =>
      cases move
      exact .part here rfl

end Work

/-! ### A step of the loop -/

/-- What the loop can do, and what happens then. -/
inductive LoopStep (p : Plant σ) : Action → History → Plant σ → Prop where
  | begin (rests : p.loop.running = false) :
      LoopStep p .begin [] { p with loop :=
        { p.loop with run := p.loop.run + 1, running := true, inputOpen := true, exit := none } }
  | receive (x : Sample) (ready : p.loopIdle = true) (opened : p.loop.inputOpen = true) :
      LoopStep p (.receive x) [.issued (p.ledger.emit x).2] (p.receive x)
  | closeInput (ready : p.loopIdle = true) (opened : p.loop.inputOpen = true) :
      LoopStep p .closeInput [] { p with loop := { p.loop with inputOpen := false } }
  | settle {q : Plant σ} {o : Outcome} {st : Settlement} (ready : p.loopIdle = true)
      (settled : p.settle = some (q, o, st)) : LoopStep p .settle (.settled o st :: st.issues) q
  | wake {i run : Nat} {d : Delivery} (waits : p.loop.waiting[i]? = some (run, d))
      (live : p.loop.running = true ∧ run = p.loop.run) :
      LoopStep p (.wake i) [] { p with loop :=
        { p.loop with waiting := p.loop.waiting.eraseIdx i, ready := p.loop.ready ++ [d] } }
  | drop {i run : Nat} {d : Delivery} (waits : p.loop.waiting[i]? = some (run, d))
      (late : ¬(p.loop.running = true ∧ run = p.loop.run)) :
      LoopStep p (.wake i) (p.tickets.farewells d.ticket) { p with
        loop := { p.loop with waiting := p.loop.waiting.eraseIdx i }
        tickets := p.tickets.release d.ticket }
  | resubmit {d : Delivery} {rest : List Delivery} (ready : p.loopIdle = true)
      (first : p.loop.ready = d :: rest) :
      LoopStep p .resubmit [] { p with loop := { p.loop with ready := rest, submitting := some d } }
  | interrupt (ready : p.loopIdle = true) :
      LoopStep p .interrupt (p.tickets.farewellsAll p.loop.ready) (p.leave .interrupted)
  | finish (ready : p.loopIdle = true) (closed : p.loop.inputOpen = false)
      (settled : p.ledger.pending = 0) :
      LoopStep p .finish (p.tickets.farewellsAll p.loop.ready) (p.leave .drained)

/-- **The loop does nothing else.** -/
theorem loopStep_of_step {a : Action} (loop : a.concernsWorkers = false) (move : p.step s c a = some q) :
    p.LoopStep a (p.deeds s c a) q := by
  cases a with
  | work => cases loop
  | enter => cases loop
  | shutdown => cases loop
  | begin =>
    simp only [step] at move
    split at move <;> cases move
    exact .begin (Bool.not_eq_true _ ▸ ‹¬_›)
  | receive x =>
    simp only [step] at move
    split at move <;> cases move
    obtain ⟨ready, opened⟩ := Bool.and_eq_true_iff.1 ‹_›
    exact .receive x ready opened
  | closeInput =>
    simp only [step] at move
    split at move <;> cases move
    obtain ⟨ready, opened⟩ := Bool.and_eq_true_iff.1 ‹_›
    exact .closeInput ready opened
  | settle =>
    simp only [step] at move
    split at move
    · obtain ⟨⟨q, o, st⟩, settled, rfl⟩ := Option.map_eq_some_iff.1 move
      simp only [deeds, settled]
      exact .settle ‹_› settled
    · cases move
  | wake i =>
    simp only [step, wake] at move
    cases waits : p.loop.waiting[i]? with
    | none => simp [waits] at move
    | some e =>
      obtain ⟨run, d⟩ := e
      simp only [waits, Option.bind_eq_bind, Option.bind_some, Option.pure_def] at move
      by_cases live : p.loop.running = true ∧ run = p.loop.run
      · rw [if_pos live] at move
        cases move
        simp only [deeds, waits, if_pos live]
        exact .wake waits live
      · rw [if_neg live] at move
        cases move
        simp only [deeds, waits, if_neg live]
        exact .drop waits live
  | resubmit =>
    simp only [step] at move
    split at move
    · split at move <;> cases move
      exact .resubmit ‹_› ‹_›
    · cases move
  | interrupt =>
    simp only [step] at move
    split at move <;> cases move
    exact .interrupt ‹_›
  | finish =>
    simp only [step] at move
    split at move <;> cases move
    rename_i able
    simp only [Bool.and_eq_true, Bool.not_eq_true', beq_iff_eq] at able
    exact .finish able.1.1 able.1.2 able.2

theorem turn_of_enter (o : p.Orderly s) (move : p.enter s = some q) :
    Turn s c p (p.deeds s c .enter) q := by
  unfold enter at move
  cases waits : p.loop.submitting with
  | none => simp [waits] at move
  | some d =>
    obtain ⟨taker, found, reached⟩ := o.target_eq .raw d.sample.series
    simp only [waits, Option.bind_eq_bind, Option.bind_some, reached, Option.pure_def] at move
    split at move
    · rename_i room
      cases move
      simp only [deeds, waits, reached]
      exact .enter waits found room
    · cases move

/-! ### Any step -/

/-- **The turns of an undisturbed run.** `fresh` and `clear` say that nobody waits for a run that is
over, and that nothing is left over once all units are settled. -/
theorem turn_of_step (o : p.Orderly s)
    (fresh : ∀ e ∈ p.loop.waiting, p.loop.running = true ∧ e.1 = p.loop.run)
    (clear : p.ledger.pending = 0 → p.loop.ready = []) {a : Action} (calm : a.disturbs = false)
    (move : p.step s c a = some q) : Turn s c p (p.deeds s c a) q := by
  cases workers : a.concernsWorkers with
  | true =>
    cases a with
    | work t i => exact turn_of_work o move
    | enter => exact turn_of_enter o move
    | shutdown => cases calm
    | _ => cases workers
  | false =>
    have step := loopStep_of_step workers move
    generalize p.deeds s c a = ds at step
    cases step with
    | begin rests => exact .begin rests
    | receive x ready => exact .receive x ready
    | closeInput ready => exact .closeInput ready
    | settle ready settled => exact .settle ready settled
    | wake waits => exact .wake waits
    | drop waits late => exact absurd (fresh _ (List.mem_of_getElem? waits)) late
    | resubmit ready first => exact .resubmit ready first
    | interrupt => cases calm
    | finish ready closed settled =>
      -- With nothing left over, nobody bids farewell.
      have none := clear settled
      simp only [none, leave, Tickets.farewellsAll, Tickets.releaseAll_nil]
      have turn : Turn s c p [] _ := .finish ready settled none
      simpa [none] using turn

end Plant

end TierCascade
