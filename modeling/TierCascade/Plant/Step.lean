import TierCascade.Plant.State
/-!
# The steps of the plant

`Plant.step` is the whole dynamics: what one worker, the loop or the shutdown can do next, or `none`
if it cannot do anything now. Workers take the commands of their queues in order. A worker whose
next queue is full waits, and so does the loop.

A sample holds its ticket at every stage: the queue it stands in, the worker that handles it, and
what moves on from it. Wherever a holder is done, and wherever a queue is thrown away, the ticket is
released.
-/

namespace TierCascade

/-- What happens next. -/
inductive Action where
  | begin
  | receive (x : Sample)
  | closeInput
  | settle
  | wake (i : Nat)
  | resubmit
  | enter
  | interrupt
  | finish
  | work (t : Tier) (i : Nat)
  | shutdown

namespace Settings

def dispatch (s : Settings) : Dispatch := ⟨s.stored.get, s.calls⟩

end Settings

def Tickets.releaseAll (ts : Tickets) (ds : List Delivery) : Tickets :=
  ds.foldl (fun ts d => ts.release d.ticket) ts

def Command.deliveries (cs : List Command) : List Delivery :=
  cs.filterMap fun
    | .process d => some d
    | .halt => none

namespace Plant

variable {σ : Type}

/-! ### Workers -/

/-- A worker is done with a sample: it is counted, and its ticket is released. -/
def complete (p : Plant σ) (t : Tier) (i : Nat) (w : Worker) (d : Delivery) : Plant σ :=
  { p.setWorker t i { w with activity := .idle } with
    meter := p.meter.observe t
    tickets := p.tickets.release d.ticket }

/-- A worker stops and its queue is thrown away. -/
def stop (p : Plant σ) (t : Tier) (i : Nat) (w : Worker) : Plant σ :=
  { p.setWorker t i { w with activity := .stopped, queue := [] } with
    tickets := p.tickets.releaseAll (Command.deliveries w.queue) }

def take (p : Plant σ) (t : Tier) (i : Nat) (w : Worker) (d : Delivery) : Plant σ :=
  match w.stage.process d.sample with
  | .error failure =>
    let p := p.setWorker t i w
    let p :=
      if failure.failsUnit then { p with tickets := p.tickets.fail d.ticket t failure.message }
      else (p.count .invalid).report (.rejected t d.sample.series.canonical failure.message)
    { p with tickets := p.tickets.release d.ticket }
  | .ok (a, stage) =>
    let p := p.setWorker t i { w with stage, activity := .storing d a }
    let p := if w.stage.opens d.sample.series then p.count (.states t) else p
    if a.isAnomaly then p.count (.anomalies t a.severity) else p

/-- A collaborator failed: the delivery has failed at this tier. -/
def fail (p : Plant σ) (t : Tier) (i : Nat) (w : Worker) (d : Delivery) (a : Aggregate)
    (fault : SinkFault) : Plant σ :=
  let p := (p.count (.sinkErrors fault.label)).report
    (.sinkFailed t a.series.canonical d.ticket.unitId fault.message)
  let p := { p with
    desk := p.desk.fault p.now fault
    tickets := p.tickets.fail d.ticket t fault.message }
  p.complete t i w d

/-- The collaborators that took an aggregate work. -/
def reportSuccess (p : Plant σ) (receipt : Receipt) : Plant σ :=
  let desk := if receipt.stored then p.desk.success p.now Sink.store.part.name else p.desk
  { p with desk := if receipt.notified then desk.success p.now Sink.notifier.part.name else desk }

/-- A worker looks at the window: what moves on takes a share of the ticket with it. -/
def close (p : Plant σ) (t : Tier) (i : Nat) (w : Worker) (d : Delivery) (a : Aggregate)
    (receipt : Receipt) : Plant σ :=
  let p := p.reportSuccess receipt
  let (forward, stage) := w.stage.closeWindow a d.replay
  let w := { w with stage }
  match forward, w.ahead with
  | some x, some gate =>
    let p := p.report (.windowClosed t a.series.canonical a.timestamp)
    { p.setWorker t i { w with activity := .forwarding d ⟨d.ticket, x, d.replay⟩ gate } with
      tickets := p.tickets.share d.ticket }
  | _, _ => p.complete t i w d

/-- A worker hands a sample on once there is room for it, and keeps its own ticket for now. A queue
that is closed fails the delivery; a sample without a queue breaks the worker. -/
def forward (s : Settings) (p : Plant σ) (t : Tier) (i : Nat) (w : Worker) (d onward : Delivery)
    (gate : Gate) : Option (Plant σ) :=
  match p.behind gate onward.sample.series with
  | .ok (j, taker) =>
    if taker.queue.length < s.capacity then
      let p := p.setWorker gate.tier j (taker.push (.process onward))
      some (p.setWorker t i { w with activity := .parting d })
    else none
  | .error failure =>
    let tickets := (p.tickets.fail onward.ticket gate.tier failure.message).release onward.ticket
    match failure with
    | .routing .. =>
      let p := { p with
        tickets := tickets.release d.ticket
        desk := p.desk.workerStopped p.now t i failure.message }
      some (p.stop t i w)
    | _ => some ({ p with tickets }.complete t i w d)

def work (s : Settings) (c : Collaborator σ) (p : Plant σ) (t : Tier) (i : Nat) : Option (Plant σ) := do
  let w ← p.worker? t i
  match w.activity with
  | .stopped => none
  | .idle =>
    match w.queue with
    | [] => none
    | .halt :: rest => some (p.stop t i { w with queue := rest })
    | .process d :: rest => some (p.take t i { w with queue := rest } d)
  | .storing d a =>
    let (sinks, result) := s.dispatch.issue c .store a p.sinks
    let p := { p with sinks }
    match result with
    | .ok stored => some (p.setWorker t i { w with activity := .notifying d a stored })
    | .error fault => some (p.fail t i w d a fault)
  | .notifying d a stored =>
    let (sinks, result) := s.dispatch.issue c .notifier a p.sinks
    let p := { p with sinks }
    match result with
    | .ok notified => some (p.setWorker t i { w with activity := .closing d a ⟨stored, notified⟩ })
    | .error fault => some (p.fail t i w d a fault)
  | .closing d a receipt => some (p.close t i w d a receipt)
  | .forwarding d onward gate => p.forward s t i w d onward gate
  | .parting d => some ((p.count (.forwarded t)).complete t i w d)

/-! ### The loop -/

def loopIdle (p : Plant σ) : Bool := p.loop.running && p.loop.submitting.isNone

def receive (p : Plant σ) (x : Sample) : Plant σ :=
  let (ledger, d) := p.ledger.emit x
  { p with
    ledger
    tickets := p.tickets.issue d.ticket
    meter := p.meter.gauge ledger
    loop := { p.loop with submitting := some d } }

/-- Settles the oldest outcome. A unit that is to be delivered again waits first. -/
def settle (p : Plant σ) : Option (Plant σ × Outcome × Settlement) := do
  let (outcome, tickets) ← p.tickets.read?
  let (ledger, settlement) := p.ledger.settle outcome
  let waiting := match settlement with
    | .redeliver d _ => p.loop.waiting ++ [(p.loop.run, d)]
    | _ => p.loop.waiting
  let p := { p with
    ledger
    tickets := settlement.reissue tickets
    meter := (p.meter.countAll settlement.counters).gauge ledger
    journal := settlement.events.reverse ++ p.journal
    loop := { p.loop with waiting } }
  return (p, outcome, settlement)

/-- A unit has waited long enough. If the run it waited for is over, nobody delivers it any more. -/
def wake (p : Plant σ) (i : Nat) : Option (Plant σ) := do
  let (run, d) ← p.loop.waiting[i]?
  let loop := { p.loop with waiting := p.loop.waiting.eraseIdx i }
  if p.loop.running ∧ run = p.loop.run then
    return { p with loop := { loop with ready := loop.ready ++ [d] } }
  else return { p with loop, tickets := p.tickets.release d.ticket }

/-- Hands the delivery that is being submitted to its worker, once there is room. A queue that is
closed fails the delivery. -/
def enter (s : Settings) (p : Plant σ) : Option (Plant σ) := do
  let d ← p.loop.submitting
  let done := { p with loop := { p.loop with submitting := none } }
  match p.target s .raw d.sample.series with
  | .ok (i, w) =>
    if w.queue.length < s.capacity then return done.setWorker .raw i (w.push (.process d)) else none
  | .error failure =>
    return { done with tickets := (p.tickets.fail d.ticket .raw failure.message).release d.ticket }

/-- Ends a run. What stands ready to be delivered again is thrown away. -/
def leave (p : Plant σ) (exit : Exit) : Plant σ :=
  { p with
    tickets := p.tickets.releaseAll p.loop.ready
    loop := { p.loop with running := false, inputOpen := false, ready := [], exit := some exit } }

/-! ### Shutting down -/

/-- One step of shutting down: the next worker of the tier is told to stop, or, once all of them
were told and have stopped, the next tier is turned to. -/
def shutdown (s : Settings) (p : Plant σ) : Option (Plant σ) :=
  match p.closing with
  | .closed => none
  | .notYet => some { p with closing := .halting .raw 0 }
  | .halting t sent =>
    match p.worker? t sent with
    | some w =>
      let p := { p with closing := .halting t (sent + 1) }
      if w.isStopped then some p
      else if w.queue.length < s.capacity then some (p.setWorker t sent (w.push .halt))
      else none
    | none =>
      if (p.pools.get t).all Worker.isStopped then
        some { p with closing := match t.next with | some next => .halting next 0 | none => .closed }
      else none

/-- What happens next, if it can. -/
def step (s : Settings) (c : Collaborator σ) (p : Plant σ) : Action → Option (Plant σ)
  | .begin =>
    if p.loop.running then none
    else some { p with loop :=
      { p.loop with run := p.loop.run + 1, running := true, inputOpen := true, exit := none } }
  | .receive x => if p.loopIdle && p.loop.inputOpen then some (p.receive x) else none
  | .closeInput =>
    if p.loopIdle && p.loop.inputOpen then some { p with loop := { p.loop with inputOpen := false } }
    else none
  | .settle => if p.loopIdle then p.settle.map (·.1) else none
  | .wake i => p.wake i
  | .resubmit =>
    match p.loop.ready with
    | d :: rest =>
      if p.loopIdle then some { p with loop := { p.loop with ready := rest, submitting := some d } }
      else none
    | [] => none
  | .enter => p.enter s
  | .interrupt => if p.loopIdle then some (p.leave .interrupted) else none
  | .finish =>
    if p.loopIdle && !p.loop.inputOpen && p.ledger.pending == 0 then some (p.leave .drained) else none
  | .work t i => p.work s c t i
  | .shutdown => if p.loop.running then none else p.shutdown s

end Plant

end TierCascade
