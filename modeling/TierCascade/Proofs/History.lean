import TierCascade.Proofs.Stages
import TierCascade.Proofs.Tickets
import TierCascade.Proofs.Wiring
/-!
# What happens in a run

A plant does not remember what became of a sample, so runs are watched from outside: every step
leaves deeds (`Plant.deeds`), and a run goes with the list of all deeds so far, oldest first. A deed
says what happened, to which delivery, and, where a worker did it, how the state of the series at
that worker stood before and after.

`Run` is any run of a plant that was started properly and is neither interrupted nor shut down:
whatever comes in, whatever the collaborators do, and in whatever order workers and loop take turns.
-/

namespace TierCascade

/-- What a worker does with a sample it took: it turns it away or takes it in, calls a collaborator
(with the number of attempts made and how the call ended), or looks at the window. -/
inductive Act where
  | rejected (f : Failure)
  | folded (a : Aggregate)
  | called (sink : Sink) (a : Aggregate) (tries : Nat) (result : Except SinkFault Unit)
  | looked (a : Aggregate) (v : Verdict)

/-- Something that happened. -/
inductive Deed where
  /-- The ledger hands out a delivery. -/
  | issued (d : Delivery)
  /-- A delivery enters a queue of a tier. -/
  | queued (d : Delivery) (t : Tier)
  /-- A worker of a tier does something with a delivery; the state of its series at that worker. -/
  | worked (d : Delivery) (t : Tier) (act : Act) (before after : Option SeriesState)
  /-- The last holder of a ticket has let go, and the outcome is reported. -/
  | sent (k : Ticket) (o : Outcome)
  /-- The ledger settles an outcome. -/
  | settled (o : Outcome) (st : Settlement)

namespace Deed

def ticket? : Deed → Option Ticket
  | issued d | queued d _ | worked d .. => some d.ticket
  | sent k _ => some k
  | settled .. => none

def tier? : Deed → Option Tier
  | worked _ t .. => some t
  | _ => none

end Deed

/-- What happened so far, oldest first. -/
abbrev History := List Deed

namespace History

/-- What happened to one delivery. -/
def of (h : History) (k : Ticket) : History := h.filter fun e => e.ticket? = some k

/-- What the workers of one tier did. -/
def within (h : History) (t : Tier) : History := h.filter fun e => e.tier? = some t

def tiers (h : History) : List Tier :=
  h.filterMap fun
    | .worked _ t (.folded _) _ _ => some t
    | _ => none

/-- The tiers whose queues were entered. -/
def queues (h : History) : List Tier :=
  h.filterMap fun
    | .queued _ t => some t
    | _ => none

/-- What taking samples in gave. -/
def aggregates (h : History) : List Aggregate :=
  h.filterMap fun
    | .worked _ _ (.folded a) _ _ => some a
    | _ => none

def calls (h : History) : List (Sink × Except SinkFault Unit) :=
  h.filterMap fun
    | .worked _ _ (.called sink _ _ result) _ _ => some (sink, result)
    | _ => none

/-- The aggregates that a collaborator was handed, once for every attempt. -/
def attempts (h : History) (sink : Sink) : List Aggregate :=
  h.flatMap fun
    | .worked _ _ (.called called a tries _) _ _ => if called = sink then List.replicate tries a else []
    | _ => []

def looks (h : History) : List (Aggregate × Verdict) :=
  h.filterMap fun
    | .worked _ _ (.looked a v) _ _ => some (a, v)
    | _ => none

/-- The timestamps of the samples that moved on because their window had passed. -/
def emissions (h : History) : List Int :=
  h.filterMap fun
    | .worked _ _ (.looked a .closed) _ _ => some a.timestamp
    | _ => none

/-- The outcomes that were reported, each with the ticket it ended. -/
def sent (h : History) : List (Ticket × Outcome) :=
  h.filterMap fun
    | .sent k o => some (k, o)
    | _ => none

def outcomes (h : History) : List Outcome := h.sent.map (·.2)

def deliveries (h : History) : List Delivery :=
  h.filterMap fun
    | .issued d => some d
    | _ => none

def settlements (h : History) : List Outcome :=
  h.filterMap fun
    | .settled o _ => some o
    | _ => none

/-- The samples that came in, each with its first delivery. -/
def inputs (h : History) : List Sample :=
  h.filterMap fun
    | .issued d => if d.isRedelivery then none else some d.sample
    | _ => none

section

variable (h g : History)

@[simp] theorem of_append (k : Ticket) : (h ++ g).of k = h.of k ++ g.of k := List.filter_append ..

@[simp] theorem within_append (t : Tier) : (h ++ g).within t = h.within t ++ g.within t :=
  List.filter_append ..

@[simp] theorem tiers_append : (h ++ g).tiers = h.tiers ++ g.tiers := List.filterMap_append

@[simp] theorem queues_append : (h ++ g).queues = h.queues ++ g.queues := List.filterMap_append

@[simp] theorem aggregates_append : (h ++ g).aggregates = h.aggregates ++ g.aggregates :=
  List.filterMap_append

@[simp] theorem calls_append : (h ++ g).calls = h.calls ++ g.calls := List.filterMap_append

@[simp] theorem attempts_append (sink : Sink) :
    (h ++ g).attempts sink = h.attempts sink ++ g.attempts sink := List.flatMap_append

@[simp] theorem looks_append : (h ++ g).looks = h.looks ++ g.looks := List.filterMap_append

@[simp] theorem emissions_append : (h ++ g).emissions = h.emissions ++ g.emissions :=
  List.filterMap_append

@[simp] theorem sent_append : (h ++ g).sent = h.sent ++ g.sent := List.filterMap_append

@[simp] theorem outcomes_append : (h ++ g).outcomes = h.outcomes ++ g.outcomes := by
  rw [outcomes, sent_append, List.map_append]
  rfl

@[simp] theorem deliveries_append : (h ++ g).deliveries = h.deliveries ++ g.deliveries :=
  List.filterMap_append

@[simp] theorem settlements_append : (h ++ g).settlements = h.settlements ++ g.settlements :=
  List.filterMap_append

@[simp] theorem inputs_append : (h ++ g).inputs = h.inputs ++ g.inputs := List.filterMap_append

end

section

variable {h : History}

theorem mem_deliveries {d : Delivery} : d ∈ h.deliveries ↔ .issued d ∈ h := by
  refine ⟨fun mem => ?_, fun mem => List.mem_filterMap.2 ⟨_, mem, rfl⟩⟩
  obtain ⟨e, there, shape⟩ := List.mem_filterMap.1 mem
  cases e <;> cases shape
  exact there

theorem mem_sent {k : Ticket} {o : Outcome} : (k, o) ∈ h.sent ↔ .sent k o ∈ h := by
  refine ⟨fun mem => ?_, fun mem => List.mem_filterMap.2 ⟨_, mem, rfl⟩⟩
  obtain ⟨e, there, shape⟩ := List.mem_filterMap.1 mem
  cases e <;> cases shape
  exact there

theorem mem_looks {a : Aggregate} {v : Verdict} :
    (a, v) ∈ h.looks ↔ ∃ d t before after, .worked d t (.looked a v) before after ∈ h := by
  constructor
  · intro mem
    obtain ⟨e, there, shape⟩ := List.mem_filterMap.1 mem
    cases e with
    | worked d t act before after =>
      cases act <;> cases shape
      exact ⟨d, t, before, after, there⟩
    | _ => cases shape
  · rintro ⟨d, t, before, after, there⟩
    exact List.mem_filterMap.2 ⟨_, there, rfl⟩

theorem mem_queues {t : Tier} : t ∈ h.queues ↔ ∃ d, .queued d t ∈ h := by
  constructor
  · intro mem
    obtain ⟨e, there, shape⟩ := List.mem_filterMap.1 mem
    cases e <;> cases shape
    exact ⟨_, there⟩
  · rintro ⟨d, there⟩
    exact List.mem_filterMap.2 ⟨_, there, rfl⟩

theorem mem_of {k : Ticket} {e : Deed} : e ∈ h.of k ↔ e ∈ h ∧ e.ticket? = some k := by
  rw [of, List.mem_filter, decide_eq_true_iff]

theorem mem_deliveries_of {k : Ticket} {d : Delivery} :
    d ∈ (h.of k).deliveries ↔ d ∈ h.deliveries ∧ d.ticket = k := by
  rw [mem_deliveries, mem_of, mem_deliveries]
  exact and_congr_right fun _ => Option.some_inj

theorem mem_within {t : Tier} {e : Deed} : e ∈ h.within t ↔ e ∈ h ∧ e.tier? = some t := by
  rw [within, List.mem_filter, decide_eq_true_iff]

theorem append_eq_cases {ds h₁ h₂ : History} {e : Deed} (split : h ++ ds = h₁ ++ e :: h₂) :
    (∃ rest, h = h₁ ++ e :: rest) ∨ ∃ pre, h₁ = h ++ pre ∧ e ∈ ds := by
  rcases List.append_eq_append_iff.1 split with ⟨pre, front, rear⟩ | ⟨mid, front, rear⟩
  · exact .inr ⟨pre, front, rear ▸ List.mem_append_right _ List.mem_cons_self⟩
  · cases mid with
    | nil =>
      rw [List.nil_append] at rear
      exact .inr ⟨[], by simpa using front.symm, rear ▸ List.mem_cons_self⟩
    | cons e' mid =>
      obtain rfl : e = e' := (List.cons.inj rear).1
      exact .inl ⟨mid, front⟩

end

end History

/-! ### The deeds of a step -/

def CallBudget.tries {σ : Type} (b : CallBudget) (label : String) (callee : Callee σ) : Nat → σ → Nat
  | 0, _ => 1
  | left + 1, s =>
    match b.attempt label callee s with
    | (_, .ok ()) => 1
    | (s, .error _) => tries b label callee left s + 1

namespace Tickets

def farewells (ts : Tickets) (k : Ticket) : History := (ts.farewell k).toList.map (.sent k)

def farewellsAll (ts : Tickets) : List Delivery → History
  | [] => []
  | d :: ds => ts.farewells d.ticket ++ farewellsAll (ts.release d.ticket) ds

end Tickets

def Settlement.waits : Settlement → List Delivery
  | redeliver d _ => [d]
  | acked | deadLettered .. | unknown => []

def Settlement.issues : Settlement → History
  | redeliver d _ => [.issued d]
  | _ => []

/-- A worker's view of the state of a series. -/
def Worker.sees (w : Worker) (x : Series) : Option SeriesState := w.stage.inspect x

namespace Plant

variable {σ : Type}

def takeDeeds (p : Plant σ) (t : Tier) (w : Worker) (d : Delivery) : History :=
  match w.stage.process d.sample with
  | .ok (a, stage) =>
    [.worked d t (.folded a) (w.sees d.sample.series) (stage.inspect d.sample.series)]
  | .error failure =>
    .worked d t (.rejected failure) (w.sees d.sample.series) (w.sees d.sample.series)
      :: p.tickets.farewells d.ticket

/-- A worker calls a collaborator if it is due. A fault fails the delivery. -/
def callDeeds (s : Settings) (c : Collaborator σ) (p : Plant σ) (t : Tier) (w : Worker) (d : Delivery)
    (a : Aggregate) (sink : Sink) : History :=
  if s.dispatch.due a sink then
    let result := (s.calls.call sink.label (c sink a) p.sinks).2
    let tries := s.calls.tries sink.label (c sink a) s.calls.retries p.sinks
    .worked d t (.called sink a tries result) (w.sees d.sample.series) (w.sees d.sample.series)
      :: match result with
        | .ok () => []
        | .error fault => (p.tickets.fail d.ticket t fault.message).farewells d.ticket
  else []

def closeDeeds (p : Plant σ) (t : Tier) (w : Worker) (d : Delivery) (a : Aggregate) : History :=
  let (moved, stage) := w.stage.closeWindow a d.replay
  .worked d t (.looked a (w.stage.verdict a d.replay)) (w.sees d.sample.series)
      (stage.inspect d.sample.series)
    :: if moved.isSome && w.ahead.isSome then [] else p.tickets.farewells d.ticket

def forwardDeeds (s : Settings) (p : Plant σ) (w : Worker) (d onward : Delivery) (gate : Gate) :
    History :=
  match p.behind gate onward.sample.series with
  | .ok (_, taker) => if taker.queue.length < s.capacity then [.queued onward gate.tier] else []
  | .error failure =>
    let tickets := p.tickets.fail onward.ticket gate.tier failure.message
    match failure with
    | .routing .. => tickets.farewellsAll (onward :: d :: Command.deliveries w.queue)
    | _ => tickets.farewellsAll [onward, d]

def workDeeds (s : Settings) (c : Collaborator σ) (p : Plant σ) (t : Tier) (i : Nat) : History :=
  match p.worker? t i with
  | none => []
  | some w =>
    match w.activity with
    | .stopped => []
    | .idle =>
      match w.queue with
      | [] => []
      | .halt :: rest => p.tickets.farewellsAll (Command.deliveries rest)
      | .process d :: _ => p.takeDeeds t w d
    | .storing d a => p.callDeeds s c t w d a .store
    | .notifying d a _ => p.callDeeds s c t w d a .notifier
    | .closing d a _ => p.closeDeeds t w d a
    | .forwarding d onward gate => p.forwardDeeds s w d onward gate
    | .parting d => p.tickets.farewells d.ticket

/-- The deeds of a step. -/
def deeds (s : Settings) (c : Collaborator σ) (p : Plant σ) : Action → History
  | .receive x => [.issued (p.ledger.emit x).2]
  | .settle =>
    match p.settle with
    | some (_, outcome, settlement) => .settled outcome settlement :: settlement.issues
    | none => []
  | .wake i =>
    match p.loop.waiting[i]? with
    | some (run, d) =>
      if p.loop.running ∧ run = p.loop.run then [] else p.tickets.farewells d.ticket
    | none => []
  | .enter =>
    match p.loop.submitting with
    | none => []
    | some d =>
      match p.target s .raw d.sample.series with
      | .ok _ => [.queued d .raw]
      | .error failure => (p.tickets.fail d.ticket .raw failure.message).farewells d.ticket
  | .interrupt | .finish => p.tickets.farewellsAll p.loop.ready
  | .work t i => p.workDeeds s c t i
  | .begin | .closeInput | .resubmit | .shutdown => []

end Plant

/-! ### Runs -/

/-- Whether an action ends a run before it is done. -/
def Action.disturbs : Action → Bool
  | .interrupt | .shutdown => true
  | _ => false

/-- The undisturbed runs of plants that were started properly, each with its history. -/
inductive Run {σ : Type} (s : Settings) (c : Collaborator σ) : History → Plant σ → Prop where
  | launch {sinks : σ} {board : Board} {now : Int} {p : Plant σ}
      (start : Plant.launch s sinks board now = .ok p) : Run s c [] p
  | step {h : History} {p q : Plant σ} {a : Action} (run : Run s c h p) (calm : a.disturbs = false)
      (move : p.step s c a = some q) : Run s c (h ++ p.deeds s c a) q

/-- Takes some actions in order, as long as each of them can be taken, and watches what happens. -/
def Plant.follow {σ : Type} (s : Settings) (c : Collaborator σ) :
    List Action → History × Plant σ → Option (History × Plant σ)
  | [], reached => some reached
  | a :: as, (h, p) =>
    match p.step s c a with
    | some q => follow s c as (h ++ p.deeds s c a, q)
    | none => none

/-- Following actions that disturb nothing is a run. -/
theorem Run.follow {σ : Type} {s : Settings} {c : Collaborator σ} {as : List Action}
    (calm : ∀ a ∈ as, a.disturbs = false) {h h' : History} {p q : Plant σ} (run : Run s c h p)
    (moves : Plant.follow s c as (h, p) = some (h', q)) : Run s c h' q := by
  induction as generalizing h p with
  | nil =>
    cases moves
    exact run
  | cons a as ih =>
    rw [Plant.follow] at moves
    cases move : p.step s c a with
    | none =>
      rw [move] at moves
      cases moves
    | some mid =>
      rw [move] at moves
      have first : Run s c _ mid := run.step (calm a List.mem_cons_self) move
      exact ih (fun b mem => calm b (List.mem_cons_of_mem a mem)) first moves

end TierCascade
