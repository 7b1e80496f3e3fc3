import TierCascade.Proofs.Turn
/-!
# A plant stays in order

What the functions of a worker's step make of a plant, up to what is merely reported and counted
(`take_eq_of_ok` and its kin), and that every turn of an orderly plant leaves it orderly. Every other
proof about turns uses these equations instead of the functions.
-/

namespace TierCascade

namespace Plant

variable {σ : Type} {s : Settings} (p : Plant σ) (t : Tier) (i : Nat) (w : Worker) (d : Delivery)

/-! ### What a worker's step makes of a plant -/

theorem take_eq_of_ok {a : Aggregate} {stage : Stage}
    (h : w.stage.process d.sample = .ok (a, stage)) :
    ∃ m, p.take t i w d
      = { p.setWorker t i { w with stage, activity := .storing d a } with meter := m } := by
  simp only [take, h]
  by_cases opens : w.stage.opens d.sample.series = true <;>
    by_cases anomaly : a.isAnomaly = true <;>
    simp only [opens, anomaly, if_true, Bool.false_eq_true, if_false] <;>
    exact ⟨_, rfl⟩

theorem take_eq_of_error {f : Failure} (h : w.stage.process d.sample = .error f) :
    ∃ m j, p.take t i w d
      = { p.setWorker t i w with
          meter := m, journal := j, tickets := p.tickets.release d.ticket } := by
  obtain ⟨-, rfl⟩ := Stage.process_eq_error h
  simp only [take, h, Failure.failsUnit, Bool.false_eq_true, if_false]
  exact ⟨_, _, rfl⟩

theorem fail_eq (a : Aggregate) (fault : SinkFault) :
    ∃ m j desk, p.fail t i w d a fault
      = { p.setWorker t i { w with activity := .idle } with
          meter := m, journal := j, desk := desk
          tickets := (p.tickets.fail d.ticket t fault.message).release d.ticket } :=
  ⟨_, _, _, rfl⟩

theorem close_eq_of_kept {a : Aggregate} (receipt : Receipt)
    (h : w.stage.verdict a d.replay = .kept) :
    ∃ m desk, p.close t i w d a receipt
      = { p.setWorker t i
            { w with stage := (w.stage.closeWindow a d.replay).2, activity := .idle } with
          meter := m, desk := desk, tickets := p.tickets.release d.ticket } := by
  have stays : (w.stage.closeWindow a d.replay).1 = none := by
    rw [← Option.not_isSome_iff_eq_none, Stage.closeWindow_isSome]
    exact fun moves => moves h
  simp only [close, stays]
  exact ⟨_, _, rfl⟩

theorem close_eq_of_moved {a : Aggregate} (receipt : Receipt) {g : Tier}
    (moves : w.stage.verdict a d.replay ≠ .kept) (ahead : w.ahead = some (s.gateOf g)) :
    ∃ j desk, p.close t i w d a receipt
      = { p.setWorker t i
            { w with
              stage := (w.stage.closeWindow a d.replay).2
              activity := .forwarding d ⟨d.ticket, a.toSample, d.replay⟩ (s.gateOf g) } with
          journal := j, desk := desk, tickets := p.tickets.share d.ticket } := by
  obtain ⟨x, moved⟩ := Option.isSome_iff_exists.1 ((Stage.closeWindow_isSome ..).2 moves)
  obtain rfl := Stage.eq_toSample_of_closeWindow moved
  simp only [close, moved, ahead]
  exact ⟨_, _, rfl⟩

/-- What workers do is no business of the loop, nor of the ledger, and does not shut the plant down. -/
structure WorkFrame (p q : Plant σ) : Prop where
  loop : q.loop = p.loop
  ledger : q.ledger = p.ledger
  closing : q.closing = p.closing

theorem take_frame : p.WorkFrame (p.take t i w d) := by
  cases result : w.stage.process d.sample with
  | ok made =>
    obtain ⟨a, stage⟩ := made
    obtain ⟨m, taken⟩ := p.take_eq_of_ok t i w d result
    rw [taken]
    exact ⟨rfl, rfl, rfl⟩
  | error f =>
    obtain ⟨m, j, taken⟩ := p.take_eq_of_error t i w d result
    rw [taken]
    exact ⟨rfl, rfl, rfl⟩

theorem close_frame (a : Aggregate) (receipt : Receipt) : p.WorkFrame (p.close t i w d a receipt) := by
  unfold close
  simp only
  split <;> exact ⟨rfl, rfl, rfl⟩

theorem close_sinks (a : Aggregate) (receipt : Receipt) :
    (p.close t i w d a receipt).sinks = p.sinks := by
  unfold close
  simp only
  split <;> rfl

end Plant

/-! ### Workers -/

namespace Worker.Fits

variable {s : Settings} {t : Tier} {i : Nat} {w : Worker} {d : Delivery} {a : Aggregate}

theorem push (f : w.Fits s t i) (h : s.place t d.sample.series = i) :
    (w.push (.process d)).Fits s t i := by
  refine ⟨f.tier, f.tuning, f.works, ?_, f.taken, f.serving, f.onward, f.ahead⟩
  intro cmd mem
  rcases List.mem_append.1 mem with old | new
  · exact f.queued cmd old
  · exact ⟨d, List.mem_singleton.1 new, h⟩

theorem head {rest : List Command} (f : w.Fits s t i) (h : w.queue = .process d :: rest) :
    s.place t d.sample.series = i := by
  obtain ⟨d', same, place⟩ := f.queued (.process d) (h ▸ List.mem_cons_self)
  cases same
  exact place

theorem tail {cmd : Command} {rest : List Command} (f : w.Fits s t i) (h : w.queue = cmd :: rest) :
    { w with queue := rest }.Fits s t i := by
  refine ⟨f.tier, f.tuning, f.works, ?_, f.taken, f.serving, f.onward, f.ahead⟩
  intro other mem
  exact f.queued other (h ▸ List.mem_cons_of_mem _ mem)

theorem rest (f : w.Fits s t i) : { w with activity := .idle }.Fits s t i :=
  ⟨f.tier, f.tuning, nofun, f.queued, nofun, nofun, nofun, f.ahead⟩

theorem fold {stage : Stage} (f : w.Fits s t i) (place : s.place t d.sample.series = i)
    (h : w.stage.process d.sample = .ok (a, stage)) :
    { w with stage, activity := .storing d a }.Fits s t i := by
  obtain ⟨-, rfl, rfl⟩ := Stage.process_eq_ok h
  refine ⟨f.tier, f.tuning, nofun, f.queued, ?_, ?_, nofun, f.ahead⟩
  · intro other taken
    cases taken
    exact place
  · intro other made serving
    cases serving
    exact ⟨SeriesState.absorb_of .., f.tier, _, SeriesTable.get?_put_self ..⟩

theorem call {call : Sink × Delivery × Aggregate} (f : w.Fits s t i)
    (h : w.activity.calls? = some call) (done : Bool) :
    { w with activity := w.activity.afterCall done }.Fits s t i := by
  obtain ⟨stage, queue, act, ahead⟩ := w
  cases act with
  | storing d a => exact ⟨f.tier, f.tuning, nofun, f.queued, f.taken, f.serving, nofun, f.ahead⟩
  | notifying d a stored => exact ⟨f.tier, f.tuning, nofun, f.queued, f.taken, f.serving, nofun, f.ahead⟩
  | _ => cases h

theorem close (f : w.Fits s t i) (replay : Option Tier) :
    { w with stage := (w.stage.closeWindow a replay).2, activity := .idle }.Fits s t i :=
  ⟨(Stage.closeWindow_tier ..).trans f.tier, (Stage.closeWindow_tuning ..).trans f.tuning, nofun,
    f.queued, nofun, nofun, nofun, f.ahead⟩

theorem move {receipt : Receipt} {g : Tier} (f : w.Fits s t i)
    (h : w.activity = .closing d a receipt) (next : t.next = some g) :
    { w with
      stage := (w.stage.closeWindow a d.replay).2
      activity := .forwarding d ⟨d.ticket, a.toSample, d.replay⟩ (s.gateOf g) }.Fits s t i := by
  have made := (f.serving (d := d) (a := a) (by rw [h]; rfl)).1
  have place := f.taken (d := d) (by rw [h]; rfl)
  refine ⟨(Stage.closeWindow_tier ..).trans f.tier, (Stage.closeWindow_tuning ..).trans f.tuning,
    nofun, f.queued, ?_, nofun, ?_, f.ahead⟩
  · intro other taken
    cases taken
    exact place
  · intro other onward target forwarding
    cases forwarding
    exact ⟨congrArg (Option.map s.gateOf) next, rfl, made.1⟩

theorem part {onward : Delivery} {gate : Gate} (f : w.Fits s t i)
    (h : w.activity = .forwarding d onward gate) : { w with activity := .parting d }.Fits s t i := by
  have place := f.taken (d := d) (by rw [h]; rfl)
  refine ⟨f.tier, f.tuning, nofun, f.queued, ?_, nofun, nofun, f.ahead⟩
  intro other taken
  cases taken
  exact place

end Worker.Fits

/-! ### Plants -/

namespace Plant.Orderly

variable {σ : Type} {s : Settings} {p q : Plant σ}

theorem of_pools (o : p.Orderly s) (h : q.pools = p.pools) : q.Orderly s := by
  refine ⟨o.manned, fun t => by rw [h]; exact o.size t, ?_⟩
  intro t i w here
  exact o.fits (by rwa [worker?, h] at here)

theorem setWorker {t : Tier} {i : Nat} {old w : Worker} (o : p.Orderly s)
    (here : p.worker? t i = some old) (f : w.Fits s t i) : (p.setWorker t i w).Orderly s := by
  refine ⟨o.manned, fun r => by rw [length_setWorker]; exact o.size r, ?_⟩
  intro r j w' there
  rcases worker?_setWorker p here there with ⟨rfl, rfl, rfl⟩ | ⟨-, before⟩
  · exact f
  · exact o.fits before

theorem worker?_hand {t g : Tier} {i : Nat} {w : Worker} {d onward : Delivery} (o : p.Orderly s)
    (here : p.worker? t i = some w) (hands : w.activity = .forwarding d onward (s.gateOf g)) (j : Nat)
    (taker : Worker) : (p.setWorker g j taker).worker? t i = some w := by
  have next := (o.fits here).next hands
  have apart : t ≠ g := ne_of_lt (Tier.lt_next next)
  rw [worker?_setWorker_of_ne p taker (.inl apart), here]

end Plant.Orderly

theorem Plant.settle_eq_some {σ : Type} {p q : Plant σ} {o : Outcome} {st : Settlement}
    (h : p.settle = some (q, o, st)) :
    ∃ tickets meter journal, p.tickets.read? = some (o, tickets) ∧ st = (p.ledger.settle o).2 ∧
      q = { p with
        ledger := (p.ledger.settle o).1
        tickets := st.reissue tickets
        meter := meter, journal := journal
        loop := { p.loop with
          waiting := p.loop.waiting ++ st.waits.map fun d => (p.loop.run, d) } } := by
  unfold settle at h
  cases read : p.tickets.read? with
  | none => simp [read] at h
  | some pair =>
    obtain ⟨outcome, tickets⟩ := pair
    simp only [read, Option.bind_eq_bind, Option.bind_some, Option.pure_def] at h
    cases h
    refine ⟨tickets, (p.meter.countAll (p.ledger.settle o).2.counters).gauge (p.ledger.settle o).1,
      (p.ledger.settle o).2.events.reverse ++ p.journal, rfl, rfl, ?_⟩
    generalize (p.ledger.settle o).2 = st
    cases st with
    | redeliver d reason => rfl
    | _ => simp only [Settlement.waits, List.map_nil, List.append_nil]

theorem Plant.orderly_new {σ : Type} {s : Settings} (usable : s.check = .ok ()) (sinks : σ)
    (board : Board) (now : Int) : (Plant.new s sinks board now).Orderly s := by
  refine ⟨Settings.manned_of_check usable, fun t => by rw [get_pools_new, List.length_replicate], ?_⟩
  intro t i w here
  obtain rfl := eq_new_of_worker? here
  exact ⟨rfl, rfl, nofun, nofun, nofun, nofun, nofun, rfl⟩

/-- Every turn of an orderly plant leaves it orderly. -/
theorem Turn.orderly {σ : Type} {s : Settings} {c : Collaborator σ} {p q : Plant σ} {ds : History}
    (turn : Turn s c p ds q) (o : p.Orderly s) : q.Orderly s := by
  cases turn with
  | begin => exact o.of_pools rfl
  | receive => exact o.of_pools rfl
  | closeInput => exact o.of_pools rfl
  | settle _ settled =>
    obtain ⟨tickets, meter, journal, -, -, rfl⟩ := Plant.settle_eq_some settled
    exact o.of_pools rfl
  | wake => exact o.of_pools rfl
  | resubmit => exact o.of_pools rfl
  | finish => exact o.of_pools rfl
  | enter waits found room =>
    have moved : Plant.Orderly s { p with loop := { p.loop with submitting := none } } := o.of_pools rfl
    exact moved.setWorker found ((o.fits found).push rfl)
  | @reject t i w d rest f here free head refused =>
    obtain ⟨m, j, taken⟩ := p.take_eq_of_error t i { w with queue := rest } d refused
    rw [taken]
    exact (o.setWorker here ((o.fits here).tail head)).of_pools rfl
  | @fold t i w d rest a stage here free head folded =>
    obtain ⟨m, taken⟩ := p.take_eq_of_ok t i { w with queue := rest } d folded
    rw [taken]
    exact (o.setWorker here (((o.fits here).tail head).fold ((o.fits here).head head) folded)).of_pools
      rfl
  | @call t i w sink d a sinks done here calls issued =>
    have same : Plant.Orderly s { p with sinks } := o.of_pools rfl
    exact same.setWorker here ((o.fits here).call calls done)
  | @fault t i w sink d a sinks fault here calls issued =>
    obtain ⟨m, j, desk, failed⟩ := Plant.fail_eq { p with sinks } t i w d a fault
    rw [failed]
    exact (o.setWorker here (o.fits here).rest).of_pools rfl
  | @keep t i w d a receipt here looks kept =>
    obtain ⟨m, desk, closed⟩ := p.close_eq_of_kept t i w d receipt kept
    rw [closed]
    exact (o.setWorker here ((o.fits here).close d.replay)).of_pools rfl
  | @move t i w d a receipt g here looks moves next =>
    have ahead := (o.fits here).ahead_of_next next
    obtain ⟨j, desk, closed⟩ := p.close_eq_of_moved t i w d receipt moves ahead
    rw [closed]
    exact (o.setWorker here ((o.fits here).move looks next)).of_pools rfl
  | @hand t i w d onward g taker here hands found room =>
    have given := o.setWorker found ((o.fits found).push (d := onward) rfl)
    exact given.setWorker (o.worker?_hand here hands _ _) ((o.fits here).part hands)
  | part here parts => exact (o.setWorker here (o.fits here).rest).of_pools rfl

end TierCascade
