import Mathlib.Algebra.BigOperators.Ring.List
import Mathlib.Algebra.Order.BigOperators.Group.List
import Mathlib.Algebra.Order.Ring.Nat
import TierCascade.Proofs.Metering
import TierCascade.Proofs.Recording
import TierCascade.Proofs.Shutdown
/-!
# What the schedule comes to

`Plant.run` and `Plant.closeDown` are one way for a plant to go on. Every bound that they put on their
own steps is high enough: draining goes on until no worker can do anything (`Drives.drain`), a run over
some samples drains (`Plant.run_drains`), and shutting down closes the plant (`Plant.conclude_closes`).
-/

namespace TierCascade

namespace Action

variable {a : Action}

def works : Action → Bool
  | .work .. => true
  | _ => false

/-- Whether an action is one of a run that nothing disturbs. -/
def calm (a : Action) : Bool := !a.disturbs

theorem calm_iff : a.calm = true ↔ a.disturbs = false := by
  rw [calm, Bool.not_eq_true']

theorem calm_of_works (works : a.works = true) : a.calm = true := by
  cases a <;> first | rfl | cases works

theorem winds_of_works (works : a.works = true) : a.winds = true := by
  cases a <;> first | rfl | cases works

end Action

namespace Plant

variable {σ : Type} {s : Settings} {c : Collaborator σ} {p q : Plant σ} {h : History}

/-! ### From one point to another -/

theorem follow_append (as bs : List Action) (reached : History × Plant σ) :
    follow s c (as ++ bs) reached = (follow s c as reached).bind (follow s c bs) := by
  induction as generalizing reached with
  | nil => rfl
  | cons a as ih =>
    obtain ⟨h, p⟩ := reached
    rw [List.cons_append, follow, follow]
    cases p.step s c a with
    | none => rfl
    | some q => exact ih _

/-- Some actions of a kind lead from one point to another, and with them some samples come in. -/
def Leads (s : Settings) (c : Collaborator σ) (fine : Action → Bool) (xs : List Sample)
    (here there : History × Plant σ) : Prop :=
  ∃ as, (∀ a ∈ as, fine a = true) ∧ as.filterMap Action.received = xs ∧ follow s c as here = some there

namespace Leads

variable {fine : Action → Bool} {xs ys : List Sample} {here there beyond : History × Plant σ}

theorem refl : Leads s c fine [] here here := ⟨[], fun _ mem => absurd mem List.not_mem_nil, rfl, rfl⟩

theorem step {a : Action} (kind : fine a = true) (move : p.step s c a = some q) :
    Leads s c fine a.received.toList (h, p) (h ++ p.deeds s c a, q) := by
  refine ⟨[a], fun b mem => List.mem_singleton.1 mem ▸ kind, ?_, ?_⟩
  · cases received : a.received <;> simp [received]
  · rw [follow, move]
    rfl

theorem trans (first : Leads s c fine xs here there) (later : Leads s c fine ys there beyond) :
    Leads s c fine (xs ++ ys) here beyond := by
  obtain ⟨as, all, came, moves⟩ := first
  obtain ⟨bs, all', came', moves'⟩ := later
  refine ⟨as ++ bs, fun a mem => ?_, ?_, ?_⟩
  · exact (List.mem_append.1 mem).elim (all a) (all' a)
  · rw [List.filterMap_append, came, came']
  · rw [follow_append, moves, Option.bind_some, moves']

theorem next {a : Action} (first : Leads s c fine xs here (h, p)) (kind : fine a = true)
    (move : p.step s c a = some q) : Leads s c fine (xs ++ a.received.toList) here (h ++ p.deeds s c a, q) :=
  first.trans (.step kind move)

theorem mono {fine' : Action → Bool} (first : Leads s c fine xs here there)
    (also : ∀ a, fine a = true → fine' a = true) : Leads s c fine' xs here there := by
  obtain ⟨as, all, came, moves⟩ := first
  exact ⟨as, fun a mem => also a (all a mem), came, moves⟩

end Leads

/-! ### Draining -/

theorem load_eq (p : Plant σ) : p.load = p.total fun _ w => w.queue.length + 1 := by
  have pool : ∀ (ws : List Worker) (n : Nat), ws.foldl (fun n w => n + w.queue.length + 1) n
      = n + (ws.map fun w => w.queue.length + 1).sum := by
    intro ws
    induction ws with
    | nil => exact fun n => rfl
    | cons w ws ih =>
      intro n
      rw [List.foldl_cons, ih, List.map_cons, List.sum_cons]
      omega
  simp only [load, total, Tier.all, pool, List.foldl_cons, List.foldl_nil, List.map_cons, List.map_nil, List.sum_cons,
    List.sum_nil]
  omega

theorem effort_le_load (p : Plant σ) : p.effort ≤ 36 * p.load := by
  have tier : ∀ t : Tier, t.effort ≤ 36 := fun t => by cases t <;> decide
  have each : ∀ t (w : Worker), w.effort t ≤ 36 * (w.queue.length + 1) := by
    intro t w
    have queue : (w.queue.map (Command.effort t)).sum ≤ w.queue.length * 36 := by
      have bound := List.sum_le_card_nsmul (w.queue.map (Command.effort t)) 36 fun n mem => by
        obtain ⟨cmd, -, rfl⟩ := List.mem_map.1 mem
        cases cmd with
        | process d => exact tier t
        | halt => exact (by decide : 1 ≤ 36)
      rwa [List.length_map] at bound
    have hand : w.activity.effort t ≤ 36 := by
      have bound := tier t
      cases w.activity <;> simp only [Activity.effort] <;> omega
    rw [Worker.effort]
    omega
  rw [load_eq, effort, total, total, ← List.sum_map_mul_left]
  refine List.sum_le_sum fun t _ => ?_
  rw [← List.sum_map_mul_left]
  exact List.sum_le_sum fun w _ => each t w

theorem still_of_places (none : ∀ e ∈ p.places, p.work s c e.1 e.2 = none) : p.Still s c := by
  intro t i
  cases here : p.worker? t i with
  | none => rw [work, here]; rfl
  | some w =>
    refine none (t, i) (List.mem_flatMap.2 ⟨t, t.mem_all, ?_⟩)
    exact List.mem_map_of_mem (List.mem_range.2 (lt_length_of_worker? p here))

/-- Lets one worker take a step, if it can. -/
def nudge (s : Settings) (c : Collaborator σ) (now : Plant σ × Bool) (place : Tier × Nat) : Plant σ × Bool :=
  match now.1.work s c place.1 place.2 with
  | some p => (p, true)
  | none => now

theorem turn_eq (s : Settings) (c : Collaborator σ) (p : Plant σ) :
    p.turn s c = p.places.foldl (nudge s c) (p, false) := rfl

/-- What the workers keep, whatever they do, and what makes sure that they get on. -/
structure Drives (s : Settings) (c : Collaborator σ) (P : History → Plant σ → Prop) : Prop where
  work : ∀ {h p t i q}, P h p → p.work s c t i = some q → P (h ++ p.workDeeds s c t i) q
  linked : ∀ {h p}, P h p → p.Linked

namespace Drives

variable {P : History → Plant σ → Prop}

/-- Either nobody at some places could do anything, or there is less to do now. -/
private theorem round (drives : Drives s c P) (holds : P h p) (moved : Bool) (places : List (Tier × Nat)) :
    ∃ h' q moved', places.foldl (nudge s c) (p, moved) = (q, moved') ∧
      Leads s c Action.works [] (h, p) (h', q) ∧ P h' q ∧
      ((moved' = moved ∧ q = p ∧ ∀ e ∈ places, p.work s c e.1 e.2 = none) ∨
        (moved' = true ∧ q.effort < p.effort)) := by
  induction places generalizing h p moved with
  | nil => exact ⟨h, p, moved, rfl, .refl, holds, .inl ⟨rfl, rfl, fun e mem => absurd mem List.not_mem_nil⟩⟩
  | cons e places ih =>
    obtain ⟨t, i⟩ := e
    rw [List.foldl_cons, nudge]
    cases move : p.work s c t i with
    | none =>
      dsimp only
      obtain ⟨h', q, moved', reached, leads, still, rests | less⟩ := ih holds moved
      · obtain ⟨rfl, rfl, none⟩ := rests
        refine ⟨h', _, _, reached, leads, still, .inl ⟨rfl, rfl, fun e mem => ?_⟩⟩
        rcases List.mem_cons.1 mem with rfl | later
        · exact move
        · exact none e later
      · exact ⟨h', q, moved', reached, leads, still, .inr less⟩
    | some mid =>
      dsimp only
      -- Now the round was not in vain, whatever happens at the places that are left.
      have less := (drives.linked holds).effort_work move
      have first : Leads s c Action.works [] (h, p) (h ++ p.workDeeds s c t i, mid) := .step (a := .work t i) rfl move
      obtain ⟨h', q, moved', reached, leads, still, rests | more⟩ := ih (drives.work holds move) true
      · obtain ⟨rfl, rfl, -⟩ := rests
        exact ⟨h', _, _, reached, first.trans leads, still, .inr ⟨rfl, less⟩⟩
      · exact ⟨h', q, moved', reached, first.trans leads, still, .inr ⟨more.1, more.2.trans less⟩⟩

/-- Workers that get a turn as often as there is anything to do come to a rest. -/
theorem workFor (drives : Drives s c P) (holds : P h p) {turns : Nat} (enough : p.effort ≤ turns) :
    ∃ h', Leads s c Action.works [] (h, p) (h', Plant.workFor s c turns p) ∧
      P h' (Plant.workFor s c turns p) ∧ (Plant.workFor s c turns p).Still s c := by
  -- A round that moves anybody lowers the effort, so the turns that are left are still enough.
  induction turns generalizing h p with
  | zero =>
    rw [Plant.workFor]
    refine ⟨h, .refl, holds, fun t i => ?_⟩
    cases move : p.work s c t i with
    | none => rfl
    | some q =>
      have less := (drives.linked holds).effort_work move
      omega
  | succ turns ih =>
    obtain ⟨h', q, moved, reached, leads, still, rests | less⟩ := drives.round holds false p.places
    · obtain ⟨rfl, rfl, none⟩ := rests
      rw [Plant.workFor, turn_eq, reached]
      exact ⟨h', leads, still, still_of_places none⟩
    · obtain ⟨rfl, less⟩ := less
      rw [Plant.workFor, turn_eq, reached]
      obtain ⟨h'', onward, kept, rests⟩ := ih still (Nat.le_of_lt_succ (less.trans_le enough))
      exact ⟨h'', leads.trans onward, kept, rests⟩

/-- **Draining goes on until no worker can do anything.** -/
theorem drain (drives : Drives s c P) (holds : P h p) :
    ∃ h', Leads s c Action.works [] (h, p) (h', p.drain s c) ∧ P h' (p.drain s c) ∧ (p.drain s c).Still s c :=
  drives.workFor holds p.effort_le_load

end Drives

/-! ### One sample after the other -/

theorem custody_of_rests (loop : p.loop.heads = 0)
    (rests : ∀ {t i w}, p.worker? t i = some w → w.activity = .idle ∧ w.queue = []) : p.custody = 0 := by
  have heads : p.heads = 0 := by
    rw [Plant.heads, loop, total_eq_zero fun here => ?_]
    · rfl
    · rw [Worker.heads, Worker.queuing, (rests here).1, (rests here).2]
      rfl
  have tails : p.tails = 0 := total_eq_zero fun here => by rw [Worker.tails, (rests here).1]; rfl
  rw [custody, heads, tails]
  rfl

theorem exists_read_of_custody (run : Run s c h p) (nobody : p.custody = 0) {i : Nat} {u : OpenUnit}
    (tracked : p.ledger.flight.get? i = some u) : ∃ o ts, p.tickets.read? = some (o, ts) := by
  cases run.sound.keeps run.kept i with
  | settled untracked => cases tracked.symm.trans untracked
  | underWay _ _ _ holders =>
    rw [nobody, Multiset.count_zero] at holders
    exact absurd holders.2 (Nat.ne_of_gt holders.1)
  | @reported u o _ _ unread =>
    cases outcomes : p.tickets.outcomes with
    | nil => rw [outcomes] at unread; cases unread
    | cons o rest => exact ⟨o, { p.tickets with outcomes := rest }, by rw [Tickets.read?, outcomes]⟩

theorem pending_of_acked {h' : History} {x : Sample} {u : Nat} {st : Settlement} (run : Run s c h p)
    (run' : Run s c h' q) (none : p.ledger.pending = 0) (settles : (p.ledger.emit x).1.Settles (.acked u) q.ledger st)
    (known : st ≠ .unknown) : q.ledger.pending = 0 := by
  obtain ⟨m, books⟩ := run.books
  obtain ⟨m', books'⟩ := run'.books
  have before : p.ledger.emitted = p.ledger.acked + p.ledger.deadLettered + p.ledger.pending := books.balance
  have after : q.ledger.emitted = q.ledger.acked + q.ledger.deadLettered + q.ledger.pending := books'.balance
  generalize q.ledger = l at settles after ⊢
  cases settles with
  | unknown => exact absurd rfl known
  | acked =>
    have emitted : (p.ledger.emit x).1.emitted = p.ledger.emitted + 1 := rfl
    have acked : (p.ledger.emit x).1.acked = p.ledger.acked := rfl
    have lost : (p.ledger.emit x).1.deadLettered = p.ledger.deadLettered := rfl
    dsimp only at after
    omega

theorem attemptAll_singleton {a : Action} (move : p.step s c a = some q) : p.attemptAll s c [a] = q := by
  rw [attemptAll, List.foldl_cons, move]
  rfl

section Samples

variable {p q : Plant Recorder}

theorem Recorded.drives (s : Settings) (kept : Plant Recorder) :
    Drives s Recorder.collaborator fun h p => p.Recorded s h ∧ p.loop = kept.loop ∧ p.ledger = kept.ledger where
  work := fun ⟨recorded, loop, ledger⟩ move =>
    ⟨recorded.step (a := .work _ _) rfl move, (work_frame move).loop.trans loop,
      (work_frame move).ledger.trans ledger⟩
  linked := fun ⟨recorded, _⟩ => recorded.run.sound.orderly.linked

/-- A loop that waits for the next sample, all others being settled. -/
structure Attentive (s : Settings) (h : History) (p : Plant Recorder) : Prop where
  recorded : p.Recorded s h
  running : p.loop.running = true
  inputOpen : p.loop.inputOpen = true
  settled : p.ledger.pending = 0

namespace Attentive

variable {t : Tier} {i : Nat} {w : Worker}

theorem rests (waits : p.Attentive s h) (here : p.worker? t i = some w) : w.activity = .idle ∧ w.queue = [] := by
  have sound := waits.recorded.run.sound
  obtain ⟨queue, hand⟩ := rests_of_custody (sound.custody_eq_zero waits.settled) here
  have fits := sound.orderly.fits here
  refine ⟨hand.resolve_right fits.works, List.eq_nil_iff_forall_not_mem.2 fun cmd mem => ?_⟩
  obtain ⟨d, rfl, -⟩ := fits.queued cmd mem
  have inside : d ∈ Command.deliveries w.queue := List.mem_filterMap.2 ⟨_, mem, rfl⟩
  rw [queue] at inside
  cases inside

theorem submitting (waits : p.Attentive s h) : p.loop.submitting = none :=
  (waits.recorded.run.sound.loop_at_rest waits.settled).1

theorem loopIdle (waits : p.Attentive s h) : p.loopIdle = true := by
  rw [Plant.loopIdle, waits.running, waits.submitting]
  rfl

theorem receive (waits : p.Attentive s h) (x : Sample) :
    p.step s Recorder.collaborator (.receive x) = some (p.receive x) := by
  rw [step, waits.loopIdle, waits.inputOpen]
  rfl

theorem enter (waits : p.Attentive s h) (roomy : 0 < s.capacity) (x : Sample) :
    ∃ q, (p.receive x).step s Recorder.collaborator .enter = some q ∧ q.loop = p.loop ∧
      q.ledger = (p.ledger.emit x).1 := by
  have orderly : (p.receive x).Orderly s := waits.recorded.run.sound.orderly.of_pools rfl
  obtain ⟨taker, found, reached⟩ := orderly.target_eq .raw x.series
  have room : taker.queue.length < s.capacity := by
    rw [(waits.rests (show p.worker? .raw (s.place .raw x.series) = some taker from found)).2]
    exact roomy
  have loop : { (p.receive x).loop with submitting := none } = p.loop := by
    change { p.loop with submitting := none } = p.loop
    rw [← waits.submitting]
  have submits : (p.receive x).loop.submitting = some (p.ledger.emit x).2 := rfl
  have series : (p.ledger.emit x).2.sample.series = x.series := rfl
  refine ⟨{ p.receive x with loop := { (p.receive x).loop with submitting := none } }.setWorker .raw
    (s.place .raw x.series) (taker.push (.process (p.ledger.emit x).2)), ?_, loop, rfl⟩
  simp only [step, Plant.enter, submits, Option.bind_eq_bind, Option.bind_some, series, reached, if_pos room,
    Option.pure_def]

theorem settle (waits : p.Attentive s h) {x : Sample} {h' : History} (recorded : q.Recorded s h')
    (loop : q.loop = p.loop) (ledger : q.ledger = (p.ledger.emit x).1)
    (rests : ∀ {t i w}, q.worker? t i = some w → w.activity = .idle ∧ w.queue = []) :
    ∃ r, q.step s Recorder.collaborator .settle = some r ∧
      r.Attentive s (h' ++ q.deeds s Recorder.collaborator .settle) := by
  have run := recorded.run
  have intake := run.intake recorded.calm
  have idle : q.loopIdle = true := by
    rw [Plant.loopIdle, loop]
    exact waits.loopIdle
  have nobody : q.custody = 0 := by
    refine custody_of_rests ?_ rests
    rw [Loop.heads, submitting_eq_none idle, intake.ready, intake.waiting]
    rfl
  have tracked : q.ledger.flight.get? p.ledger.nextUnit = some ⟨x, 1, none⟩ := by
    rw [ledger]
    exact OrderedMap.get?_insert_self ..
  obtain ⟨o, ts, read⟩ := exists_read_of_custody run nobody tracked
  obtain ⟨u, rfl⟩ := run.acked_of_read recorded.calm read
  obtain ⟨r, outcome, st, settled⟩ : ∃ r outcome st, q.settle = some (r, outcome, st) := by
    simp [Plant.settle, read]
  have move : q.step s Recorder.collaborator .settle = some r := by
    simp only [step, idle, if_true, settled, Option.map_some]
  have next := recorded.step (a := .settle) rfl move
  have known : st ≠ .unknown := by
    rintro rfl
    refine next.run.known outcome (List.mem_append_right h' ?_)
    simp only [Plant.deeds, settled]
    exact List.mem_cons_self
  obtain ⟨tickets, meter, journal, read', rfl, reached⟩ := settle_eq_some settled
  cases read.symm.trans read'
  have settles := q.ledger.settles (.acked u)
  rw [show (q.ledger.settle (.acked u)).1 = r.ledger by rw [reached]] at settles
  generalize (q.ledger.settle (.acked u)).2 = st at settles known
  rw [ledger] at settles
  refine ⟨r, move, next, ?_, ?_, pending_of_acked waits.recorded.run next.run waits.settled settles known⟩ <;>
    rw [reached]
  · exact (congrArg Loop.running loop).trans waits.running
  · exact (congrArg Loop.inputOpen loop).trans waits.inputOpen

/-- **A sample is dealt with before the next one comes in.** -/
theorem serve (waits : p.Attentive s h) (roomy : 0 < s.capacity) (x : Sample) (attempts : Nat) :
    let q := Plant.serve s Recorder.collaborator none (attempts + 1) (p.attemptAll s Recorder.collaborator [.receive x])
    ∃ h', Leads s Recorder.collaborator Action.calm [x] (h, p) (h', q) ∧ q.Attentive s h' := by
  intro q
  have took := waits.receive x
  obtain ⟨mid, entered, loop, ledger⟩ := waits.enter roomy x
  have second := (waits.recorded.step (a := .receive x) rfl took).step (a := .enter) rfl entered
  obtain ⟨h', works, ⟨drained, loop', ledger'⟩, still⟩ := (Recorded.drives s mid).drain ⟨second, rfl, rfl⟩
  obtain ⟨r, settled, next⟩ := waits.settle drained (loop'.trans loop) (ledger'.trans ledger) fun here => by
    have orderly := drained.run.sound.orderly
    exact (orderly.linked.rests_of_still roomy still here).resolve_right (orderly.fits here).works
  have reached : q = r := by
    have none := (next.recorded.run.intake next.recorded.calm).waiting
    change Plant.serve _ _ _ _ _ = r
    rw [Plant.serve, attemptAll_singleton took, attemptAll_singleton entered, attemptAll_singleton settled]
    simp only [isSpent, none, List.isEmpty_nil, Bool.false_eq_true, if_false, if_true]
  rw [reached]
  have begun : Leads s Recorder.collaborator Action.calm [] (h, p) (h, p) := .refl
  have entering := (begun.next (a := .receive x) rfl took).next (a := .enter) rfl entered
  have through := entering.trans (works.mono fun a => Action.calm_of_works)
  exact ⟨_, through.next (a := .settle) rfl settled, next⟩

theorem serveAll (waits : p.Attentive s h) (roomy : 0 < s.capacity) (xs : List Sample) :
    let q := xs.foldl (fun p x => if p.loop.running then Plant.serve s Recorder.collaborator none
      (s.redelivery.attempts + 1) (p.attemptAll s Recorder.collaborator [.receive x]) else p) p
    ∃ h', Leads s Recorder.collaborator Action.calm xs (h, p) (h', q) ∧ q.Attentive s h' := by
  induction xs generalizing h p with
  | nil => exact ⟨h, .refl, waits⟩
  | cons x xs ih =>
    obtain ⟨h', leads, waits'⟩ := waits.serve roomy x s.redelivery.attempts
    obtain ⟨h'', later, waits''⟩ := ih waits'
    rw [List.foldl_cons, if_pos waits.running]
    exact ⟨h'', leads.trans later, waits''⟩

theorem finish (waits : p.Attentive s h) :
    let q := p.attemptAll s Recorder.collaborator [.closeInput, .finish]
    ∃ h', Leads s Recorder.collaborator Action.calm [] (h, p) (h', q) ∧ q.loop.exit = some .drained := by
  intro q
  let mid : Plant Recorder := { p with loop := { p.loop with inputOpen := false } }
  have closed : p.step s Recorder.collaborator .closeInput = some mid := by
    rw [step, waits.loopIdle, waits.inputOpen]
    rfl
  have left : mid.step s Recorder.collaborator .finish = some (mid.leave .drained) := by
    have idle : mid.loopIdle = true := waits.loopIdle
    have settled : mid.ledger.pending = 0 := waits.settled
    rw [step, idle, settled]
    rfl
  have reached : q = mid.leave .drained := by
    change attemptAll _ _ _ _ = _
    simp only [attemptAll, List.foldl_cons, List.foldl_nil, closed, left, Option.getD_some]
  rw [reached]
  have begun : Leads s Recorder.collaborator Action.calm [] (h, p) (h, p) := .refl
  exact ⟨_, (begun.next (a := .closeInput) rfl closed).next (a := .finish) rfl left, rfl⟩

end Attentive

/-- **A run over some samples drains**, and nothing disturbs it. -/
theorem run_drains {board : Board} {now : Int} {start : Plant Recorder}
    (launched : Plant.launch s (Recorder.new []) board now = .ok start) (xs : List Sample) :
    let q := start.run s Recorder.collaborator none xs
    ∃ h, Leads s Recorder.collaborator Action.calm xs ([], start) (h, q) ∧ q.loop.exit = some .drained := by
  obtain ⟨usable, j, fresh⟩ := launch_eq_ok launched
  have rests : start.loop.running = false := by rw [fresh]; rfl
  have settled : start.ledger.pending = 0 := by rw [fresh]; rfl
  let begun : Plant Recorder := { start with loop :=
    { start.loop with run := start.loop.run + 1, running := true, inputOpen := true, exit := none } }
  have begins : start.step s Recorder.collaborator .begin = some begun := by
    rw [step, rests]
    rfl
  have recorded := recorded_of_launch launched
  have first : Leads s Recorder.collaborator Action.calm [] ([], start) _ := .step (a := .begin) rfl begins
  have waits : begun.Attentive s [] := ⟨recorded.step rfl begins, rfl, rfl, settled⟩
  obtain ⟨h, served, waits'⟩ := waits.serveAll (Settings.capacity_pos_of_check usable) xs
  obtain ⟨h', ended, drained⟩ := waits'.finish
  rw [Plant.run, attemptAll_singleton begins]
  refine ⟨h', ?_, drained⟩
  have all := (first.trans served).trans ended
  rwa [List.append_nil] at all

end Samples

end Plant

/-! ### Shutting down -/

/-- The steps that the shutdown itself still has to take at most, not counting those of the workers that
are told. -/
def Closing.orders (s : Settings) : Closing → Nat
  | notYet => (Tier.all.map fun r => s.workersOf r + 1).sum + 1
  | halting t sent => s.workersOf t - sent + 1 + (t.above.map fun r => s.workersOf r + 1).sum
  | closed => 0

theorem Closing.eq_closed_of_orders {s : Settings} {c : Closing} (none : c.orders s = 0) : c = .closed := by
  cases c with
  | notYet => cases none
  | halting t sent =>
    rw [orders] at none
    omega
  | closed => rfl

theorem Settings.totalWorkers_eq (s : Settings) : s.totalWorkers = (Tier.all.map s.workersOf).sum := by
  simp only [totalWorkers, Tier.all, List.foldl_cons, List.foldl_nil, List.map_cons, List.map_nil, List.sum_cons,
    List.sum_nil]
  omega

namespace Plant

variable {σ : Type} {s : Settings} {c : Collaborator σ} {p q start : Plant σ} {h : History}

namespace Winding

theorem orders_lt (winding : p.Winding s h) (move : p.shutdown s = some q) :
    q.closing.orders s < p.closing.orders s := by
  have told : ∀ {t sent}, sent < s.workersOf t →
      (Closing.halting t (sent + 1)).orders s < (Closing.halting t sent).orders s := by
    intro t sent inside
    rw [Closing.orders, Closing.orders]
    omega
  cases shutdownStep_of_shutdown move with
  | begin stage =>
    rw [stage]
    exact Nat.lt_succ_self _
  | skip stage here =>
    rw [stage]
    exact told (winding.lt_workersOf here)
  | tell stage here =>
    rw [stage]
    exact told (winding.lt_workersOf here)
  | turn stage next =>
    simp only [stage, Closing.orders, Tier.above_next next, List.map_cons, List.sum_cons]
    omega
  | finish stage =>
    rw [stage]
    exact Nat.lt_add_right _ (Nat.succ_pos _)

theorem drives (s : Settings) (c : Collaborator σ) (kept : Plant σ) :
    Drives s c fun h p => p.Winding s h ∧ p.loop = kept.loop ∧ p.closing = kept.closing where
  work := fun ⟨winding, loop, closing⟩ move =>
    ⟨winding.work move, (work_frame move).loop.trans loop, (work_frame move).closing.trans closing⟩
  linked := fun ⟨winding, _⟩ => winding.linked

theorem exists_shutdown (winding : p.Winding s h) (roomy : 0 < s.capacity) (still : p.Still s c)
    (open_ : p.closing ≠ .closed) (idle : p.loop.running = false) : ∃ q, p.shutdown s = some q := by
  obtain ⟨a, q, winds, move⟩ := winding.exists_step (c := c) roomy open_ idle
  cases a with
  | work t i => cases (still t i).symm.trans move
  | shutdown =>
    rw [Plant.step, idle] at move
    exact ⟨q, move⟩
  | _ => cases winds

/-- Each time the workers have done what they can, the shutdown takes a step, until the plant is closed. -/
theorem shutdownFor (winding : p.Winding s h) (roomy : 0 < s.capacity) (idle : p.loop.running = false)
    {steps : Nat} (enough : p.closing.orders s ≤ steps) :
    ∃ h', Leads s c Action.winds [] (h, p) (h', Plant.shutdownFor s c steps p) ∧
      (Plant.shutdownFor s c steps p).closing = .closed := by
  induction steps generalizing h p with
  | zero => exact ⟨h, .refl, Closing.eq_closed_of_orders (Nat.le_zero.1 enough)⟩
  | succ steps ih =>
    obtain ⟨h', works, ⟨winding', loop, closing⟩, still⟩ := (drives s c p).drain ⟨winding, rfl, rfl⟩
    have works := works.mono fun a => Action.winds_of_works
    rw [← loop] at idle
    rw [Plant.shutdownFor]
    cases move : (p.drain s c).shutdown s with
    | none =>
      -- The workers are at rest, so nothing but the end can keep the shutdown from going on.
      refine ⟨h', works, by_contra fun open_ => ?_⟩
      obtain ⟨q, moves⟩ := winding'.exists_shutdown roomy still open_ idle
      cases move.symm.trans moves
    | some q =>
      have less := winding'.orders_lt move
      have idle' : q.loop.running = false := by
        cases shutdownStep_of_shutdown move <;> exact idle
      have step : (p.drain s c).step s c .shutdown = some q := by rw [Plant.step, idle]; exact move
      rw [closing] at less
      obtain ⟨h'', later, closed⟩ := ih (winding'.shutdown move) idle' (Nat.le_of_lt_succ (less.trans_le enough))
      have first := works.next (a := .shutdown) rfl step
      rw [deeds, List.append_nil] at first
      exact ⟨h'', first.trans later, closed⟩

end Winding

/-- **Shutting down closes the plant**, and nothing but workers and shutdown take part in it. -/
theorem conclude_closes {sinks : σ} {board : Board} {now : Int} {xs : List Sample}
    (launched : Plant.launch s sinks board now = .ok start) (served : Leads s c Action.calm xs ([], start) (h, p))
    (idle : p.loop.running = false) (exit : Exit) :
    ∃ h', Leads s c Action.winds [] (h, p.report (.stopping exit.text p.ledger.pending))
        (h', p.conclude s c exit) ∧ (p.conclude s c exit).closing = .closed := by
  obtain ⟨as, all, -, moves⟩ := served
  have stays : ∀ a ∈ as, a.closes = false := fun a mem =>
    Action.closes_of_disturbs (Action.calm_iff.1 (all a mem))
  obtain ⟨orderly, queued, notYet⟩ := orderly_of_follow launched stays moves
  have roomy := Settings.capacity_pos_of_check (launch_eq_ok launched).1
  let reported := p.report (.stopping exit.text p.ledger.pending)
  have winding : reported.Winding s h := .of_orderly (orderly.of_pools rfl) (queued.of_pools rfl) notYet
  refine winding.shutdownFor roomy idle ?_
  have stage : reported.closing = .notYet := notYet
  rw [stage, s.totalWorkers_eq]
  simp only [Closing.orders, Tier.all, List.map_cons, List.map_nil, List.sum_cons, List.sum_nil, List.length_cons,
    List.length_nil]
  omega

end Plant

end TierCascade
