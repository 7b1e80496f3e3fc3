import Mathlib.Algebra.Order.Ring.Nat
import TierCascade.Proofs.Orderly
/-!
# Workers get on

A delivery takes at most six steps at each tier: it is taken up, stored, shown to the notifier, looked
at, handed on, and let go. So there is a bound on what the workers of a plant can still do by themselves,
and every step of theirs lowers it (`Linked.effort_work`). As long as a worker has anything to do, some
worker can do something: those of the last tier wait for nobody, and the others only wait for a worker
of the next tier that has something to do itself (`Linked.rests_of_still`). All of this goes for plants
that are being shut down as well, as long as those that hand on find somebody to take it.
-/

namespace TierCascade

/-- What holds of a tier if it holds of the next one holds of all. -/
theorem Tier.descend {P : Tier → Prop} (down : ∀ t : Tier, (∀ g, t.next = some g → P g) → P t) (t : Tier) :
    P t := by
  have step : ∀ {t g : Tier}, t.next = some g → P g → P t := fun next coarser =>
    down _ fun r next' => Option.some.inj (next.symm.trans next') ▸ coarser
  have month : P .month := down .month nofun
  have week : P .week := step rfl month
  have day : P .day := step rfl week
  have hour : P .hour := step rfl day
  have minute : P .minute := step rfl hour
  cases t with
  | raw => exact step rfl minute
  | minute => exact minute
  | hour => exact hour
  | day => exact day
  | week => exact week
  | month => exact month

theorem Settings.capacity_pos_of_check {s : Settings} (usable : s.check = .ok ()) : 0 < s.capacity := by
  refine Nat.pos_of_ne_zero fun none => ?_
  unfold check at usable
  cases tuned : s.tuning.check with
  | error fault => simp [tuned, bind, Except.bind] at usable
  | ok _ =>
    cases idle : s.idleTier? <;>
      simp [tuned, idle, none, bind, Except.bind, throw, throwThe, MonadExceptOf.throw] at usable

/-! ### What is left to do -/

/-- The steps that a delivery in a queue of a tier has before it at most. -/
def Tier.effort (t : Tier) : Nat := 6 * (6 - t.index)

theorem Tier.effort_next {t g : Tier} (next : t.next = some g) : t.effort = g.effort + 6 := by
  cases t <;> cases next <;> rfl

theorem Tier.six_le_effort (t : Tier) : 6 ≤ t.effort := by
  cases t <;> decide

/-- An order to stop takes one step. -/
def Command.effort (t : Tier) : Command → Nat
  | process _ => t.effort
  | halt => 1

/-- The steps that a sample in hand has before it at most. -/
def Activity.effort (t : Tier) : Activity → Nat
  | storing .. => t.effort - 1
  | notifying .. => t.effort - 2
  | closing .. => t.effort - 3
  | forwarding .. => t.effort - 4
  | parting _ => 1
  | idle | stopped => 0

def Worker.effort (t : Tier) (w : Worker) : Nat :=
  (w.queue.map (Command.effort t)).sum + w.activity.effort t

def Plant.effort {σ : Type} (p : Plant σ) : Nat := p.total Worker.effort

namespace Worker

variable {t : Tier} {w w' : Worker}

theorem effort_push (t : Tier) (w : Worker) (cmd : Command) :
    (w.push cmd).effort t = w.effort t + cmd.effort t := by
  rw [effort, effort, push, List.map_append, List.sum_append, List.map_singleton, List.sum_singleton]
  exact Nat.add_right_comm ..

theorem effort_lt_of_head {cmd : Command} (head : w.queue = cmd :: w'.queue)
    (less : w'.activity.effort t < cmd.effort t) : w'.effort t < w.effort t := by
  rw [effort, effort, head, List.map_cons, List.sum_cons]
  omega

theorem effort_lt_of_activity (queue : w'.queue = w.queue)
    (less : w'.activity.effort t < w.activity.effort t) : w'.effort t < w.effort t := by
  rw [effort, effort, queue]
  exact Nat.add_lt_add_left less _

end Worker

namespace Plant

variable {σ : Type} {s : Settings} {c : Collaborator σ} {p q : Plant σ} {t : Tier} {i : Nat} {w : Worker}

/-! ### A worker's step, case by case -/

/-- What a worker's step comes to, whatever state the plant is in: a delivery is taken out of the queue;
the sample in hand gets farther; it is handed on; the worker obeys the order to stop; or what is to be
handed on finds no taker. -/
inductive WorkStep (s : Settings) (p : Plant σ) (t : Tier) (i : Nat) (q : Plant σ) : Prop where
  | take {w : Worker} (w' : Worker) {d : Delivery} (here : p.worker? t i = some w)
      (head : w.queue = .process d :: w'.queue) (less : w'.activity.effort t < t.effort)
      (works : w'.activity ≠ .stopped) (pools : q.pools = (p.setWorker t i w').pools)
  | serve {w : Worker} (w' : Worker) (here : p.worker? t i = some w) (queue : w'.queue = w.queue)
      (less : w'.activity.effort t < w.activity.effort t) (works : w'.activity ≠ .stopped)
      (pools : q.pools = (p.setWorker t i w').pools)
  | hand {w taker : Worker} {d onward : Delivery} {gate : Gate} {j : Nat} (here : p.worker? t i = some w)
      (hands : w.activity = .forwarding d onward gate)
      (found : p.behind gate onward.sample.series = .ok (j, taker))
      (room : taker.queue.length < s.capacity)
      (pools : q.pools = ((p.setWorker gate.tier j (taker.push (.process onward))).setWorker t i
        { w with activity := .parting d }).pools)
  | halt {w : Worker} {rest : List Command} (here : p.worker? t i = some w) (free : w.activity = .idle)
      (head : w.queue = .halt :: rest) (stops : q = p.stop t i { w with queue := rest })
  | refused {w : Worker} {d onward : Delivery} {gate : Gate} {f : Failure} (here : p.worker? t i = some w)
      (hands : w.activity = .forwarding d onward gate)
      (found : p.behind gate onward.sample.series = .error f)

private theorem workStep_of_take {rest : List Command} {d : Delivery} (here : p.worker? t i = some w)
    (free : w.activity = .idle) (head : w.queue = .process d :: rest) :
    WorkStep s p t i (p.take t i { w with queue := rest } d) := by
  have six := t.six_le_effort
  cases result : w.stage.process d.sample with
  | ok made =>
    obtain ⟨m, taken⟩ := p.take_eq_of_ok t i { w with queue := rest } d result
    refine .take ⟨_, rest, .storing d _, w.ahead⟩ here head ?_ nofun (by rw [taken])
    change t.effort - 1 < t.effort
    omega
  | error f =>
    obtain ⟨m, j, taken⟩ := p.take_eq_of_error t i { w with queue := rest } d result
    refine .take { w with queue := rest } here head ?_ (by rw [free]; nofun) (by rw [taken])
    rw [free]
    change 0 < t.effort
    omega

private theorem workStep_of_close {d : Delivery} {a : Aggregate} {receipt : Receipt}
    (here : p.worker? t i = some w) (looks : w.activity = .closing d a receipt) :
    WorkStep s p t i (p.close t i w d a receipt) := by
  have six := t.six_le_effort
  unfold close
  simp only
  split
  · refine .serve ⟨_, w.queue, .forwarding d _ _, w.ahead⟩ here rfl ?_ nofun rfl
    rw [looks]
    change t.effort - 4 < t.effort - 3
    omega
  · refine .serve ⟨_, w.queue, .idle, w.ahead⟩ here rfl ?_ nofun rfl
    rw [looks]
    change 0 < t.effort - 3
    omega

theorem workStep_of_work (move : p.work s c t i = some q) : WorkStep s p t i q := by
  have six := t.six_le_effort
  unfold work at move
  cases here : p.worker? t i with
  | none => simp [here] at move
  | some w =>
    simp only [here, Option.bind_eq_bind, Option.bind_some] at move
    obtain ⟨stage, queue, act, ahead⟩ := w
    cases act with
    | stopped => cases move
    | idle =>
      rcases queue with - | ⟨d | _, rest⟩ <;> cases move
      · exact workStep_of_take here rfl rfl
      · exact .halt here rfl rfl rfl
    | storing d a =>
      simp only at move
      split at move <;> cases move
      · refine .serve ⟨stage, queue, .notifying d a _, ahead⟩ here rfl ?_ nofun rfl
        change t.effort - 2 < t.effort - 1
        omega
      · refine .serve ⟨stage, queue, .idle, ahead⟩ here rfl ?_ nofun rfl
        change 0 < t.effort - 1
        omega
    | notifying d a stored =>
      simp only at move
      split at move <;> cases move
      · refine .serve ⟨stage, queue, .closing d a _, ahead⟩ here rfl ?_ nofun rfl
        change t.effort - 3 < t.effort - 2
        omega
      · refine .serve ⟨stage, queue, .idle, ahead⟩ here rfl ?_ nofun rfl
        change 0 < t.effort - 2
        omega
    | closing d a receipt =>
      cases move
      exact workStep_of_close here rfl
    | forwarding d onward gate =>
      simp only [forward] at move
      cases found : p.behind gate onward.sample.series with
      | error f => exact .refused here rfl found
      | ok reached =>
        obtain ⟨j, taker⟩ := reached
        simp only [found] at move
        split at move <;> cases move
        exact .hand here rfl found ‹_› rfl
    | parting d =>
      cases move
      exact .serve ⟨stage, queue, .idle, ahead⟩ here rfl Nat.one_pos nofun rfl

/-! ### Every step is progress -/

/-- Those that hand a sample on do so to a worker of the next tier, and that one takes it. -/
structure Linked (p : Plant σ) : Prop where
  taker : ∀ {t i w d onward gate}, p.worker? t i = some w → w.activity = .forwarding d onward gate →
    ∃ j taker, t.next = some gate.tier ∧ p.worker? gate.tier j = some taker ∧ taker.isStopped = false ∧
      p.behind gate onward.sample.series = .ok (j, taker)

theorem Orderly.linked (o : p.Orderly s) : p.Linked := by
  refine ⟨fun {t i w d onward gate} here hands => ?_⟩
  obtain ⟨g, next, rfl⟩ := Option.map_eq_some_iff.1 ((o.fits here).onward hands).1
  obtain ⟨taker, found, reached⟩ := o.behind_eq g onward.sample.series
  exact ⟨_, taker, next, found, Worker.isStopped_of_works (o.fits found).works, reached⟩

private theorem effort_lt (w' : Worker) (here : p.worker? t i = some w)
    (pools : q.pools = (p.setWorker t i w').pools) (less : w'.effort t < w.effort t) :
    q.effort < p.effort := by
  obtain ⟨rest, before, after⟩ := p.exists_total_eq Worker.effort here
  have now : q.effort = w'.effort t + rest := by
    rw [← after w', effort, total, pools]
    rfl
  rw [now, effort, before]
  exact Nat.add_lt_add_right less rest

/-- What is handed on is less work at the next tier than it was here. -/
private theorem effort_hand {d onward : Delivery} {gate : Gate} {taker : Worker} {j : Nat}
    (here : p.worker? t i = some w) (hands : w.activity = .forwarding d onward gate)
    (next : t.next = some gate.tier) (found : p.worker? gate.tier j = some taker) :
    ((p.setWorker gate.tier j (taker.push (.process onward))).setWorker t i
      { w with activity := .parting d }).effort < p.effort := by
  have still : (p.setWorker gate.tier j (taker.push (.process onward))).worker? t i = some w := by
    rw [worker?_setWorker_of_ne p _ (.inl (ne_of_lt (Tier.lt_next next))), here]
  obtain ⟨others, taken, given⟩ := p.exists_total_eq Worker.effort found
  obtain ⟨rest, before, after⟩ := exists_total_eq _ Worker.effort still
  -- The taker gains less than what the worker here is rid of.
  have more := given (taker.push (.process onward))
  have hand : w.effort t = (w.queue.map (Command.effort t)).sum + (t.effort - 4) := by
    rw [Worker.effort, hands]
    rfl
  have parts : { w with activity := .parting d }.effort t = (w.queue.map (Command.effort t)).sum + 1 := rfl
  have coarser : t.effort = Command.effort gate.tier (.process onward) + 6 := Tier.effort_next next
  rw [before, Worker.effort_push, hand] at more
  rw [effort, effort, after, taken, parts]
  omega

/-- **Whatever a worker does, there is less to do afterwards.** -/
theorem Linked.effort_work (linked : p.Linked) (move : p.work s c t i = some q) : q.effort < p.effort := by
  cases workStep_of_work move with
  | take w' here head less works pools => exact effort_lt w' here pools (Worker.effort_lt_of_head head less)
  | serve w' here queue less works pools =>
    exact effort_lt w' here pools (Worker.effort_lt_of_activity queue less)
  | hand here hands found room pools =>
    obtain ⟨j, taker, next, there, -, reached⟩ := linked.taker here hands
    cases found.symm.trans reached
    have less := effort_hand here hands next there
    rwa [effort, total, ← pools] at less
  | halt here free head stops =>
    subst stops
    refine effort_lt (p := p) ⟨_, [], .stopped, _⟩ here rfl ?_
    rw [Worker.effort, Worker.effort, head, List.map_cons, List.sum_cons]
    change 0 < 1 + _ + _
    omega
  | refused here hands found =>
    obtain ⟨j, taker, -, -, -, reached⟩ := linked.taker here hands
    cases found.symm.trans reached

/-! ### When nobody can do anything -/

/-- No worker can do anything. -/
def Still (s : Settings) (c : Collaborator σ) (p : Plant σ) : Prop := ∀ t i, p.work s c t i = none

/-- **Workers do not wait for each other forever.** If no worker can do anything, all are done or have
stopped. -/
theorem Linked.rests_of_still (linked : p.Linked) (roomy : 0 < s.capacity) (still : p.Still s c)
    (here : p.worker? t i = some w) : w.activity = .idle ∧ w.queue = [] ∨ w.activity = .stopped := by
  refine Tier.descend (P := fun t => ∀ {i w}, p.worker? t i = some w →
    w.activity = .idle ∧ w.queue = [] ∨ w.activity = .stopped) (fun t coarser {i w} here => ?_) t here
  have stuck := still t i
  simp only [work, here, Option.bind_eq_bind, Option.bind_some] at stuck
  cases act : w.activity with
  | stopped => exact .inr rfl
  | idle =>
    cases head : w.queue with
    | nil => exact .inl ⟨rfl, rfl⟩
    | cons cmd rest => cases cmd <;> simp [act, head] at stuck
  | storing d a =>
    simp only [act] at stuck
    split at stuck <;> cases stuck
  | notifying d a stored =>
    simp only [act] at stuck
    split at stuck <;> cases stuck
  | closing => simp [act] at stuck
  | parting => simp [act] at stuck
  | forwarding d onward gate =>
    -- The worker it waits for is done, so its queue has room.
    obtain ⟨j, taker, next, there, works, reached⟩ := linked.taker here act
    rcases coarser gate.tier next there with ⟨-, empty⟩ | stopped
    · simp [act, forward, reached, empty, roomy] at stuck
    · rw [Worker.isStopped, stopped] at works
      cases works

end Plant

end TierCascade
