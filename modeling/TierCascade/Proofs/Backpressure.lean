import Mathlib.Logic.Relation
import TierCascade.Proofs.Closing
/-!
# Full queues

Queues are bounded, so whoever puts something into one may have to wait for room: the loop with what it
submits, a worker with what it hands on, and whoever shuts the plant down with an order to stop. A worker
that does not come to its queue because it waits itself makes others wait. But gates only ever lead to the
next tier (`Plant.Wired`), so those that are waited for are of coarser and coarser tiers, nobody waits for
himself in the end, and at the end of every chain stands a worker that can do something. Outcomes and
units that are delivered again never have to wait for room.

This goes for every plant, whatever has happened to it: also for one that is being shut down, or is used
again when that is over.
-/

namespace TierCascade

/-- Who puts something into a queue. -/
inductive Sender where
  | loop
  | worker (t : Tier) (i : Nat)
  | closer
  deriving DecidableEq

/-- How far along the line somebody stands. -/
def Sender.rank : Sender → Nat
  | loop | closer => 0
  | worker t _ => t.index + 1

/-- Whether a worker is there and does not hand anything on. -/
def Activity.staysHere : Activity → Bool
  | forwarding .. | stopped => false
  | _ => true

/-- A worker hands on to the next tier, its queue holds no more than there is room for, and one that has
stopped has left nothing behind. -/
structure Worker.Wired (s : Settings) (t : Tier) (w : Worker) : Prop where
  ahead : w.ahead = t.next.map s.gateOf
  onward : ∀ {d onward gate}, w.activity = .forwarding d onward gate → t.next.map s.gateOf = some gate
  bounded : w.queue.length ≤ s.capacity
  empty : w.activity = .stopped → w.queue = []

namespace Worker.Wired

variable {s : Settings} {t : Tier} {w w' : Worker} {d : Delivery}

theorem turnTo (wired : w.Wired s t) (ahead : w'.ahead = w.ahead)
    (queue : w'.queue.length ≤ w.queue.length) (stays : w'.activity.staysHere = true) : w'.Wired s t := by
  refine ⟨ahead.trans wired.ahead, fun hands => ?_, queue.trans wired.bounded, fun stopped => ?_⟩
  · rw [hands] at stays
    cases stays
  · rw [stopped] at stays
    cases stays

theorem push (wired : w.Wired s t) (works : w.isStopped = false) (room : w.queue.length < s.capacity)
    (cmd : Command) : (w.push cmd).Wired s t := by
  have longer : (w.push cmd).queue.length = w.queue.length + 1 := List.length_append
  refine ⟨wired.ahead, wired.onward, longer ▸ room, fun stopped => ?_⟩
  have stopped : w.activity = .stopped := stopped
  rw [isStopped, stopped] at works
  cases works

theorem stop (wired : w.Wired s t) : { w with activity := .stopped, queue := [] }.Wired s t :=
  ⟨wired.ahead, fun hands => (by cases hands), Nat.zero_le _, fun _ => rfl⟩

end Worker.Wired

namespace Plant

variable {σ : Type} {s : Settings} {c : Collaborator σ} {p q : Plant σ} {t : Tier} {i : Nat} {w : Worker}

theorem worker?_of_behind {gate : Gate} {x : Series} {j : Nat} {taker : Worker}
    (found : p.behind gate x = .ok (j, taker)) :
    p.worker? gate.tier j = some taker ∧ taker.isStopped = false := by
  unfold behind at found
  by_cases inside : gate.routing.route x < gate.queues
  · simp only [if_pos inside] at found
    cases here : p.worker? gate.tier (gate.routing.route x) with
    | none =>
      rw [here] at found
      cases found
    | some w =>
      rw [here] at found
      simp only at found
      split at found <;> cases found
      exact ⟨here, Bool.not_eq_true _ ▸ ‹¬taker.isStopped = true›⟩
  · simp only [if_neg inside] at found
    cases found

/-! ### Gates lead to the next tier -/

structure Wired (s : Settings) (p : Plant σ) : Prop where
  manned : ∀ t, 0 < s.workersOf t
  wired : ∀ {t i w}, p.worker? t i = some w → w.Wired s t

namespace Wired

theorem of_pools (wired : p.Wired s) (pools : q.pools = p.pools) : q.Wired s :=
  ⟨wired.manned, fun here => wired.wired (by rwa [worker?, pools] at here)⟩

theorem set {w' : Worker} (wired : p.Wired s) (here : p.worker? t i = some w) (own : w'.Wired s t)
    (pools : q.pools = (p.setWorker t i w').pools) : q.Wired s := by
  refine of_pools (p := p.setWorker t i w') ⟨wired.manned, fun {r j v} there => ?_⟩ pools
  rcases worker?_setWorker p here there with ⟨rfl, rfl, rfl⟩ | ⟨-, before⟩
  · exact own
  · exact wired.wired before

theorem turnTo (wired : p.Wired s) (act : Activity) (here : p.worker? t i = some w)
    (pools : q.pools = (p.setWorker t i { w with activity := act }).pools) (stays : act.staysHere = true) :
    q.Wired s := by
  have own : { w with activity := act }.Wired s t := (wired.wired here).turnTo rfl le_rfl stays
  exact wired.set here own pools

theorem of_launch {sinks : σ} {board : Board} {now : Int} (launched : Plant.launch s sinks board now = .ok p) :
    p.Wired s := by
  obtain ⟨usable, j, rfl⟩ := launch_eq_ok launched
  refine of_pools (p := Plant.new s sinks board now)
    ⟨Settings.manned_of_check usable, fun {t i w} here => ?_⟩ rfl
  obtain rfl := eq_new_of_worker? here
  exact ⟨rfl, fun hands => (by cases hands), Nat.zero_le _, fun _ => rfl⟩

theorem target_eq (wired : p.Wired s) (t : Tier) (x : Series) : p.target s t x = p.behind (s.gateOf t) x := by
  rw [target, s.findGate_eq wired.manned]
  rfl

/-! What each step of a worker leaves. -/

theorem take (wired : p.Wired s) {d : Delivery} {rest : List Command} (here : p.worker? t i = some w)
    (free : w.activity = .idle) (head : w.queue = .process d :: rest) :
    (p.take t i { w with queue := rest } d).Wired s := by
  have own := wired.wired here
  have shorter : rest.length ≤ w.queue.length := head ▸ Nat.le_succ _
  cases result : w.stage.process d.sample with
  | error f =>
    obtain ⟨m, j, taken⟩ := p.take_eq_of_error t i { w with queue := rest } d result
    have idle : { w with queue := rest }.Wired s t := own.turnTo rfl shorter (by rw [free]; rfl)
    exact wired.set here idle (by rw [taken])
  | ok made =>
    obtain ⟨a, stage⟩ := made
    obtain ⟨m, taken⟩ := p.take_eq_of_ok t i { w with queue := rest } d result
    have stores : Worker.Wired s t ⟨stage, rest, .storing d a, w.ahead⟩ := own.turnTo rfl shorter rfl
    exact wired.set here stores (by rw [taken])

theorem close (wired : p.Wired s) (here : p.worker? t i = some w) (d : Delivery) (a : Aggregate)
    (receipt : Receipt) : (p.close t i w d a receipt).Wired s := by
  have own := wired.wired here
  unfold Plant.close
  simp only
  split
  · rename_i x gate moved ahead
    have hands : Worker.Wired s t ⟨(w.stage.closeWindow a d.replay).2, w.queue,
        .forwarding d ⟨d.ticket, x, d.replay⟩ gate, w.ahead⟩ := by
      refine ⟨own.ahead, fun hands => ?_, own.bounded, fun stopped => by cases stopped⟩
      cases hands
      exact own.ahead.symm.trans ahead
    exact wired.set here hands rfl
  · have idle : Worker.Wired s t ⟨(w.stage.closeWindow a d.replay).2, w.queue, .idle, w.ahead⟩ :=
      own.turnTo rfl le_rfl rfl
    exact wired.set here idle rfl

theorem forward (wired : p.Wired s) {d onward : Delivery} {gate : Gate} (here : p.worker? t i = some w)
    (hands : w.activity = .forwarding d onward gate) (move : p.forward s t i w d onward gate = some q) :
    q.Wired s := by
  have own := wired.wired here
  unfold Plant.forward at move
  cases found : p.behind gate onward.sample.series with
  | ok reached =>
    obtain ⟨j, taker⟩ := reached
    obtain ⟨there, works⟩ := worker?_of_behind found
    simp only [found] at move
    split at move <;> cases move
    rename_i room
    obtain ⟨g, next, rfl⟩ := Option.map_eq_some_iff.1 (own.onward hands)
    have given := wired.set there ((wired.wired there).push works room (.process onward)) rfl
    have still : (p.setWorker g j (taker.push (.process onward))).worker? t i = some w := by
      rw [worker?_setWorker_of_ne p _ (.inl (ne_of_lt (Tier.lt_next next))), here]
    exact given.turnTo (.parting d) still rfl rfl
  | error f =>
    simp only [found] at move
    split at move <;> cases move
    · exact wired.set here own.stop rfl
    · exact wired.turnTo .idle here rfl rfl

theorem work (wired : p.Wired s) (move : p.work s c t i = some q) : q.Wired s := by
  unfold Plant.work at move
  cases here : p.worker? t i with
  | none => simp [here] at move
  | some w =>
    simp only [here, Option.bind_eq_bind, Option.bind_some] at move
    cases act : w.activity with
    | stopped => simp [act] at move
    | idle =>
      cases head : w.queue with
      | nil => simp [act, head] at move
      | cons cmd rest =>
        cases cmd with
        | process d =>
          simp only [act, head, Option.some.injEq] at move
          rw [← move, ← act]
          exact wired.take here act head
        | halt =>
          simp only [act, head, Option.some.injEq] at move
          exact move ▸ wired.set here (wired.wired here).stop rfl
    | storing d a =>
      simp only [act] at move
      split at move <;> cases move
      · exact wired.turnTo (.notifying d a _) here rfl rfl
      · exact wired.turnTo .idle here rfl rfl
    | notifying d a stored =>
      simp only [act] at move
      split at move <;> cases move
      · exact wired.turnTo (.closing d a _) here rfl rfl
      · exact wired.turnTo .idle here rfl rfl
    | closing d a receipt =>
      simp only [act, Option.some.injEq] at move
      exact move ▸ wired.close here d a receipt
    | forwarding d onward gate =>
      simp only [act] at move
      exact wired.forward here act move
    | parting d =>
      simp only [act, Option.some.injEq] at move
      exact move ▸ wired.turnTo .idle here rfl rfl

theorem enter (wired : p.Wired s) (move : p.enter s = some q) : q.Wired s := by
  unfold Plant.enter at move
  cases waits : p.loop.submitting with
  | none => simp [waits] at move
  | some d =>
    simp only [waits, Option.bind_eq_bind, Option.bind_some, wired.target_eq, Option.pure_def] at move
    cases found : p.behind (s.gateOf .raw) d.sample.series with
    | ok reached =>
      obtain ⟨j, taker⟩ := reached
      obtain ⟨there, works⟩ := worker?_of_behind found
      simp only [found] at move
      split at move <;> cases move
      exact wired.set there ((wired.wired there).push works ‹_› (.process d)) rfl
    | error f =>
      simp only [found, Option.some.injEq] at move
      exact move ▸ wired.of_pools rfl

theorem shutdown (wired : p.Wired s) (move : p.shutdown s = some q) : q.Wired s := by
  cases shutdownStep_of_shutdown move with
  | tell stage here works room =>
    exact wired.set here ((wired.wired here).push works room .halt) rfl
  | _ => exact wired.of_pools rfl

/-- **Whatever happens, gates go on leading to the next tier.** -/
theorem step {a : Action} (wired : p.Wired s) (move : p.step s c a = some q) : q.Wired s := by
  cases workers : a.concernsWorkers with
  | false => exact wired.of_pools (loop_frame workers move).pools
  | true =>
    cases a with
    | work t i => exact wired.work move
    | enter => exact wired.enter move
    | shutdown =>
      rw [Plant.step] at move
      split at move
      · cases move
      · exact wired.shutdown move
    | _ => cases workers

theorem of_follow {sinks : σ} {board : Board} {now : Int} {start : Plant σ} {as : List Action} {h : History}
    (launched : Plant.launch s sinks board now = .ok start)
    (moves : Plant.follow s c as ([], start) = some (h, p)) : p.Wired s :=
  @follow_keeps σ s c (fun _ _ p => p.Wired s) (fun _ => True) (fun _ move wired => wired.step move) as
    (fun _ _ => trivial) [] h [] start p moves (of_launch launched)

end Wired

/-! ### Waiting for room -/

/-- Somebody can put what he has into the queue of a worker once there is room for it. -/
inductive Waits (s : Settings) (p : Plant σ) : Sender → Sender → Prop where
  | submit {d : Delivery} {i : Nat} {taker : Worker} (submits : p.loop.submitting = some d)
      (found : p.target s .raw d.sample.series = .ok (i, taker)) (full : s.capacity ≤ taker.queue.length) :
      Waits s p .loop (.worker .raw i)
  | hand {t : Tier} {i j : Nat} {w taker : Worker} {d onward : Delivery} {gate : Gate}
      (here : p.worker? t i = some w) (hands : w.activity = .forwarding d onward gate)
      (found : p.behind gate onward.sample.series = .ok (j, taker)) (full : s.capacity ≤ taker.queue.length) :
      Waits s p (.worker t i) (.worker gate.tier j)
  | tell {t : Tier} {sent : Nat} {w : Worker} (stage : p.closing = .halting t sent)
      (here : p.worker? t sent = some w) (works : w.isStopped = false) (full : s.capacity ≤ w.queue.length) :
      Waits s p .closer (.worker t sent)

/-- Somebody has something to put into a queue, and cannot do it now. -/
inductive Blocked (s : Settings) (c : Collaborator σ) (p : Plant σ) : Sender → Prop where
  | loop {d : Delivery} (submits : p.loop.submitting = some d) (stuck : p.enter s = none) : Blocked s c p .loop
  | worker {t : Tier} {i : Nat} {w : Worker} {d onward : Delivery} {gate : Gate} (here : p.worker? t i = some w)
      (hands : w.activity = .forwarding d onward gate) (stuck : p.work s c t i = none) :
      Blocked s c p (.worker t i)
  | closer {t : Tier} {sent : Nat} {w : Worker} (stage : p.closing = .halting t sent)
      (here : p.worker? t sent = some w) (stuck : p.shutdown s = none) : Blocked s c p .closer

/-- **Blocked are those that wait for room, and nobody else.** -/
theorem blocked_iff {x : Sender} : p.Blocked s c x ↔ ∃ y, p.Waits s x y := by
  constructor
  · intro blocked
    cases blocked with
    | @loop d submits stuck =>
      unfold enter at stuck
      simp only [submits, Option.bind_eq_bind, Option.bind_some, Option.pure_def] at stuck
      cases found : p.target s .raw d.sample.series with
      | error f => simp [found] at stuck
      | ok reached =>
        obtain ⟨i, taker⟩ := reached
        simp only [found] at stuck
        split at stuck <;> cases stuck
        exact ⟨_, .submit submits found (Nat.le_of_not_lt ‹_›)⟩
    | @worker t i w d onward gate here hands stuck =>
      simp only [work, here, hands, forward, Option.bind_eq_bind, Option.bind_some] at stuck
      cases found : p.behind gate onward.sample.series with
      | error f =>
        simp only [found] at stuck
        split at stuck <;> cases stuck
      | ok reached =>
        obtain ⟨j, taker⟩ := reached
        simp only [found] at stuck
        split at stuck <;> cases stuck
        exact ⟨_, .hand here hands found (Nat.le_of_not_lt ‹_›)⟩
    | closer stage here stuck =>
      simp only [shutdown, stage, here] at stuck
      split at stuck
      · cases stuck
      · split at stuck <;> cases stuck
        exact ⟨_, .tell stage here (Bool.not_eq_true _ ▸ ‹¬_›) (Nat.le_of_not_lt ‹_›)⟩
  · rintro ⟨y, waits⟩
    cases waits with
    | submit submits found full =>
      exact .loop submits (by simp [enter, submits, found, Nat.not_lt_of_le full])
    | hand here hands found full =>
      exact .worker here hands (by simp [work, forward, here, hands, found, Nat.not_lt_of_le full])
    | tell stage here works full =>
      exact .closer stage here (by simp [shutdown, stage, here, works, Nat.not_lt_of_le full])

namespace Wired

variable {x y : Sender}

/-- Whoever waits is waited for by nobody that stands farther along the line. -/
theorem rank_lt (wired : p.Wired s) (waits : p.Waits s x y) : x.rank < y.rank := by
  cases waits with
  | submit => exact Nat.succ_pos _
  | tell => exact Nat.succ_pos _
  | hand here hands =>
    obtain ⟨g, next, rfl⟩ := Option.map_eq_some_iff.1 ((wired.wired here).onward hands)
    exact Nat.succ_lt_succ (Tier.lt_next next)

/-- **Nobody waits for himself**, not even through others. -/
theorem acyclic (wired : p.Wired s) (x : Sender) : ¬ Relation.TransGen (p.Waits s) x x := by
  have farther : ∀ {y}, Relation.TransGen (p.Waits s) x y → x.rank < y.rank := by
    intro y chain
    induction chain with
    | single waits => exact wired.rank_lt waits
    | tail _ waits ih => exact ih.trans (wired.rank_lt waits)
  exact fun cycle => Nat.lt_irrefl _ (farther cycle)

theorem exists_taker (wired : p.Wired s) (waits : p.Waits s x y) :
    ∃ t i w, y = .worker t i ∧ p.worker? t i = some w ∧ s.capacity ≤ w.queue.length := by
  cases waits with
  | submit submits found full =>
    rw [wired.target_eq] at found
    exact ⟨_, _, _, rfl, (worker?_of_behind found).1, full⟩
  | hand here hands found full => exact ⟨_, _, _, rfl, (worker?_of_behind found).1, full⟩
  | tell stage here works full => exact ⟨_, _, _, rfl, here, full⟩

theorem blocked_of_busy (wired : p.Wired s) (here : p.worker? t i = some w) (busy : w.queue ≠ [])
    (stuck : p.work s c t i = none) : p.Blocked s c (.worker t i) := by
  have stuck' := stuck
  simp only [Plant.work, here, Option.bind_eq_bind, Option.bind_some] at stuck'
  cases act : w.activity with
  | stopped => exact absurd ((wired.wired here).empty act) busy
  | idle =>
    cases head : w.queue with
    | nil => exact absurd head busy
    | cons cmd rest => cases cmd <;> simp [act, head] at stuck'
  | storing d a =>
    simp only [act] at stuck'
    split at stuck' <;> cases stuck'
  | notifying d a stored =>
    simp only [act] at stuck'
    split at stuck' <;> cases stuck'
  | closing => simp [act] at stuck'
  | parting => simp [act] at stuck'
  | forwarding => exact .worker here act stuck

/-- From a worker that has something to do one comes to a worker that can do something. -/
theorem exists_work_of_busy (wired : p.Wired s) (roomy : 0 < s.capacity) (c : Collaborator σ)
    (here : p.worker? t i = some w) (busy : w.queue ≠ []) :
    ∃ r j, Relation.ReflTransGen (p.Waits s) (.worker t i) (.worker r j) ∧
      (p.work s c r j).isSome = true := by
  -- From the coarsest tier on: whoever is waited for stands at the next one, where the queue is full.
  refine Tier.descend (P := fun t => ∀ {i w}, p.worker? t i = some w → w.queue ≠ [] → ∃ r j,
    Relation.ReflTransGen (p.Waits s) (.worker t i) (.worker r j) ∧ (p.work s c r j).isSome = true)
    (fun t coarser {i w} here busy => ?_) t here busy
  cases move : p.work s c t i with
  | some q => exact ⟨t, i, .refl, by rw [move]; rfl⟩
  | none =>
    obtain ⟨y, waits⟩ := blocked_iff.1 (wired.blocked_of_busy here busy move)
    obtain ⟨g, j, taker, rfl, there, full⟩ := wired.exists_taker waits
    have next : t.next = some g := by
      cases waits with
      | hand here hands =>
        obtain ⟨g, next, rfl⟩ := Option.map_eq_some_iff.1 ((wired.wired here).onward hands)
        exact next
    have busy' : taker.queue ≠ [] := List.ne_nil_of_length_pos (roomy.trans_le full)
    obtain ⟨r, k, chain, works⟩ := coarser g next there busy'
    exact ⟨r, k, .head waits chain, works⟩

theorem exists_work_of_waits (wired : p.Wired s) (roomy : 0 < s.capacity) (c : Collaborator σ)
    (waits : p.Waits s x y) :
    ∃ r j, Relation.TransGen (p.Waits s) x (.worker r j) ∧ (p.work s c r j).isSome = true := by
  obtain ⟨t, i, taker, rfl, there, full⟩ := wired.exists_taker waits
  obtain ⟨r, j, chain, works⟩ :=
    wired.exists_work_of_busy roomy c there (List.ne_nil_of_length_pos (roomy.trans_le full))
  exact ⟨r, j, .head' waits chain, works⟩

end Wired

/-- **Full queues never bring a plant to a standstill.** Whatever has happened since a plant was started:
no queue holds more than there is room for, and if anything stands in one, some worker can do something.
Those that are blocked are those that wait for room in a queue. From each of them one comes, along those
that are waited for, to a worker that can do something. Nobody waits for himself in the end. -/
theorem never_stuck {sinks : σ} {board : Board} {now : Int} {start : Plant σ} {as : List Action} {h : History}
    (launched : Plant.launch s sinks board now = .ok start)
    (moves : Plant.follow s c as ([], start) = some (h, p)) :
    (∀ t i w, p.worker? t i = some w → w.queue.length ≤ s.capacity ∧
        (w.queue ≠ [] → ∃ r j q, p.step s c (.work r j) = some q)) ∧
      (∀ x, p.Blocked s c x ↔ ∃ y, p.Waits s x y) ∧
      (∀ x, p.Blocked s c x → ∃ r j q, Relation.TransGen (p.Waits s) x (.worker r j) ∧
        p.step s c (.work r j) = some q) ∧
      ∀ x, ¬ Relation.TransGen (p.Waits s) x x := by
  have wired := Wired.of_follow launched moves
  have roomy := Settings.capacity_pos_of_check (launch_eq_ok launched).1
  refine ⟨fun t i w here => ⟨(wired.wired here).bounded, fun busy => ?_⟩, fun x => blocked_iff,
    fun x blocked => ?_, wired.acyclic⟩
  · obtain ⟨r, j, -, works⟩ := wired.exists_work_of_busy roomy c here busy
    obtain ⟨q, move⟩ := Option.isSome_iff_exists.1 works
    exact ⟨r, j, q, move⟩
  · obtain ⟨y, waits⟩ := blocked_iff.1 blocked
    obtain ⟨r, j, chain, works⟩ := wired.exists_work_of_waits roomy c waits
    obtain ⟨q, move⟩ := Option.isSome_iff_exists.1 works
    exact ⟨r, j, q, chain, move⟩

end Plant

namespace Trial

def narrow : Settings := { settings with capacity := 1 }

/-- One sample stays at the finest tier. Of those that move on one fills the queue of the next tier, another
one waits for it to be taken up; one more fills the queue of the finest tier, and the last one waits for
that. -/
def crowding : List Action := List.flatten
  [[.begin, .receive (sample 0), .enter], List.replicate 4 (.work .raw 0),
    [.receive (sample 1000), .enter], List.replicate 6 (.work .raw 0),
    [.receive (sample 2000), .enter], List.replicate 4 (.work .raw 0),
    [.receive (sample 3000), .enter, .receive (sample 4000)]]

theorem crowding_isSome : (reach narrow [] crowding).isSome = true := by
  decide +kernel

def jammed : Plant Recorder := ((reach narrow [] crowding).get crowding_isSome).2

end Trial

/-- The loop and the worker of the finest tier are both blocked; the worker of the next tier is not. -/
theorem never_stuck_trial :
    (Trial.jammed.loop.submitting.isSome = true ∧ Trial.jammed.enter Trial.narrow = none) ∧
      Trial.jammed.work Trial.narrow Recorder.collaborator .raw 0 = none ∧
      ∃ r j q, Relation.TransGen (Trial.jammed.Waits Trial.narrow) .loop (.worker r j) ∧
        Trial.jammed.step Trial.narrow Recorder.collaborator (.work r j) = some q := by
  have usable : Trial.narrow.check = .ok () := by decide +kernel
  have submits : Trial.jammed.loop.submitting.isSome = true := by decide +kernel
  have stuck : (Trial.jammed.enter Trial.narrow).isNone = true := by decide +kernel
  have held : (Trial.jammed.work Trial.narrow Recorder.collaborator .raw 0).isNone = true := by
    decide +kernel
  obtain ⟨d, waits⟩ := Option.isSome_iff_exists.1 submits
  obtain ⟨-, -, moves, -⟩ :=
    Plant.never_stuck (Trial.launch_eq usable []) (Trial.follow_of_reach Trial.crowding_isSome)
  exact ⟨⟨submits, Option.isNone_iff_eq_none.1 stuck⟩, Option.isNone_iff_eq_none.1 held,
    moves .loop (.loop waits (Option.isNone_iff_eq_none.1 stuck))⟩

end TierCascade
