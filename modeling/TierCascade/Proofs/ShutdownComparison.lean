import TierCascade.Proofs.Progress
import TierCascade.Proofs.Queues
/-!
# As if nobody had been told to stop

A plant that is being shut down differs from one that is not only in the orders to stop and in the
workers that have obeyed. Rouse these and leave the orders out, and what the others do is the same
(`Plant.work_roused`): so all that is known of workers and lanes goes for a plant that is being shut down
as well.
-/

namespace TierCascade

def Command.halts : Command → Bool
  | process _ => false
  | halt => true

def Activity.roused : Activity → Activity
  | stopped => idle
  | act => act

theorem Activity.roused_of_works {act : Activity} (works : act ≠ .stopped) : act.roused = act := by
  cases act with
  | stopped => exact absurd rfl works
  | _ => rfl

/-- A worker as if it had not been told to stop. -/
def Worker.roused (w : Worker) : Worker :=
  { w with queue := w.queue.filter fun cmd => !cmd.halts, activity := w.activity.roused }

/-- A plant as if nobody in it had been told to stop. -/
def Plant.roused {σ : Type} (p : Plant σ) : Plant σ :=
  { p with pools := .of fun t => (p.pools.get t).map Worker.roused }

namespace Worker

variable {w : Worker} {t : Tier}

theorem roused_of_serves (works : w.activity ≠ .stopped) (queue : ∀ cmd ∈ w.queue, cmd.halts = false) :
    w.roused = w := by
  have all : (w.queue.filter fun cmd => !cmd.halts) = w.queue :=
    List.filter_eq_self.2 fun cmd mem => by rw [queue cmd mem]; rfl
  rw [roused, all, Activity.roused_of_works works]

theorem roused_push (w : Worker) (d : Delivery) :
    (w.push (.process d)).roused = w.roused.push (.process d) := by
  simp [roused, push, Command.halts]

theorem deliveries_roused (w : Worker) : Command.deliveries w.roused.queue = Command.deliveries w.queue := by
  rw [roused, Command.deliveries, Command.deliveries, List.filterMap_filter]
  congr 1
  funext cmd
  cases cmd <;> rfl

/-- A lane does not know of orders to stop. -/
theorem lane_roused (w : Worker) (t : Tier) (x : Series) : w.roused.lane t x = w.lane t x := by
  have hand : w.roused.activity.hand t = w.activity.hand t := by
    rw [roused]
    cases w.activity <;> rfl
  rw [lane, lane, deliveries_roused, hand]
  rfl

end Worker

namespace Plant

variable {σ : Type} {s : Settings} {c : Collaborator σ} {p q : Plant σ} {t : Tier} {i : Nat} {w : Worker}

theorem worker?_roused (p : Plant σ) (t : Tier) (i : Nat) :
    p.roused.worker? t i = (p.worker? t i).map Worker.roused := by
  rw [worker?, roused, PerTier.get_of, List.getElem?_map, worker?]

theorem roused_setWorker (p : Plant σ) (t : Tier) (i : Nat) (w : Worker) :
    (p.setWorker t i w).roused = p.roused.setWorker t i w.roused := by
  have pools : (PerTier.of fun r => ((p.setWorker t i w).pools.get r).map Worker.roused)
      = (p.roused.setWorker t i w.roused).pools := by
    refine PerTier.ext fun r => ?_
    rw [PerTier.get_of]
    by_cases same : r = t
    · subst same
      rw [pools_setWorker_self, pools_setWorker_self, roused, PerTier.get_of, List.map_set]
    · rw [pools_setWorker_of_ne _ _ same, pools_setWorker_of_ne _ _ same, roused, PerTier.get_of]
  rw [roused, pools]
  rfl

theorem lane_roused (s : Settings) (p : Plant σ) (t : Tier) (x : Series) :
    p.roused.lane s t x = p.lane s t x := by
  rw [lane, lane, worker?_roused, Option.map_map]
  cases p.worker? t (s.place t x) with
  | none => rfl
  | some w => exact w.lane_roused t x

theorem roused_of_pools (pools : q.pools = p.pools) : q.roused.pools = p.roused.pools := by
  rw [roused, roused, pools]

/-! ### A step of a worker -/

theorem behind_roused {gate : Gate} {x : Series} {j : Nat} {taker : Worker}
    (found : p.behind gate x = .ok (j, taker)) (serves : taker.roused = taker) :
    p.roused.behind gate x = .ok (j, taker) := by
  unfold behind at found ⊢
  simp only at found ⊢
  by_cases inside : gate.routing.route x < gate.queues
  · rw [if_pos inside] at found ⊢
    rw [worker?_roused]
    cases here : p.worker? gate.tier (gate.routing.route x) with
    | none =>
      rw [here] at found
      cases found
    | some w =>
      rw [here] at found
      simp only [Option.map_some] at found ⊢
      split at found
      · cases found
      · cases found
        rw [serves, if_neg ‹_›]
  · rw [if_neg inside] at found
    cases found

/-- What a worker does to its own place it does to it in the roused plant. -/
private theorem roused_eq {r : Plant σ} (pools : q.pools = (p.setWorker t i w).pools)
    (pools' : r.pools = (p.roused.setWorker t i w.roused).pools) (rest : { q with pools := r.pools } = r) :
    q.roused = r := by
  have same : q.roused.pools = r.pools := by
    rw [roused_of_pools pools, roused_setWorker, pools']
  rw [← rest, ← same]
  rfl

theorem roused_take (p : Plant σ) (t : Tier) (i : Nat) (w : Worker) (d : Delivery) :
    (p.take t i w d).roused = p.roused.take t i w.roused d := by
  cases result : w.stage.process d.sample with
  | error f =>
    have result' : w.roused.stage.process d.sample = .error f := result
    obtain ⟨-, rfl⟩ := Stage.process_eq_error result
    simp only [take, result, result', Failure.failsUnit, Bool.false_eq_true, if_false]
    exact roused_eq (w := w) rfl rfl rfl
  | ok made =>
    obtain ⟨a, stage⟩ := made
    have result' : w.roused.stage.process d.sample = .ok (a, stage) := result
    have opens : w.roused.stage.opens d.sample.series = w.stage.opens d.sample.series := rfl
    simp only [take, result, result', opens]
    by_cases new : w.stage.opens d.sample.series = true <;>
      by_cases anomaly : a.isAnomaly = true <;>
      simp only [new, anomaly, if_true, Bool.false_eq_true, if_false] <;>
      exact roused_eq (w := { w with stage, activity := .storing d a }) rfl rfl rfl

theorem roused_close (p : Plant σ) (t : Tier) (i : Nat) (w : Worker) (d : Delivery) (a : Aggregate)
    (receipt : Receipt) : (p.close t i w d a receipt).roused = p.roused.close t i w.roused d a receipt := by
  have window : w.roused.stage.closeWindow a d.replay = w.stage.closeWindow a d.replay := rfl
  have ahead : w.roused.ahead = w.ahead := rfl
  simp only [close, window, ahead]
  split
  · exact roused_eq (w := ⟨_, w.queue, .forwarding d _ _, w.ahead⟩) rfl rfl rfl
  · exact roused_eq (w := ⟨_, w.queue, .idle, w.ahead⟩) rfl rfl rfl

/-- Those that hand a sample on do so to a worker that nobody has told to stop. -/
def Serves (p : Plant σ) : Prop :=
  ∀ {t i w d onward gate j taker}, p.worker? t i = some w → w.activity = .forwarding d onward gate →
    p.behind gate onward.sample.series = .ok (j, taker) →
      p.worker? gate.tier j = some taker ∧ taker.roused = taker

/-- **A worker that does not stop does the same in the roused plant.** -/
theorem work_roused (linked : p.Linked) (serves : p.Serves) (move : p.work s c t i = some q) :
    (∃ w rest, p.worker? t i = some w ∧ w.activity = .idle ∧ w.queue = .halt :: rest) ∨
      p.roused.work s c t i = some q.roused ∧ p.roused.workDeeds s c t i = p.workDeeds s c t i := by
  unfold work at move
  cases here : p.worker? t i with
  | none => simp [here] at move
  | some w =>
    simp only [here, Option.bind_eq_bind, Option.bind_some] at move
    have here' : p.roused.worker? t i = some w.roused := by rw [worker?_roused, here]; rfl
    simp only [work, workDeeds, here', here, Option.bind_eq_bind, Option.bind_some]
    obtain ⟨stage, queue, act, ahead⟩ := w
    cases act with
    | stopped => cases move
    | idle =>
      rcases queue with - | ⟨d | _, rest⟩ <;> cases move
      · exact .inr ⟨congrArg some (p.roused_take t i ⟨stage, rest, .idle, ahead⟩ d).symm, rfl⟩
      · exact .inl ⟨_, rest, rfl, rfl, rfl⟩
    | storing d a =>
      refine .inr ⟨?_, rfl⟩
      simp only at move
      have call : s.dispatch.issue c .store a p.roused.sinks = s.dispatch.issue c .store a p.sinks := rfl
      simp only [Worker.roused, Activity.roused, call]
      split at move <;> cases move
      · refine congrArg some (Eq.symm ?_)
        exact roused_eq (p := p) (t := t) (i := i) (w := ⟨stage, queue, .notifying d a _, ahead⟩) rfl rfl rfl
      · refine congrArg some (Eq.symm ?_)
        exact roused_eq (p := p) (t := t) (i := i) (w := ⟨stage, queue, .idle, ahead⟩) rfl rfl rfl
    | notifying d a stored =>
      refine .inr ⟨?_, rfl⟩
      simp only at move
      have call : s.dispatch.issue c .notifier a p.roused.sinks = s.dispatch.issue c .notifier a p.sinks := rfl
      simp only [Worker.roused, Activity.roused, call]
      split at move <;> cases move
      · refine congrArg some (Eq.symm ?_)
        exact roused_eq (p := p) (t := t) (i := i) (w := ⟨stage, queue, .closing d a _, ahead⟩) rfl rfl rfl
      · refine congrArg some (Eq.symm ?_)
        exact roused_eq (p := p) (t := t) (i := i) (w := ⟨stage, queue, .idle, ahead⟩) rfl rfl rfl
    | closing d a receipt =>
      cases move
      exact .inr ⟨congrArg some (p.roused_close t i ⟨stage, queue, .closing d a receipt, ahead⟩ d a receipt).symm,
        rfl⟩
    | forwarding d onward gate =>
      obtain ⟨j, taker, -, -, -, reached⟩ := linked.taker here rfl
      obtain ⟨there, serving⟩ := serves here rfl reached
      have reached' := behind_roused reached serving
      simp only [forward, reached] at move
      simp only [Worker.roused, Activity.roused, forward, forwardDeeds, reached, reached']
      split at move <;> cases move
      rename_i room
      simp only [if_pos room]
      refine .inr ⟨congrArg some ?_, trivial⟩
      rw [roused_setWorker, roused_setWorker, Worker.roused_push, serving]
      rfl
    | parting d =>
      cases move
      refine .inr ⟨congrArg some (Eq.symm ?_), rfl⟩
      exact roused_eq (p := p) (t := t) (i := i) (w := ⟨stage, queue, .idle, ahead⟩) rfl rfl rfl

end Plant

end TierCascade
