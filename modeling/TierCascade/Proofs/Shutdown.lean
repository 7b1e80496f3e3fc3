import TierCascade.Proofs.Closing
/-!
# Shutting down drains

From a point on nothing more is handed in, and the plant is shut down; what the workers still have to do
is done in whatever order they take turns. Everything that ever came to a queue is taken up before the
shutdown is over. The shutdown itself has a bounded number of steps to take (`Plant.stepsLeft`) and never
gets stuck, so it does get there (`Plant.shutdown_drains`).
-/

namespace TierCascade

/-- Whether an action is a step of a worker or of the shutdown. -/
def Action.winds : Action → Bool
  | .work .. | .shutdown => true
  | _ => false

/-! ### How far it is -/

def Tier.above (t : Tier) : List Tier := all.filter (t < ·)

theorem Tier.above_next {t g : Tier} (next : t.next = some g) : t.above = g :: g.above := by
  cases t <;> cases next <;> rfl

/-- The steps that the shutdown itself still has to take at most: a worker that is told has to obey. -/
def Closing.effort (s : Settings) : Closing → Nat
  | notYet => (Tier.all.map fun r => 2 * s.workersOf r + 1).sum + 1
  | halting t sent => 2 * (s.workersOf t - sent) + 1 + (t.above.map fun r => 2 * s.workersOf r + 1).sum
  | closed => 0

/-- The steps that workers and shutdown can still take at most. -/
def Plant.stepsLeft {σ : Type} (s : Settings) (p : Plant σ) : Nat := p.effort + p.closing.effort s

namespace Plant.Winding

variable {σ : Type} {s : Settings} {c : Collaborator σ} {h : History} {p q : Plant σ} {t : Tier} {i : Nat}

theorem length_pool (winding : p.Winding s h) (t : Tier) : (p.pools.get t).length = s.workersOf t := by
  have size := winding.orderly.size t
  rwa [roused, PerTier.get_of, List.length_map] at size

theorem lt_workersOf {w : Worker} (winding : p.Winding s h) (here : p.worker? t i = some w) : i < s.workersOf t :=
  winding.length_pool t ▸ lt_length_of_worker? p here

theorem shutdown_lt (winding : p.Winding s h) (move : p.shutdown s = some q) :
    q.stepsLeft s < p.stepsLeft s := by
  have told : ∀ {t sent}, sent < s.workersOf t →
      (Closing.halting t (sent + 1)).effort s + 2 = (Closing.halting t sent).effort s := by
    intro t sent inside
    rw [Closing.effort, Closing.effort]
    omega
  rw [stepsLeft, stepsLeft]
  cases shutdownStep_of_shutdown move with
  | begin stage =>
    rw [stage]
    exact Nat.add_lt_add_left (Nat.lt_succ_self _) p.effort
  | skip stage here =>
    rw [stage, ← told (winding.lt_workersOf here)]
    exact Nat.add_lt_add_left (Nat.lt_add_of_pos_right Nat.two_pos) p.effort
  | @tell t sent w stage here works room =>
    obtain ⟨rest, before, after⟩ := p.exists_total_eq Worker.effort here
    have more : (p.setWorker t sent (w.push .halt)).effort = p.effort + 1 := by
      rw [effort, effort, after, before, Worker.effort_push]
      exact Nat.add_right_comm ..
    rw [stage, ← told (winding.lt_workersOf here)]
    change (p.setWorker t sent (w.push .halt)).effort + (Closing.halting t (sent + 1)).effort s < _
    rw [more]
    omega
  | turn stage next =>
    rw [stage]
    refine Nat.add_lt_add_left ?_ p.effort
    simp only [Closing.effort, Tier.above_next next, List.map_cons, List.sum_cons]
    omega
  | finish stage =>
    rw [stage]
    exact Nat.add_lt_add_left (Nat.lt_add_right _ (Nat.succ_pos _)) p.effort

/-- **Every step of a worker or of the shutdown gets closer to the end.** -/
theorem stepsLeft_lt (winding : p.Winding s h) {a : Action} (winds : a.winds = true)
    (move : p.step s c a = some q) : q.stepsLeft s < p.stepsLeft s := by
  cases a with
  | work t i =>
    rw [stepsLeft, (work_frame move).closing]
    exact Nat.add_lt_add_right (winding.linked.effort_work move) _
  | shutdown =>
    rw [Plant.step] at move
    split at move
    · cases move
    · exact winding.shutdown_lt move
  | _ => cases winds

/-- **The shutdown does not get stuck.** -/
theorem exists_step (winding : p.Winding s h) (roomy : 0 < s.capacity) (open_ : p.closing ≠ .closed)
    (idle : p.loop.running = false) : ∃ a q, a.winds = true ∧ p.step s c a = some q := by
  by_cases still : p.Still s c
  · -- All workers are done, so the next one can be told, or all of the tier have stopped.
    suffices moves : ∃ q, p.shutdown s = some q by
      obtain ⟨q, move⟩ := moves
      exact ⟨.shutdown, q, rfl, by rw [Plant.step, idle]; exact move⟩
    unfold Plant.shutdown
    cases stage : p.closing with
    | closed => exact absurd stage open_
    | notYet => exact ⟨_, rfl⟩
    | halting t sent =>
      cases here : p.worker? t sent with
      | some w =>
        have rests := winding.linked.rests_of_still roomy still here
        simp only [here]
        rcases rests with ⟨-, empty⟩ | stopped
        · split
          · exact ⟨_, rfl⟩
          · rw [if_pos (by rw [empty]; exact roomy)]
            exact ⟨_, rfl⟩
        · rw [if_pos (by rw [Worker.isStopped, stopped])]
          exact ⟨_, rfl⟩
      | none =>
        have all : (p.pools.get t).all Worker.isStopped = true := by
          refine List.all_eq_true.2 fun w mem => ?_
          obtain ⟨i, there⟩ := List.getElem?_of_mem mem
          have told : i < sent :=
            (lt_length_of_worker? p there).trans_le (List.getElem?_eq_none_iff.1 here)
          have obeys := winding.obeys.stands there
          rw [stage, Closing.order, if_neg (lt_irrefl t), if_pos ⟨rfl, told⟩] at obeys
          rcases winding.linked.rests_of_still roomy still there with ⟨free, empty⟩ | stopped
          · cases obeys with
            | told _ queue => cases (List.append_eq_nil_iff.1 (queue.symm.trans empty)).2
            | left stopped => cases free.symm.trans stopped
          · rw [Worker.isStopped, stopped]
        simp only [here, if_pos all]
        exact ⟨_, rfl⟩
  · simp only [Still, not_forall, ← Option.isSome_iff_ne_none] at still
    obtain ⟨t, i, moves⟩ := still
    obtain ⟨q, move⟩ := Option.isSome_iff_exists.1 moves
    exact ⟨.work t i, q, rfl, move⟩

theorem length_le (winding : p.Winding s h) {as : List Action} (winds : ∀ a ∈ as, a.winds = true)
    {h' : History} (moves : follow s c as (h, p) = some (h', q)) : as.length + q.stepsLeft s ≤ p.stepsLeft s := by
  induction as generalizing h p with
  | nil =>
    cases moves
    exact (Nat.zero_add _).le
  | cons a as ih =>
    rw [follow] at moves
    cases move : p.step s c a with
    | none =>
      rw [move] at moves
      cases moves
    | some mid =>
      rw [move] at moves
      have first := winds a List.mem_cons_self
      have idle : a.submits = false := by cases a <;> first | rfl | cases first
      have later := ih (winding.step idle move) (fun b mem => winds b (List.mem_cons_of_mem a mem)) moves
      have less := winding.stepsLeft_lt first move
      rw [List.length_cons]
      omega

/-- **Once the plant is closed, all that came to a tier was taken up.** -/
theorem came_of_closed (winding : p.Winding s h) (closed : p.closing = .closed) (t : Tier) :
    (h.came t).Perm (h.handled t) := by
  refine winding.queued.came_perm fun x => ?_
  rw [lane_roused]
  cases here : p.worker? t (s.place t x) with
  | none =>
    rw [lane, here]
    rfl
  | some w =>
    have obeys := winding.obeys.stands here
    rw [closed] at obeys
    cases obeys with
    | gone _ empty =>
      rw [lane_of_worker here, Worker.lane, empty]
      rfl

end Plant.Winding

/-! ### From the last delivery on -/

namespace Plant

variable {σ : Type} {s : Settings} {c : Collaborator σ} {h h' : History} {p q start : Plant σ} {as bs : List Action}

theorem orderly_of_follow {sinks : σ} {board : Board} {now : Int}
    (launched : Plant.launch s sinks board now = .ok start) (stays : ∀ a ∈ as, a.closes = false)
    (moves : follow s c as ([], start) = some (h, p)) :
    p.Orderly s ∧ p.Queued s h ∧ p.closing = .notYet := by
  refine @follow_keeps _ s c (fun h _ p => p.Orderly s ∧ p.Queued s h ∧ p.closing = .notYet) _ ?_ as stays [] h []
    start p moves ⟨?_, .launch launched, ?_⟩
  · rintro h xs p a q stays move ⟨orderly, queued, notYet⟩
    obtain ⟨orderly', lanes⟩ := orderly.step stays move
    exact ⟨orderly', queued.moves lanes, (closing_of_step stays move).trans notYet⟩
  · obtain ⟨usable, j, rfl⟩ := launch_eq_ok launched
    exact (orderly_new usable sinks board now).of_pools rfl
  · obtain ⟨-, j, rfl⟩ := launch_eq_ok launched
    rfl

theorem Winding.follow (winding : p.Winding s h) (idle : ∀ b ∈ bs, b.submits = false)
    (moves : Plant.follow s c bs (h, p) = some (h', q)) : q.Winding s h' ∧ ∃ since, h' = h ++ since := by
  refine @follow_keeps _ s c (fun h' _ p => p.Winding s h' ∧ ∃ since, h' = h ++ since) _ ?_ bs idle h h' [] p q
    moves ⟨winding, [], (List.append_nil h).symm⟩
  rintro h₁ xs p a q idle move ⟨winding, since, rfl⟩
  exact ⟨winding.step idle move, _, List.append_assoc ..⟩

/-- **Shutting down drains.** Take a plant at any point at which nobody shuts it down yet, and let nothing
more be handed in. Whatever happens from then on: nothing is ever put behind an order to stop, whoever
hands a sample on finds a worker that takes it, and a worker that stops throws no ticket away. Once the
plant is closed all workers have stopped and hold nothing, and at every tier just those deliveries have
been taken up that waited at first or were handed on since. Until then, unless another run is begun, some
worker or the shutdown itself can take a step, and they can take only so many. -/
theorem shutdown_drains {sinks : σ} {board : Board} {now : Int}
    (launched : Plant.launch s sinks board now = .ok start) (stays : ∀ a ∈ as, a.closes = false)
    (served : Plant.follow s c as ([], start) = some (h, p)) (idle : ∀ b ∈ bs, b.submits = false)
    (moves : Plant.follow s c bs (h, p) = some (h', q)) :
    (∀ {t i w}, q.worker? t i = some w →
      (∃ ds : List Delivery, w.queue = ds.map .process ∨ w.queue = ds.map .process ++ [.halt]) ∧
      (∀ {d onward gate}, w.activity = .forwarding d onward gate →
        ∃ j taker, q.behind gate onward.sample.series = .ok (j, taker)) ∧
      (w.activity = .idle → w.queue.head? = some .halt →
        ∃ r, q.work s c t i = some r ∧ r.tickets = q.tickets)) ∧
    (q.closing = .closed → (∀ {t i w}, q.worker? t i = some w → w.activity = .stopped ∧ w.queue = []) ∧
      ∃ since, h' = h ++ since ∧ ∀ t, (p.waitingAt t ++ since.came t).Perm (since.handled t)) ∧
    (q.closing ≠ .closed → q.loop.running = false → ∃ a r, a.winds = true ∧ q.step s c a = some r) ∧
    ∀ {cs h'' r}, (∀ a ∈ cs, a.winds = true) → Plant.follow s c cs (h', q) = some (h'', r) →
      cs.length ≤ q.stepsLeft s := by
  obtain ⟨orderly, queued, notYet⟩ := orderly_of_follow launched stays served
  obtain ⟨winding, since, rfl⟩ := (Winding.of_orderly orderly queued notYet).follow idle moves
  refine ⟨fun {t i w} here => ⟨(winding.obeys.stands here).queue_eq, fun hands => ?_, fun free head => ?_⟩,
    fun closed => ⟨fun {t i w} here => ?_, since, rfl, fun t => ?_⟩, fun open_ ended => ?_,
    fun winds more => ?_⟩
  · obtain ⟨j, taker, -, -, -, reached⟩ := winding.taker here hands
    exact ⟨j, taker, reached⟩
  · obtain ⟨rest, queue⟩ := List.head?_eq_some_iff.1 head
    obtain ⟨-, stops, -, -⟩ := winding.stop_eq (c := c) here free queue
    exact ⟨_, stops, rfl⟩
  · have obeys := winding.obeys.stands here
    rw [closed] at obeys
    cases obeys with
    | gone stopped empty => exact ⟨stopped, empty⟩
  · -- What came and was taken up before cancels.
    have all := winding.came_of_closed closed t
    have before := queued.came_perm_waiting orderly t
    rw [History.came_append, History.handled, History.met_append, ← History.handled, ← History.handled] at all
    have sorted := ((before.append_right _).symm.trans all)
    rwa [List.append_assoc, List.perm_append_left_iff] at sorted
  · exact winding.exists_step (Settings.capacity_pos_of_check (launch_eq_ok launched).1) open_ ended
  · exact (Nat.le_add_right ..).trans (winding.length_le winds more)

end Plant

namespace Trial

/-- One sample is dealt with, another one waits when the run is interrupted. -/
def served : List Action := List.flatten
  [[.begin, .receive (sample 0), .enter], List.replicate 4 (.work .raw 0),
    [.receive (sample 1000), .enter, .interrupt]]

theorem served_isSome : (reach settings [] served).isSome = true := by
  decide +kernel

def interrupted : History × Plant Recorder := (reach settings [] served).get served_isSome

/-- The first worker is told to stop while the sample waits. It hands it on to the second one before it
does, and that one is told in turn. -/
def closingDown : List Action := List.flatten
  [[.shutdown, .shutdown], List.replicate 7 (.work .raw 0), [.shutdown], List.replicate 4 (.work .minute 0),
    [Tier.minute, .hour, .day, .week, .month].flatMap fun t => [.shutdown, .work t 0, .shutdown]]

theorem closingDown_isSome :
    (Plant.follow settings Recorder.collaborator closingDown interrupted).isSome = true := by
  decide +kernel

def closedDown : History × Plant Recorder :=
  (Plant.follow settings Recorder.collaborator closingDown interrupted).get closingDown_isSome

end Trial

/-- The sample that waits when the shutdown begins gets as far as the second tier. -/
theorem shutdown_drains_trial :
    Trial.closedDown.2.closing = .closed ∧ (Trial.interrupted.2.waitingAt .raw).length = 1 ∧
      ∃ since, Trial.closedDown.1 = Trial.interrupted.1 ++ since ∧
        (since.handled .raw).Perm (Trial.interrupted.2.waitingAt .raw) ∧
        (since.came .minute).Perm (since.handled .minute) := by
  have usable : Trial.settings.check = .ok () := by decide +kernel
  have closed : Trial.closedDown.2.closing = .closed := by decide +kernel
  have moves : Plant.follow Trial.settings Recorder.collaborator Trial.closingDown
      (Trial.interrupted.1, Trial.interrupted.2) = some (Trial.closedDown.1, Trial.closedDown.2) :=
    (Option.some_get Trial.closingDown_isSome).symm
  have served : Plant.follow Trial.settings Recorder.collaborator Trial.served
      ([], Trial.start Trial.settings []) = some (Trial.interrupted.1, Trial.interrupted.2) :=
    Trial.follow_of_reach Trial.served_isSome
  obtain ⟨-, drained, -, -⟩ := Plant.shutdown_drains (Trial.launch_eq usable []) (by decide) served
    (by decide) moves
  obtain ⟨-, since, all, handled⟩ := drained closed
  refine ⟨closed, by decide +kernel, since, all, ?_, ?_⟩
  · have none : since.came .raw = [] := by
      have came : Trial.closedDown.1.came .raw = Trial.interrupted.1.came .raw := by decide +kernel
      rw [all, History.came_append] at came
      exact List.append_right_eq_self.1 came
    have raw := handled .raw
    rw [none, List.append_nil] at raw
    exact raw.symm
  · have minute := handled .minute
    have none : Trial.interrupted.2.waitingAt .minute = [] := by decide +kernel
    rwa [none, List.nil_append] at minute

end TierCascade
