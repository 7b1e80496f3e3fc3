import TierCascade.Proofs.ShutdownComparison
/-!
# Shutting down

Tiers are stopped one after the other, finest first, each worker by an order at the end of its queue. The
next tier is turned to only when all workers of this one have stopped, so at every point the shutdown
says how each worker stands (`Closing.order`, `Worker.Obeys`): the workers of the finer tiers are gone,
those of the tier at hand that were told stop once they have done what stood before the order, and all
others serve. Whoever hands something on therefore finds a worker that serves, and nothing is ever put
behind an order to stop (`Plant.Winding.step`).
-/

namespace TierCascade

/-- How a worker is to stand while the plant is being shut down. -/
inductive Order where
  | serve
  | leave
  | gone
  deriving DecidableEq

def Closing.order (c : Closing) (t : Tier) (i : Nat) : Order :=
  match c with
  | .notYet => .serve
  | .halting r sent => if t < r then .gone else if t = r ∧ i < sent then .leave else .serve
  | .closed => .gone

/-- A worker that serves was not told to stop; one that is to leave has an order to stop at the end of its
queue, or has obeyed it; and one that is gone has left nothing behind. -/
inductive Worker.Obeys (w : Worker) : Order → Prop where
  | serves (works : w.activity ≠ .stopped) (queue : ∀ cmd ∈ w.queue, cmd.halts = false) : Obeys w .serve
  | told {ds : List Delivery} (works : w.activity ≠ .stopped) (queue : w.queue = ds.map .process ++ [.halt]) :
      Obeys w .leave
  | left (stopped : w.activity = .stopped) (empty : w.queue = []) : Obeys w .leave
  | gone (stopped : w.activity = .stopped) (empty : w.queue = []) : Obeys w .gone

namespace Closing

variable {c : Closing} {t g : Tier} {i j : Nat}

/-- As long as a worker is there, all workers of the next tier serve. -/
theorem order_next (next : t.next = some g) (there : c.order t i ≠ .gone) (j : Nat) : c.order g j = .serve := by
  cases c with
  | notYet => rfl
  | closed => exact absurd rfl there
  | halting r sent =>
    have behind : ¬ t < r := fun finer => there (if_pos finer)
    have ahead : r < g := lt_of_le_of_lt (not_lt.1 behind) (Tier.lt_next next)
    rw [order, if_neg (not_lt.2 (le_of_lt ahead)), if_neg fun same => ne_of_gt ahead same.1]

theorem order_tell (r t : Tier) (sent i : Nat) : (halting r (sent + 1)).order t i
    = if t = r ∧ i = sent then .leave else (halting r sent).order t i := by
  by_cases finer : t < r
  · simp [order, finer, ne_of_lt finer]
  · by_cases same : t = r
    · subst same
      by_cases last : i = sent
      · simp [order, last]
      · have before : i < sent + 1 ↔ i < sent := by omega
        simp [order, last, before]
    · simp [order, finer, same]

theorem order_turn {r : Tier} (t : Tier) {sent i : Nat} (next : r.next = some g) :
    (halting g 0).order t i = if t = r then .gone else (halting r sent).order t i := by
  have ahead := Tier.lt_next next
  by_cases same : t = r
  · simp [order, same, ahead]
  · by_cases finer : t < r
    · simp [order, same, finer, finer.trans ahead]
    · have coarser : ¬ t < g := fun before => same (le_antisymm (Tier.le_of_lt_next next before) (not_lt.1 finer))
      simp [order, same, finer, coarser]

theorem order_end {r : Tier} (t : Tier) {sent i : Nat} (last : r.next = none) :
    closed.order t i = if t = r then .gone else (halting r sent).order t i := by
  by_cases same : t = r
  · simp [order, same]
  · have finer : t < r := lt_of_le_of_ne (Tier.le_of_next_eq_none last t) same
    simp [order, same, finer]

end Closing

namespace Worker.Obeys

variable {w w' : Worker} {o : Order} {d : Delivery} {rest : List Command}

theorem ne_gone (obeys : w.Obeys o) (works : w.activity ≠ .stopped) : o ≠ .gone := by
  rintro rfl
  cases obeys with
  | gone stopped => exact works stopped

theorem keep (obeys : w.Obeys o) (was : w.activity ≠ .stopped) (works : w'.activity ≠ .stopped)
    (queue : w'.queue = w.queue) : w'.Obeys o := by
  cases obeys with
  | serves _ all => exact .serves works (queue ▸ all)
  | told _ all => exact .told works (queue.trans all)
  | left stopped => exact absurd stopped was
  | gone stopped => exact absurd stopped was

theorem take (obeys : w.Obeys o) (works : w'.activity ≠ .stopped) (head : w.queue = .process d :: w'.queue) :
    w'.Obeys o := by
  cases obeys with
  | serves _ all => exact .serves works fun cmd mem => all cmd (head ▸ List.mem_cons_of_mem _ mem)
  | @told ds _ all =>
    rw [head] at all
    cases ds with
    | nil => cases all
    | cons d' ds => exact .told works (List.cons.inj all).2
  | left _ empty => cases head.symm.trans empty
  | gone _ empty => cases head.symm.trans empty

theorem push (obeys : w.Obeys .serve) (d : Delivery) : (w.push (.process d)).Obeys .serve := by
  cases obeys with
  | serves works all =>
    refine .serves works fun cmd mem => ?_
    rcases List.mem_append.1 mem with old | new
    · exact all cmd old
    · rw [List.mem_singleton.1 new]
      rfl

theorem serving (obeys : w.Obeys .serve) : w.activity ≠ .stopped ∧ w.roused = w := by
  cases obeys with
  | serves works all => exact ⟨works, roused_of_serves works all⟩

theorem queue_eq (obeys : w.Obeys o) :
    ∃ ds : List Delivery, w.queue = ds.map .process ∨ w.queue = ds.map .process ++ [.halt] := by
  cases obeys with
  | serves _ all =>
    refine ⟨Command.deliveries w.queue, .inl ?_⟩
    generalize w.queue = queue at all
    induction queue with
    | nil => rfl
    | cons cmd rest ih =>
      have first := all cmd List.mem_cons_self
      have later := ih fun cmd mem => all cmd (List.mem_cons_of_mem _ mem)
      cases cmd with
      | process d => exact congrArg (.process d :: ·) later
      | halt => cases first
  | told _ all => exact ⟨_, .inr all⟩
  | left _ empty => exact ⟨[], .inl empty⟩
  | gone _ empty => exact ⟨[], .inl empty⟩

/-- Nothing stands behind an order to stop. -/
theorem alone (obeys : w.Obeys o) (head : w.queue = .halt :: rest) : o = .leave ∧ rest = [] := by
  cases obeys with
  | serves _ all => cases all .halt (head ▸ List.mem_cons_self)
  | @told ds _ all =>
    rw [head] at all
    cases ds with
    | nil => exact ⟨rfl, (List.cons.inj all).2⟩
    | cons d ds => cases all
  | left _ empty => cases head.symm.trans empty
  | gone _ empty => cases head.symm.trans empty

theorem empty_of_stopped (obeys : w.Obeys o) (stopped : w.activity = .stopped) : w.queue = [] := by
  cases obeys with
  | serves works => exact absurd stopped works
  | told works => exact absurd stopped works
  | left _ empty => exact empty
  | gone _ empty => exact empty

end Worker.Obeys

/-! ### Plants -/

/-- Whether an action hands something to the workers. -/
def Action.submits : Action → Bool
  | .enter => true
  | _ => false

namespace Plant

variable {σ : Type} {s : Settings} {c : Collaborator σ} {h : History} {p q : Plant σ} {t g : Tier} {i : Nat}
  {w : Worker}

theorem pools_setWorker_of_same (here : p.worker? t i = some w) : (p.setWorker t i w).pools = p.pools := by
  refine PerTier.ext fun r => ?_
  by_cases same : r = t
  · subst same
    obtain ⟨inside, rfl⟩ := List.getElem?_eq_some_iff.1 here
    rw [pools_setWorker_self, List.set_getElem_self]
  · rw [pools_setWorker_of_ne p w same]

structure Obedient (p : Plant σ) : Prop where
  stands : ∀ {t i w}, p.worker? t i = some w → w.Obeys (p.closing.order t i)

theorem Obedient.set (obeys : p.Obedient) (here : p.worker? t i = some w) (w' : Worker)
    (pools : q.pools = (p.setWorker t i w').pools) (closing : q.closing = p.closing)
    (own : w'.Obeys (p.closing.order t i)) : q.Obedient := by
  refine ⟨fun {r j v} there => ?_⟩
  rw [closing]
  rw [worker?, pools] at there
  rcases worker?_setWorker p here there with ⟨rfl, rfl, rfl⟩ | ⟨-, before⟩
  · exact own
  · exact obeys.stands before

theorem Obedient.of_pools (obeys : p.Obedient) (pools : q.pools = p.pools) (closing : q.closing = p.closing) :
    q.Obedient :=
  ⟨fun there => by rw [worker?, pools] at there; rw [closing]; exact obeys.stands there⟩

/-- What a step of the shutdown comes to: it begins; the next worker is told to stop, or has stopped already;
or all workers of the tier have stopped, and the next tier is turned to, or there is none. -/
inductive ShutdownStep (s : Settings) (p : Plant σ) : Plant σ → Prop where
  | begin (stage : p.closing = .notYet) : ShutdownStep s p { p with closing := .halting .raw 0 }
  | skip {t : Tier} {sent : Nat} {w : Worker} (stage : p.closing = .halting t sent)
      (here : p.worker? t sent = some w) (stopped : w.isStopped = true) :
      ShutdownStep s p { p with closing := .halting t (sent + 1) }
  | tell {t : Tier} {sent : Nat} {w : Worker} (stage : p.closing = .halting t sent)
      (here : p.worker? t sent = some w) (works : w.isStopped = false) (room : w.queue.length < s.capacity) :
      ShutdownStep s p ({ p with closing := .halting t (sent + 1) }.setWorker t sent (w.push .halt))
  | turn {t g : Tier} {sent : Nat} (stage : p.closing = .halting t sent) (next : t.next = some g)
      (told : p.worker? t sent = none) (stopped : (p.pools.get t).all Worker.isStopped = true) :
      ShutdownStep s p { p with closing := .halting g 0 }
  | finish {t : Tier} {sent : Nat} (stage : p.closing = .halting t sent) (last : t.next = none)
      (told : p.worker? t sent = none) (stopped : (p.pools.get t).all Worker.isStopped = true) :
      ShutdownStep s p { p with closing := .closed }

theorem shutdownStep_of_shutdown (move : p.shutdown s = some q) : ShutdownStep s p q := by
  unfold shutdown at move
  cases stage : p.closing with
  | closed => simp [stage] at move
  | notYet =>
    simp only [stage, Option.some.injEq] at move
    exact move ▸ .begin stage
  | halting t sent =>
    simp only [stage] at move
    cases here : p.worker? t sent with
    | some w =>
      simp only [here] at move
      split at move
      · cases move
        exact .skip stage here ‹_›
      · split at move <;> cases move
        exact .tell stage here (Bool.not_eq_true _ ▸ ‹¬w.isStopped = true›) ‹_›
    | none =>
      simp only [here] at move
      split at move <;> cases move
      cases next : t.next with
      | some g => exact .turn stage next here ‹_›
      | none => exact .finish stage next here ‹_›

/-- What holds while a plant is being shut down, and before. Its workers stand as the shutdown has it, and
but for that the plant is in order. -/
structure Winding (s : Settings) (h : History) (p : Plant σ) : Prop where
  orderly : p.roused.Orderly s
  obeys : p.Obedient
  queued : p.roused.Queued s h

namespace Winding

theorem of_orderly (orderly : p.Orderly s) (queued : p.Queued s h) (notYet : p.closing = .notYet) :
    p.Winding s h := by
  have serves : ∀ {t i w}, p.worker? t i = some w → w.Obeys .serve := fun here => by
    refine .serves (orderly.fits here).works fun cmd mem => ?_
    obtain ⟨d, rfl, -⟩ := (orderly.fits here).queued cmd mem
    rfl
  have pools : p.roused.pools = p.pools := by
    refine PerTier.ext fun t => ?_
    rw [roused, PerTier.get_of, List.map_congr_left (g := id), List.map_id]
    intro w mem
    obtain ⟨i, here⟩ := List.getElem?_of_mem mem
    exact (serves here).serving.2
  exact ⟨orderly.of_pools pools, ⟨fun here => by rw [notYet]; exact serves here⟩, queued.of_pools pools⟩

/-- Whoever hands a sample on finds a worker that serves. -/
theorem taker {d onward : Delivery} {gate : Gate} (winding : p.Winding s h) (here : p.worker? t i = some w)
    (hands : w.activity = .forwarding d onward gate) :
    ∃ j taker, t.next = some gate.tier ∧ p.worker? gate.tier j = some taker ∧ taker.Obeys .serve ∧
      p.behind gate onward.sample.series = .ok (j, taker) := by
  have roused : p.roused.worker? t i = some w.roused := by rw [worker?_roused, here]; rfl
  have hands' : w.roused.activity = .forwarding d onward gate := by
    rw [Worker.roused, hands]
    rfl
  obtain ⟨g, next, rfl⟩ := Option.map_eq_some_iff.1 ((winding.orderly.fits roused).onward hands').1
  obtain ⟨w', found', -⟩ := winding.orderly.behind_eq g onward.sample.series
  rw [worker?_roused] at found'
  obtain ⟨taker, found, -⟩ := Option.map_eq_some_iff.1 found'
  -- The worker here is not gone, so the next tier is still to be turned to.
  have there := (winding.obeys.stands here).ne_gone (by rw [hands]; rintro ⟨⟩)
  have serves := winding.obeys.stands found
  rw [Closing.order_next next there] at serves
  have inside : (s.routing g).route onward.sample.series < s.workersOf g :=
    Routing.route_lt _ _ (winding.orderly.manned g)
  have found : p.worker? g ((s.routing g).route onward.sample.series) = some taker := found
  refine ⟨_, taker, next, found, serves, ?_⟩
  simp only [behind, Settings.gateOf, if_pos inside, found, Worker.isStopped_of_works serves.serving.1]
  rfl

theorem linked (winding : p.Winding s h) : p.Linked := by
  refine ⟨fun here hands => ?_⟩
  obtain ⟨j, taker, next, found, serves, reached⟩ := winding.taker here hands
  exact ⟨j, taker, next, found, Worker.isStopped_of_works serves.serving.1, reached⟩

theorem serves (winding : p.Winding s h) : p.Serves := by
  intro t i w d onward gate j taker here hands found
  obtain ⟨j', taker', -, there, serves, reached⟩ := winding.taker here hands
  cases found.symm.trans reached
  exact ⟨there, serves.serving.2⟩

/-! ### Steps -/

theorem stop_eq {rest : List Command} (winding : p.Winding s h) (here : p.worker? t i = some w)
    (free : w.activity = .idle) (head : w.queue = .halt :: rest) :
    rest = [] ∧ p.work s c t i = some (p.stop t i { w with queue := [] }) ∧ p.workDeeds s c t i = [] ∧
      (p.stop t i { w with queue := [] }).roused.pools = p.roused.pools := by
  obtain ⟨-, rfl⟩ := (winding.obeys.stands here).alone head
  have roused : p.roused.worker? t i = some w.roused := by rw [worker?_roused, here]; rfl
  have same : Worker.roused { w with activity := .stopped, queue := [] } = w.roused := by
    rw [Worker.roused, Worker.roused, free, head]
    rfl
  refine ⟨rfl, ?_, ?_, ?_⟩
  · simp [work, here, free, head]
  · simp only [workDeeds, here, free, head]
    rfl
  · have pools : (p.stop t i { w with queue := [] }).pools
        = (p.setWorker t i { w with activity := .stopped, queue := [] }).pools := rfl
    rw [roused_of_pools pools, roused_setWorker, same, pools_setWorker_of_same roused]

theorem work (winding : p.Winding s h) (move : p.work s c t i = some q) :
    q.Winding s (h ++ p.workDeeds s c t i) := by
  obtain ⟨-, -, closing⟩ := work_frame move
  have obeys : q.Obedient := by
    cases workStep_of_work move with
    | take w' here head less works pools =>
      exact winding.obeys.set here w' pools closing ((winding.obeys.stands here).take works head)
    | @serve w w' here queue less works pools =>
      have was : w.activity ≠ .stopped := fun stopped => by
        rw [stopped] at less
        exact Nat.not_lt_zero _ less
      exact winding.obeys.set here w' pools closing ((winding.obeys.stands here).keep was works queue)
    | @hand w taker d onward gate j here hands found room pools =>
      obtain ⟨j', taker', next, there, serves, reached⟩ := winding.taker here hands
      cases found.symm.trans reached
      have still : (p.setWorker gate.tier j (taker.push (.process onward))).worker? t i = some w := by
        rw [worker?_setWorker_of_ne p _ (.inl (ne_of_lt (Tier.lt_next next))), here]
      have own := winding.obeys.stands there
      have order : p.closing.order gate.tier j = .serve :=
        Closing.order_next next ((winding.obeys.stands here).ne_gone (by rw [hands]; rintro ⟨⟩)) j
      have given : (p.setWorker gate.tier j (taker.push (.process onward))).Obedient :=
        winding.obeys.set there _ rfl rfl (order ▸ serves.push onward)
      refine given.set still { w with activity := .parting d } pools closing ?_
      exact (winding.obeys.stands here).keep (by rw [hands]; nofun) nofun rfl
    | @halt w rest here free head stops =>
      subst stops
      refine winding.obeys.set here { w with activity := .stopped, queue := [] } rfl rfl ?_
      rw [((winding.obeys.stands here).alone head).1]
      exact .left rfl rfl
    | refused here hands found =>
      obtain ⟨j, taker, -, -, -, reached⟩ := winding.taker here hands
      cases found.symm.trans reached
  rcases work_roused winding.linked winding.serves move with
    ⟨w, rest, here, free, head⟩ | ⟨move', deeds⟩
  · obtain ⟨-, stops, none, pools⟩ := winding.stop_eq (c := c) here free head
    obtain rfl := Option.some.inj (stops.symm.trans move)
    rw [none, List.append_nil]
    exact ⟨winding.orderly.of_pools pools, obeys, winding.queued.of_pools pools⟩
  · have turn := turn_of_work winding.orderly move'
    rw [← deeds]
    exact ⟨turn.orderly winding.orderly, obeys, winding.queued.moves (turn.lane winding.orderly)⟩

/-- A tier that has nobody left to be told is gone once all its workers have stopped. -/
theorem turn (winding : p.Winding s h) {closing : Closing}
    (order : ∀ r j, closing.order r j = if r = t then .gone else p.closing.order r j)
    (stopped : (p.pools.get t).all Worker.isStopped = true) : Winding s h { p with closing } := by
  refine ⟨winding.orderly.of_pools rfl, ⟨fun {r j v} there => ?_⟩, winding.queued.of_pools rfl⟩
  have there : p.worker? r j = some v := there
  have obeys := winding.obeys.stands there
  change v.Obeys (closing.order r j)
  rw [order]
  by_cases same : r = t
  · subst same
    have stops : v.isStopped = true := List.all_eq_true.1 stopped v (List.mem_of_getElem? there)
    have left : v.activity = .stopped := by
      unfold Worker.isStopped at stops
      split at stops
      · assumption
      · cases stops
    rw [if_pos rfl]
    exact .gone left (obeys.empty_of_stopped left)
  · rwa [if_neg same]

theorem shutdown (winding : p.Winding s h) (move : p.shutdown s = some q) : q.Winding s h := by
  -- The worker that is to be told next serves.
  have serves : ∀ {t sent w}, p.closing = .halting t sent → p.worker? t sent = some w → w.Obeys .serve := by
    intro t sent w stage here
    have obeys := winding.obeys.stands here
    rwa [stage, Closing.order, if_neg (lt_irrefl t), if_neg fun told => Nat.lt_irrefl sent told.2] at obeys
  cases shutdownStep_of_shutdown move with
  | begin stage =>
    refine ⟨winding.orderly.of_pools rfl, ⟨fun {r j v} there => ?_⟩, winding.queued.of_pools rfl⟩
    have obeys := winding.obeys.stands (show p.worker? r j = some v from there)
    rw [stage] at obeys
    have first : (Closing.halting .raw 0).order r j = .serve := by
      rw [Closing.order, if_neg (not_lt.2 (Tier.raw_le r)), if_neg fun told => Nat.not_lt_zero j told.2]
    change v.Obeys ((Closing.halting .raw 0).order r j)
    rw [first]
    exact obeys
  | skip stage here stopped =>
    rw [Worker.isStopped_of_works (serves stage here).serving.1] at stopped
    cases stopped
  | @tell t sent w stage here works room =>
    have same : (w.push .halt).roused = w.roused := by simp [Worker.roused, Worker.push, Command.halts]
    have here' : p.roused.worker? t sent = some w.roused := by rw [worker?_roused, here]; rfl
    have pools : (p.setWorker t sent (w.push .halt)).roused.pools = p.roused.pools := by
      rw [roused_setWorker, same, pools_setWorker_of_same here']
    refine ⟨winding.orderly.of_pools pools, ⟨fun {r j v} there => ?_⟩, winding.queued.of_pools pools⟩
    change v.Obeys ((Closing.halting t (sent + 1)).order r j)
    rw [Closing.order_tell, ← stage]
    rcases worker?_setWorker p here there with ⟨rfl, rfl, rfl⟩ | ⟨apart, before⟩
    · rw [if_pos ⟨rfl, rfl⟩]
      have serves := serves stage here
      obtain ⟨ds, all | all⟩ := serves.queue_eq
      · exact .told serves.serving.1 (congrArg (· ++ [Command.halt]) all)
      · cases serves with
        | serves _ none => cases none .halt (all ▸ List.mem_append_right _ List.mem_cons_self)
    · rw [if_neg (not_and_or.2 apart)]
      exact winding.obeys.stands before
  | turn stage next _ stopped =>
    refine winding.turn (fun r j => ?_) stopped
    rw [stage]
    exact Closing.order_turn r next
  | finish stage last _ stopped =>
    refine winding.turn (fun r j => ?_) stopped
    rw [stage]
    exact Closing.order_end r last

/-- **Every step keeps the plant in the order of its shutdown**, as long as nothing is handed in. -/
theorem step {a : Action} (winding : p.Winding s h) (idle : a.submits = false) (move : p.step s c a = some q) :
    q.Winding s (h ++ p.deeds s c a) := by
  cases workers : a.concernsWorkers with
  | false =>
    obtain ⟨pools, closing⟩ := loop_frame workers move
    exact ⟨winding.orderly.of_pools (roused_of_pools pools), winding.obeys.of_pools pools closing,
      winding.queued.moves (.of_pools (silent_deeds workers) (roused_of_pools pools))⟩
  | true =>
    cases a with
    | work t i => exact winding.work move
    | shutdown =>
      rw [Plant.step] at move
      split at move
      · cases move
      · rw [deeds, List.append_nil]
        exact winding.shutdown move
    | enter => cases idle
    | _ => cases workers

end Winding

end Plant

end TierCascade
