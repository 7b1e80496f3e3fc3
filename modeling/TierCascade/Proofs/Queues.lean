import TierCascade.Proofs.Nesting
/-!
# What goes into a queue comes out of it

A delivery that enters a queue is taken up by a worker of the tier, in the order of the queue, and only
once: what came to a lane is what was taken up there and what still waits (`Lane.Queues`). Whether it is
then taken in or turned away depends on its value alone. Once nothing waits at a tier any more, all that
came to it was taken up (`Plant.Queued.came_perm`).
-/

namespace TierCascade

namespace Act

def takesIn : Act → Bool
  | folded _ => true
  | rejected _ | called .. | looked .. => false

def turnsAway : Act → Bool
  | rejected _ => true
  | folded _ | called .. | looked .. => false

end Act

namespace Deed

def came? (t : Tier) : Deed → Option Delivery
  | queued d r => if r = t then some d else none
  | _ => none

def met? (kind : Act → Bool) (t : Tier) : Deed → Option Delivery
  | worked d r act .. => if kind act = true ∧ r = t then some d else none
  | _ => none

theorem came?_eq_some {t : Tier} {e : Deed} {d : Delivery} : e.came? t = some d ↔ e = queued d t := by
  cases e <;> simp [came?, and_comm]

theorem concerns_of_met? {kind : Act → Bool} {t : Tier} {e : Deed} {d : Delivery}
    (met : e.met? kind t = some d) (x : Series) : e.concerns t x = decide (d.sample.series = x) := by
  cases e with
  | worked d' r act =>
    obtain ⟨⟨-, rfl⟩, same⟩ := Option.ite_none_right_eq_some.1 met
    cases same
    simp [concerns]
  | _ => cases met

end Deed

namespace History

def came (h : History) (t : Tier) : List Delivery := h.filterMap (Deed.came? t)

def met (h : History) (kind : Act → Bool) (t : Tier) : List Delivery := h.filterMap (Deed.met? kind t)

def taken (h : History) (t : Tier) : List Delivery := h.met Act.takesIn t

def refused (h : History) (t : Tier) : List Delivery := h.met Act.turnsAway t

/-- The deliveries that the workers of a tier took up, to take them in or turn them away. -/
def handled (h : History) (t : Tier) : List Delivery :=
  h.met (fun act => act.takesIn || act.turnsAway) t

variable (h g : History) (t : Tier)

@[simp] theorem came_append : (h ++ g).came t = h.came t ++ g.came t := List.filterMap_append

@[simp] theorem met_append (kind : Act → Bool) :
    (h ++ g).met kind t = h.met kind t ++ g.met kind t :=
  List.filterMap_append

theorem arrivals_eq : h.arrivals t = (h.came t).map (·.sample) := by
  rw [arrivals, came, List.map_filterMap]
  congr 1
  funext e
  cases e with
  | queued d r => by_cases same : r = t <;> simp [same, Deed.came?]
  | _ => rfl

/-- What is read off the deeds of a tier is read off its lanes, series by series. -/
private theorem filterMap_lane {f : Deed → Option Delivery}
    (own : ∀ {e d}, f e = some d → ∀ x, e.concerns t x = decide (d.sample.series = x)) (x : Series) :
    (h.lane t x).filterMap f = (h.filterMap f).filter fun d => d.sample.series = x := by
  rw [lane, List.filterMap_filter, List.filter_filterMap]
  congr 1
  funext e
  cases found : f e with
  | none => simp
  | some d =>
    rw [own found]
    by_cases same : d.sample.series = x <;> simp [same, Option.filter]

theorem came_lane (x : Series) :
    (h.lane t x).came t = (h.came t).filter fun d => d.sample.series = x := by
  refine h.filterMap_lane t (fun came x => ?_) x
  rw [Deed.came?_eq_some.1 came]
  simp [Deed.concerns]

theorem met_lane (kind : Act → Bool) (x : Series) :
    (h.lane t x).met kind t = (h.met kind t).filter fun d => d.sample.series = x :=
  h.filterMap_lane t Deed.concerns_of_met? x

variable {h t}

theorem met_eq_nil (silent : ∀ e ∈ h, ∀ r y, e.concerns r y = false) (kind : Act → Bool) :
    h.met kind t = [] := by
  refine List.filterMap_eq_nil_iff.2 fun e mem => ?_
  cases met : e.met? kind t with
  | none => rfl
  | some d =>
    have loud := Deed.concerns_of_met? met d.sample.series
    rw [silent e mem, decide_eq_true rfl] at loud
    cases loud

theorem met_worked {g : History} (silent : ∀ e ∈ g, ∀ r y, e.concerns r y = false) (kind : Act → Bool)
    (d : Delivery) (r : Tier) (act : Act) (before after : Option SeriesState) :
    met (.worked d r act before after :: g) kind t = if kind act = true ∧ r = t then [d] else [] := by
  have rest : g.filterMap (Deed.met? kind t) = [] := met_eq_nil silent kind
  rw [met, List.filterMap_cons, rest, Deed.met?]
  by_cases meets : kind act = true ∧ r = t
  · rw [if_pos meets, if_pos meets]
  · rw [if_neg meets, if_neg meets]

end History

/-- How often something occurs is decided within its class. -/
theorem subperm_of_classes {α β : Type} [DecidableEq α] [DecidableEq β] (f : α → β) {l m : List α}
    (classes : ∀ b, (l.filter fun a => f a = b).Subperm (m.filter fun a => f a = b)) : l.Subperm m := by
  refine List.subperm_ext_iff.2 fun a _ => ?_
  have own : decide (f a = f a) = true := decide_eq_true rfl
  have counts := fun k : List α => List.count_filter (p := fun c => decide (f c = f a)) (a := a) (l := k) own
  rw [← counts l, ← counts m]
  exact (classes (f a)).count_le a

theorem perm_of_classes {α β : Type} [DecidableEq α] [DecidableEq β] (f : α → β) {l m : List α}
    (classes : ∀ b, (l.filter fun a => f a = b).Perm (m.filter fun a => f a = b)) : l.Perm m :=
  (subperm_of_classes f fun b => (classes b).subperm).antisymm (subperm_of_classes f fun b => (classes b).symm.subperm)

theorem perm_of_series {ds ds' : List Delivery}
    (same : ∀ x : Series, (ds.filter fun d => d.sample.series = x) = ds'.filter fun d => d.sample.series = x) :
    ds.Perm ds' :=
  perm_of_classes (fun d => d.sample.series) fun x => .of_eq (same x)

/-! ### One lane -/

def Delivery.isNumber (d : Delivery) : Bool := d.sample.value.isFinite

/-- What came to a lane was taken up there, in the same order, or still waits; and what was taken up was
taken in if it is a number, and turned away if it is none. -/
structure Lane.Queues (t : Tier) (L : Lane) (h : History) : Prop where
  came : h.came t = h.handled t ++ L.queue
  taken : h.taken t = (h.handled t).filter Delivery.isNumber
  refused : h.refused t = (h.handled t).filter fun d => !d.isNumber

namespace Lane.Queues

variable {t : Tier} {L L' : Lane} {h ds : History} {d : Delivery} {queue : List Delivery}
  {hand hand' : Option (Delivery × Spot)} {state state' : Option SeriesState}

theorem quiet (queues : L.Queues t h) (queue : L'.queue = L.queue) (came : ds.came t = [])
    (handled : ds.handled t = []) (taken : ds.taken t = []) (refused : ds.refused t = []) :
    L'.Queues t (h ++ ds) := by
  have same : (h ++ ds).handled t = h.handled t := by
    rw [History.handled, History.met_append, ← History.handled, ← History.handled, handled, List.append_nil]
  constructor
  case came => rw [same, History.came_append, came, List.append_nil, queue, queues.came]
  case taken =>
    rw [same, History.taken, History.met_append, ← History.taken, ← History.taken, taken, List.append_nil,
      queues.taken]
  case refused =>
    rw [same, History.refused, History.met_append, ← History.refused, ← History.refused, refused,
      List.append_nil, queues.refused]

theorem arrive (queues : Queues t ⟨queue, hand, state⟩ h) (d : Delivery) :
    Queues t ⟨queue ++ [d], hand, state⟩ (h ++ [.queued d t]) := by
  obtain ⟨came, taken, refused⟩ := queues
  have same : ∀ kind, History.met (h ++ [.queued d t]) kind t = h.met kind t := fun kind => by
    rw [History.met_append]
    exact List.append_nil _
  have handled : History.handled (h ++ [.queued d t]) t = h.handled t := same _
  have one : History.came [.queued d t] t = [d] := by simp [History.came, Deed.came?]
  constructor
  case came =>
    rw [History.came_append, came, one, handled]
    exact List.append_assoc ..
  case taken => exact (same _).trans (handled ▸ taken)
  case refused => exact (same _).trans (handled ▸ refused)

theorem takeUp {act : Act} {before after : Option SeriesState}
    (queues : Queues t ⟨d :: queue, hand, state⟩ h)
    (taken : act.takesIn = d.isNumber) (refused : act.turnsAway = !d.isNumber) :
    Queues t ⟨queue, hand', state'⟩ (h ++ [.worked d t act before after]) := by
  obtain ⟨came, took, turned⟩ := queues
  have one : ∀ kind, History.met [.worked d t act before after] kind t = [d].filter fun _ => kind act :=
    fun kind => by cases meets : kind act <;> simp [History.met_worked, meets]
  have up : (act.takesIn || act.turnsAway) = true := by rw [taken, refused, Bool.or_not_self]
  have handled : History.handled (h ++ [.worked d t act before after]) t = h.handled t ++ [d] := by
    rw [History.handled, History.met_append, one, up, History.handled]
    rfl
  constructor
  case came =>
    have none : History.came [.worked d t act before after] t = [] := rfl
    rw [History.came_append, came, none, List.append_nil, handled]
    exact List.append_cons ..
  case taken =>
    rw [handled, History.taken, History.met_append, one, taken, ← History.taken, took, List.filter_append]
    simp [List.filter_singleton]
  case refused =>
    rw [handled, History.refused, History.met_append, one, refused, ← History.refused, turned,
      List.filter_append]
    simp [List.filter_singleton]

end Lane.Queues

/-- **Every step of a lane takes up what comes first.** -/
theorem Lane.Step.queues {s : Settings} {t : Tier} {L L' : Lane} {h ds : History}
    (step : L.Step s t ds L') (queues : L.Queues t h) : L'.Queues t (h ++ ds) := by
  cases step with
  | rest => exact queues.quiet rfl rfl rfl rfl rfl
  | arrive d => exact queues.arrive d
  | reject infinite => exact queues.takeUp infinite.symm (congrArg not infinite).symm
  | fold finite => exact queues.takeUp finite.symm (congrArg not finite).symm
  | call => exact queues.quiet rfl rfl rfl rfl rfl
  | skip => exact queues.quiet rfl rfl rfl rfl rfl
  | fault => exact queues.quiet rfl rfl rfl rfl rfl
  | keep => exact queues.quiet rfl rfl rfl rfl rfl
  | move => exact queues.quiet rfl rfl rfl rfl rfl
  | @hand queue state d g next =>
    have elsewhere : History.came [.queued d g] t = [] := by
      simp [History.came, Deed.came?, ne_of_gt (Tier.lt_next next)]
    exact queues.quiet rfl elsewhere rfl rfl rfl

/-! ### All lanes -/

structure Plant.Queued {σ : Type} (s : Settings) (h : History) (p : Plant σ) : Prop where
  lanes : ∀ t x, (p.lane s t x).Queues t (h.lane t x)

namespace Plant.Queued

variable {σ : Type} {s : Settings} {h ds : History} {p q : Plant σ} {t : Tier}

theorem launch {sinks : σ} {board : Board} {now : Int} (start : Plant.launch s sinks board now = .ok p) :
    p.Queued s [] := by
  refine ⟨fun t x => ?_⟩
  rw [lane_of_launch start]
  exact ⟨rfl, rfl, rfl⟩

theorem of_pools (queued : p.Queued s h) (pools : q.pools = p.pools) : q.Queued s h :=
  ⟨fun t x => lane_of_pools pools t x ▸ queued.lanes t x⟩

theorem moves (queued : p.Queued s h) (moves : p.Moves s ds q) : q.Queued s (h ++ ds) := by
  refine ⟨fun t x => ?_⟩
  rw [History.lane_append]
  exact (moves t x).queues (queued.lanes t x)

/-- **Once nothing waits at a tier, all that came to it was taken up.** -/
theorem came_perm (queued : p.Queued s h) (empty : ∀ x, (p.lane s t x).queue = []) :
    (h.came t).Perm (h.handled t) := by
  refine perm_of_series fun x => ?_
  rw [← History.came_lane, (queued.lanes t x).came, empty x, List.append_nil, History.handled,
    History.met_lane, History.handled]

theorem taken_perm (queued : p.Queued s h) (t : Tier) :
    (h.taken t).Perm ((h.handled t).filter Delivery.isNumber) := by
  refine perm_of_series fun x => ?_
  rw [List.filter_comm, History.taken, History.handled, ← History.met_lane, ← History.met_lane]
  exact (queued.lanes t x).taken

theorem refused_perm (queued : p.Queued s h) (t : Tier) :
    (h.refused t).Perm ((h.handled t).filter fun d => !d.isNumber) := by
  refine perm_of_series fun x => ?_
  rw [List.filter_comm, History.refused, History.handled, ← History.met_lane, ← History.met_lane]
  exact (queued.lanes t x).refused

end Plant.Queued

/-! ### All that waits at a tier -/

theorem flatMap_eq_of_only {α β : Type} {l : List α} {f : α → List β} {k : Nat} {a : α} (here : l[k]? = some a)
    (others : ∀ {i b}, l[i]? = some b → i ≠ k → f b = []) : l.flatMap f = f a := by
  induction l generalizing k with
  | nil => cases here
  | cons b l ih =>
    cases k with
    | zero =>
      have rest : l.flatMap f = [] := List.flatMap_eq_nil_iff.2 fun e mem => by
        obtain ⟨i, there⟩ := List.getElem?_of_mem mem
        exact others (i := i + 1) there (Nat.succ_ne_zero i)
      cases here
      rw [List.flatMap_cons, rest, List.append_nil]
    | succ k =>
      rw [List.flatMap_cons, others (i := 0) rfl (Nat.succ_ne_zero k).symm, List.nil_append]
      exact ih here fun {i _} there apart => others (i := i + 1) there fun same => apart (Nat.succ.inj same)

/-- The deliveries in the queues of a tier, worker by worker. -/
def Plant.waitingAt {σ : Type} (p : Plant σ) (t : Tier) : List Delivery :=
  (p.pools.get t).flatMap fun w => Command.deliveries w.queue

namespace Plant

variable {σ : Type} {s : Settings} {h : History} {p : Plant σ}

theorem Orderly.waitingAt_filter (o : p.Orderly s) (t : Tier) (x : Series) :
    ((p.waitingAt t).filter fun d => d.sample.series = x) = (p.lane s t x).queue := by
  obtain ⟨w, here, -⟩ := o.target_eq t x
  rw [waitingAt, List.filter_flatMap, lane_of_worker here, Worker.lane]
  refine flatMap_eq_of_only here fun {i v} there apart => List.filter_eq_nil_iff.2 fun d mem => ?_
  obtain ⟨cmd, inside, shape⟩ := List.mem_filterMap.1 mem
  obtain ⟨d', rfl, place⟩ := (o.fits there).queued cmd inside
  cases shape
  rw [decide_eq_true_eq]
  rintro rfl
  exact apart place.symm

/-- **What came to a tier was taken up or still waits.** -/
theorem Queued.came_perm_waiting (queued : p.Queued s h) (o : p.Orderly s) (t : Tier) :
    (h.came t).Perm (h.handled t ++ p.waitingAt t) := by
  refine perm_of_series fun x => ?_
  rw [List.filter_append, o.waitingAt_filter, ← History.came_lane, (queued.lanes t x).came, History.handled,
    History.met_lane, History.handled]

end Plant

end TierCascade
