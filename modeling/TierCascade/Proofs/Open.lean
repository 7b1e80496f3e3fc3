import TierCascade.Proofs.Custody
import TierCascade.Proofs.Lanes
/-!
# Plants that are not shut down

A run may be interrupted, and another one begun. What the loop held is thrown away then, but the
workers go on as before: as long as nobody shuts the plant down it stays in order, and every lane
takes one step at a time (`Orderly.step`). All samples in it are samples that came in (`Sourced`).
-/

namespace TierCascade

def Action.closes : Action → Bool
  | .shutdown => true
  | _ => false

theorem Action.closes_of_disturbs {a : Action} (calm : a.disturbs = false) : a.closes = false := by
  cases a with
  | shutdown => cases calm
  | _ => rfl

theorem Tickets.concerns_of_mem_farewellsAll {ts : Tickets} {ds : List Delivery} {e : Deed}
    (mem : e ∈ ts.farewellsAll ds) (t : Tier) (x : Series) : e.concerns t x = false := by
  induction ds generalizing ts with
  | nil => cases mem
  | cons d ds ih =>
    rcases List.mem_append.1 mem with first | later
    · exact concerns_of_mem_farewells first t x
    · exact ih later

namespace Plant

variable {σ : Type} {s : Settings} {c : Collaborator σ} {p q : Plant σ} {a : Action}

/-- A step that does not shut a plant down is one of the loop, of a worker, or of the loop and a worker. -/
theorem cases_of_step (stays : a.closes = false) (move : p.step s c a = some q) :
    p.LoopStep a (p.deeds s c a) q ∨ (∃ t i, a = .work t i ∧ p.work s c t i = some q) ∨
      a = .enter ∧ p.enter s = some q := by
  cases workers : a.concernsWorkers with
  | false => exact .inl (loopStep_of_step workers move)
  | true =>
    cases a with
    | work t i => exact .inr (.inl ⟨t, i, rfl, move⟩)
    | enter => exact .inr (.inr ⟨rfl, move⟩)
    | shutdown => cases stays
    | _ => cases workers

/-! ### Workers -/

/-- What the loop does is no business of the workers, and does not shut the plant down. -/
structure LoopFrame (p q : Plant σ) : Prop where
  pools : q.pools = p.pools
  closing : q.closing = p.closing

theorem loop_frame (loop : a.concernsWorkers = false) (move : p.step s c a = some q) : p.LoopFrame q := by
  have step := loopStep_of_step loop move
  generalize p.deeds s c a = ds at step
  cases step with
  | settle _ settled =>
    obtain ⟨tickets, meter, journal, -, -, rfl⟩ := settle_eq_some settled
    exact ⟨rfl, rfl⟩
  | _ => exact ⟨rfl, rfl⟩

theorem silent_deeds (loop : a.concernsWorkers = false) :
    ∀ e ∈ p.deeds s c a, ∀ t x, e.concerns t x = false := by
  intro e mem t x
  cases a with
  | work => cases loop
  | enter => cases loop
  | shutdown => cases loop
  | receive y =>
    rw [List.mem_singleton.1 mem]
    rfl
  | settle =>
    simp only [deeds] at mem
    split at mem
    · rename_i o st settled
      rcases List.mem_cons.1 mem with rfl | issued
      · rfl
      · cases st with
        | redeliver d reason =>
          rw [List.mem_singleton.1 issued]
          rfl
        | _ => cases issued
    · cases mem
  | wake i =>
    simp only [deeds] at mem
    split at mem
    · split at mem
      · cases mem
      · exact Tickets.concerns_of_mem_farewells mem t x
    · cases mem
  | interrupt => exact Tickets.concerns_of_mem_farewellsAll mem t x
  | finish => exact Tickets.concerns_of_mem_farewellsAll mem t x
  | _ => cases mem

/-- What concerns workers is a turn, as in a run that nothing disturbs. -/
theorem Orderly.turn (o : p.Orderly s) (workers : a.concernsWorkers = true) (stays : a.closes = false)
    (move : p.step s c a = some q) : Turn s c p (p.deeds s c a) q := by
  cases a with
  | work t i => exact turn_of_work o move
  | enter => exact turn_of_enter o move
  | shutdown => cases stays
  | _ => cases workers

/-- **A plant that is not shut down stays in order**, and each of its lanes takes a step. -/
theorem Orderly.step (o : p.Orderly s) (stays : a.closes = false) (move : p.step s c a = some q) :
    q.Orderly s ∧ p.Moves s (p.deeds s c a) q := by
  cases workers : a.concernsWorkers with
  | false =>
    have pools := (loop_frame workers move).pools
    exact ⟨o.of_pools pools, .of_pools (silent_deeds workers) pools⟩
  | true =>
    have turn := o.turn workers stays move
    exact ⟨turn.orderly o, turn.lane o⟩

end Plant

/-! ### Samples -/

def Loop.deliveries (l : Loop) : List Delivery := l.submitting.toList ++ l.ready ++ l.waiting.map (·.2)

theorem Loop.mem_deliveries {l : Loop} {d : Delivery} : d ∈ l.deliveries ↔
    l.submitting = some d ∨ d ∈ l.ready ∨ ∃ run, (run, d) ∈ l.waiting := by
  simp only [deliveries, List.mem_append, Option.mem_toList, List.mem_map, Prod.exists, exists_eq_right,
    or_assoc]

theorem Ledger.settle_sourced {l : Ledger} {xs : List Sample}
    (flight : ∀ {i u}, l.flight.get? i = some u → u.sample ∈ xs) (o : Outcome) :
    (∀ d ∈ (l.settle o).2.waits, d.sample ∈ xs) ∧
      ∀ {i u}, (l.settle o).1.flight.get? i = some u → u.sample ∈ xs := by
  have settles := l.settles o
  generalize (l.settle o).1 = l' at settles
  generalize (l.settle o).2 = st at settles
  cases settles with
  | unknown => exact ⟨nofun, flight⟩
  | acked => exact ⟨nofun, fun found => flight (OrderedMap.get?_of_get?_erase found)⟩
  | spent => exact ⟨nofun, fun found => flight (OrderedMap.get?_of_get?_erase found)⟩
  | @again i u t reason tracked =>
    refine ⟨fun d mem => ?_, fun {j v} found => ?_⟩
    · rw [List.mem_singleton.1 mem]
      exact flight (u := u) tracked
    · by_cases same : j = i
      · subst same
        cases (OrderedMap.get?_insert_self ..).symm.trans found
        exact flight (u := u) tracked
      · exact flight ((OrderedMap.get?_insert_of_ne _ _ same).symm.trans found)

/-- All that the loop and the ledger hold are samples that came in. -/
structure Plant.Sourced {σ : Type} (xs : List Sample) (p : Plant σ) : Prop where
  loop : ∀ d ∈ p.loop.deliveries, d.sample ∈ xs
  flight : ∀ {i u}, p.ledger.flight.get? i = some u → u.sample ∈ xs

namespace Plant

variable {σ : Type} {s : Settings} {c : Collaborator σ} {p q : Plant σ} {a : Action}
  {xs ys : List Sample}

theorem forward_frame {t : Tier} {i : Nat} {w : Worker} {d onward : Delivery} {gate : Gate}
    (move : p.forward s t i w d onward gate = some q) : p.WorkFrame q := by
  unfold forward at move
  split at move
  · split at move <;> cases move
    exact ⟨rfl, rfl, rfl⟩
  · split at move <;> cases move <;> exact ⟨rfl, rfl, rfl⟩

theorem work_frame {t : Tier} {i : Nat} (move : p.work s c t i = some q) :
    p.WorkFrame q := by
  unfold work at move
  cases here : p.worker? t i with
  | none => simp [here] at move
  | some w =>
    simp only [here, Option.bind_eq_bind, Option.bind_some] at move
    obtain ⟨stage, queue, act, ahead⟩ := w
    cases act with
    | stopped => cases move
    | idle =>
      rcases queue with - | ⟨d | _, rest⟩ <;> cases move
      · exact p.take_frame ..
      · exact ⟨rfl, rfl, rfl⟩
    | storing d a =>
      simp only at move
      split at move <;> cases move <;> exact ⟨rfl, rfl, rfl⟩
    | notifying d a stored =>
      simp only at move
      split at move <;> cases move <;> exact ⟨rfl, rfl, rfl⟩
    | closing d a receipt =>
      cases move
      exact p.close_frame ..
    | forwarding d onward g => exact forward_frame move
    | parting d =>
      cases move
      exact ⟨rfl, rfl, rfl⟩

theorem enter_frame (move : p.enter s = some q) :
    q.loop = { p.loop with submitting := none } ∧ q.ledger = p.ledger ∧ q.closing = p.closing := by
  unfold Plant.enter at move
  cases waits : p.loop.submitting with
  | none => simp [waits] at move
  | some d =>
    simp only [waits, Option.bind_eq_bind, Option.bind_some, Option.pure_def] at move
    split at move
    · split at move <;> cases move
      exact ⟨rfl, rfl, rfl⟩
    · cases move
      exact ⟨rfl, rfl, rfl⟩

theorem closing_of_step (stays : a.closes = false) (move : p.step s c a = some q) :
    q.closing = p.closing := by
  cases workers : a.concernsWorkers with
  | false => exact (loop_frame workers move).closing
  | true =>
    cases a with
    | work t i => exact (work_frame move).closing
    | enter => exact (enter_frame move).2.2
    | shutdown => cases stays
    | _ => cases workers

namespace Sourced

theorem new (s : Settings) (sinks : σ) (board : Board) (now : Int) (j : List Event) :
    Sourced [] { Plant.new s sinks board now with journal := j } :=
  ⟨nofun, nofun⟩

theorem of_subset (sourced : p.Sourced xs) (loop : ∀ d ∈ q.loop.deliveries, d ∈ p.loop.deliveries)
    (ledger : q.ledger = p.ledger) : q.Sourced xs :=
  ⟨fun d mem => sourced.loop d (loop d mem), fun found => sourced.flight (ledger ▸ found)⟩

theorem receive (sourced : p.Sourced xs) (x : Sample) : (p.receive x).Sourced (xs ++ [x]) := by
  have new : x ∈ xs ++ [x] := List.mem_append_right _ List.mem_cons_self
  constructor
  · intro d mem
    rcases Loop.mem_deliveries.1 mem with submitting | ready | ⟨run, waiting⟩
    · cases submitting
      exact new
    · exact List.mem_append_left _ (sourced.loop d (Loop.mem_deliveries.2 (.inr (.inl ready))))
    · exact List.mem_append_left _ (sourced.loop d (Loop.mem_deliveries.2 (.inr (.inr ⟨run, waiting⟩))))
  · intro i u found
    by_cases same : i = p.ledger.nextUnit
    · subst same
      cases (OrderedMap.get?_insert_self ..).symm.trans found
      exact new
    · exact List.mem_append_left _
        (sourced.flight ((OrderedMap.get?_insert_of_ne _ _ same).symm.trans found))

theorem settle (sourced : p.Sourced xs) {o : Outcome} {st : Settlement}
    (settled : p.settle = some (q, o, st)) : q.Sourced xs := by
  obtain ⟨tickets, meter, journal, -, rfl, rfl⟩ := settle_eq_some settled
  obtain ⟨waits, flight⟩ := Ledger.settle_sourced sourced.flight o
  refine ⟨fun d mem => ?_, flight⟩
  rcases Loop.mem_deliveries.1 mem with submitting | ready | ⟨run, waiting⟩
  · exact sourced.loop d (Loop.mem_deliveries.2 (.inl submitting))
  · exact sourced.loop d (Loop.mem_deliveries.2 (.inr (.inl ready)))
  · rcases List.mem_append.1 waiting with old | new
    · exact sourced.loop d (Loop.mem_deliveries.2 (.inr (.inr ⟨run, old⟩)))
    · obtain ⟨d', mem, same⟩ := List.mem_map.1 new
      cases same
      exact waits d mem

theorem wake (sourced : p.Sourced xs) {i run : Nat} {d : Delivery}
    (waits : p.loop.waiting[i]? = some (run, d)) :
    Sourced xs { p with loop :=
      { p.loop with waiting := p.loop.waiting.eraseIdx i, ready := p.loop.ready ++ [d] } } := by
  refine sourced.of_subset (fun d' mem => Loop.mem_deliveries.2 ?_) rfl
  rcases Loop.mem_deliveries.1 mem with submitting | ready | ⟨run', waiting⟩
  · exact .inl submitting
  · rcases List.mem_append.1 ready with old | woken
    · exact .inr (.inl old)
    · rw [List.mem_singleton.1 woken]
      exact .inr (.inr ⟨run, List.mem_of_getElem? waits⟩)
  · exact .inr (.inr ⟨run', List.mem_of_mem_eraseIdx waiting⟩)

theorem drop (sourced : p.Sourced xs) (i : Nat) (ts : Tickets) :
    Sourced xs { p with loop := { p.loop with waiting := p.loop.waiting.eraseIdx i }, tickets := ts } := by
  refine sourced.of_subset (fun d' mem => Loop.mem_deliveries.2 ?_) rfl
  rcases Loop.mem_deliveries.1 mem with submitting | ready | ⟨run, waiting⟩
  · exact .inl submitting
  · exact .inr (.inl ready)
  · exact .inr (.inr ⟨run, List.mem_of_mem_eraseIdx waiting⟩)

theorem enter (sourced : p.Sourced xs) (move : p.enter s = some q) : q.Sourced xs := by
  obtain ⟨loop, ledger, -⟩ := enter_frame move
  refine sourced.of_subset (fun d mem => ?_) ledger
  rw [loop] at mem
  exact Loop.mem_deliveries.2 (.inr ((Loop.mem_deliveries.1 mem).resolve_left nofun))

theorem leave (sourced : p.Sourced xs) (exit : Exit) : (p.leave exit).Sourced xs := by
  refine sourced.of_subset (fun d mem => Loop.mem_deliveries.2 ?_) rfl
  rcases Loop.mem_deliveries.1 mem with submitting | ready | waiting
  · exact .inl submitting
  · cases ready
  · exact .inr (.inr waiting)

theorem resubmit (sourced : p.Sourced xs) {d : Delivery} {rest : List Delivery}
    (first : p.loop.ready = d :: rest) :
    Sourced xs { p with loop := { p.loop with ready := rest, submitting := some d } } := by
  refine sourced.of_subset (fun d' mem => Loop.mem_deliveries.2 (.inr ?_)) rfl
  rw [first]
  rcases Loop.mem_deliveries.1 mem with submitting | ready | waiting
  · cases submitting
    exact .inl List.mem_cons_self
  · exact .inl (List.mem_cons_of_mem _ ready)
  · exact .inr waiting

/-- **A plant that is not shut down holds only samples that came in.** -/
theorem step (sourced : p.Sourced xs) (stays : a.closes = false) (move : p.step s c a = some q) :
    q.Sourced (xs ++ a.received.toList) := by
  have quiet : a.received = none → q.Sourced xs → q.Sourced (xs ++ a.received.toList) := by
    intro none own
    rw [none, Option.toList_none, List.append_nil]
    exact own
  rcases cases_of_step stays move with step | ⟨t, i, rfl, work⟩ | ⟨rfl, enter⟩
  · generalize p.deeds s c a = ds at step
    cases step with
    | receive x => exact sourced.receive x
    | settle _ settled => exact quiet rfl (sourced.settle settled)
    | wake waits => exact quiet rfl (sourced.wake waits)
    | drop => exact quiet rfl (sourced.drop _ _)
    | resubmit _ first => exact quiet rfl (sourced.resubmit first)
    | interrupt => exact quiet rfl (sourced.leave .interrupted)
    | finish => exact quiet rfl (sourced.leave .drained)
    | begin | closeInput => exact quiet rfl (sourced.of_subset (fun d mem => mem) rfl)
  · obtain ⟨loop, ledger, -⟩ := work_frame work
    exact quiet rfl (sourced.of_subset (fun d mem => loop ▸ mem) ledger)
  · exact quiet rfl (sourced.enter enter)

end Sourced

end Plant

end TierCascade
