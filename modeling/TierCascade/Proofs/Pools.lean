import Mathlib.Algebra.BigOperators.Group.List.Basic
import TierCascade.Plant.State
/-!
# The pools of a plant

Putting a worker in its place changes that place only. `Plant.total` adds something up over all
workers; `exists_total_eq` singles out what one worker contributes, so that a step of that worker
changes a total by exactly its own share.
-/

namespace TierCascade

namespace Plant

variable {σ : Type} (p : Plant σ) {t r : Tier} {i j : Nat} {w : Worker}

/-! ### Looking up a worker -/

theorem lt_length_of_worker? (h : p.worker? t i = some w) : i < (p.pools.get t).length :=
  (List.getElem?_eq_some_iff.1 h).1

theorem pools_setWorker_self (w : Worker) :
    (p.setWorker t i w).pools.get t = (p.pools.get t).set i w := by
  simp [setWorker, PerTier.modify]

theorem pools_setWorker_of_ne (w : Worker) (h : r ≠ t) :
    (p.setWorker t i w).pools.get r = p.pools.get r :=
  PerTier.get_set_of_ne _ _ h

@[simp] theorem length_setWorker (t : Tier) (i : Nat) (w : Worker) (r : Tier) :
    ((p.setWorker t i w).pools.get r).length = (p.pools.get r).length := by
  by_cases h : r = t
  · subst h
    rw [pools_setWorker_self, List.length_set]
  · rw [pools_setWorker_of_ne p w h]

theorem worker?_setWorker_self {old : Worker} (h : p.worker? t i = some old) (w : Worker) :
    (p.setWorker t i w).worker? t i = some w := by
  rw [worker?, pools_setWorker_self, List.getElem?_set_self (lt_length_of_worker? p h)]

theorem worker?_setWorker_of_ne (w : Worker) (h : r ≠ t ∨ j ≠ i) :
    (p.setWorker t i w).worker? r j = p.worker? r j := by
  by_cases same : r = t
  · subst same
    have other : j ≠ i := h.resolve_left fun apart => apart rfl
    rw [worker?, pools_setWorker_self, List.getElem?_set_ne (Ne.symm other), worker?]
  · rw [worker?, pools_setWorker_of_ne p w same, worker?]

theorem worker?_setWorker {old w' : Worker} (h : p.worker? t i = some old)
    (k : (p.setWorker t i w).worker? r j = some w') :
    (r = t ∧ j = i ∧ w' = w) ∨ ((r ≠ t ∨ j ≠ i) ∧ p.worker? r j = some w') := by
  by_cases here : r = t ∧ j = i
  · obtain ⟨rfl, rfl⟩ := here
    rw [worker?_setWorker_self p h] at k
    exact .inl ⟨rfl, rfl, (Option.some.inj k).symm⟩
  · have apart : r ≠ t ∨ j ≠ i := by
      by_cases tier : r = t
      · exact .inr fun place => here ⟨tier, place⟩
      · exact .inl tier
    rw [worker?_setWorker_of_ne p w apart] at k
    exact .inr ⟨apart, k⟩

/-! ### Adding up over all workers -/

section Total

variable {M : Type} [AddCommMonoid M]

/-- What all workers come to together. -/
def total (f : Tier → Worker → M) : M :=
  (Tier.all.map fun t => ((p.pools.get t).map (f t)).sum).sum

private theorem exists_sum_eq (f : Worker → M) {ws : List Worker} (h : ws[i]? = some w) :
    ∃ rest, ∀ w', ((ws.set i w').map f).sum = f w' + rest := by
  induction ws generalizing i with
  | nil => cases h
  | cons v vs ih =>
    cases i with
    | zero => exact ⟨(vs.map f).sum, fun w' => by simp⟩
    | succ i =>
      obtain ⟨rest, split⟩ := ih (i := i) (by simpa using h)
      refine ⟨f v + rest, fun w' => ?_⟩
      rw [List.set_cons_succ, List.map_cons, List.sum_cons, split w', add_left_comm]

private theorem exists_sum_tiers_eq (t : Tier) (g : Tier → M) :
    ∃ rest, ∀ g' : Tier → M, (∀ r, r ≠ t → g' r = g r) → (Tier.all.map g').sum = g' t + rest := by
  have cut : ∃ before after, Tier.all = before ++ t :: after ∧ t ∉ before ∧ t ∉ after := by
    cases t with
    | raw => exact ⟨[], [.minute, .hour, .day, .week, .month], by decide⟩
    | minute => exact ⟨[.raw], [.hour, .day, .week, .month], by decide⟩
    | hour => exact ⟨[.raw, .minute], [.day, .week, .month], by decide⟩
    | day => exact ⟨[.raw, .minute, .hour], [.week, .month], by decide⟩
    | week => exact ⟨[.raw, .minute, .hour, .day], [.month], by decide⟩
    | month => exact ⟨[.raw, .minute, .hour, .day, .week], [], by decide⟩
  obtain ⟨before, after, all, left, right⟩ := cut
  refine ⟨(before.map g).sum + (after.map g).sum, fun g' same => ?_⟩
  have leftSame : before.map g' = before.map g :=
    List.map_congr_left fun r mem => same r fun h => left (h ▸ mem)
  have rightSame : after.map g' = after.map g :=
    List.map_congr_left fun r mem => same r fun h => right (h ▸ mem)
  rw [all, List.map_append, List.map_cons, List.sum_append, List.sum_cons, leftSame, rightSame,
    add_left_comm]

/-- A total is what one worker contributes and the rest, and the rest stays when another worker
takes its place. -/
theorem exists_total_eq (f : Tier → Worker → M) (h : p.worker? t i = some w) :
    ∃ rest, p.total f = f t w + rest ∧ ∀ w', (p.setWorker t i w').total f = f t w' + rest := by
  obtain ⟨others, tier⟩ := exists_sum_tiers_eq t fun r => ((p.pools.get r).map (f r)).sum
  obtain ⟨rest, pool⟩ := exists_sum_eq (f t) h
  have replaced : ∀ w', (p.setWorker t i w').total f = f t w' + (rest + others) := by
    intro w'
    rw [total, tier fun r => (((p.setWorker t i w').pools.get r).map (f r)).sum]
    · rw [pools_setWorker_self, pool w', add_assoc]
    · intro r apart
      rw [pools_setWorker_of_ne p w' apart]
  refine ⟨rest + others, ?_, replaced⟩
  rw [total, tier _ fun _ _ => rfl]
  have unchanged := pool w
  obtain ⟨inside, rfl⟩ := List.getElem?_eq_some_iff.1 h
  rw [List.set_getElem_self inside] at unchanged
  rw [unchanged, add_assoc]

end Total

end Plant

end TierCascade
