import Mathlib.Algebra.Order.Ring.Nat
import Mathlib.Data.List.Perm.Subperm
import Mathlib.Data.List.ProdSigma
import TierCascade.Proofs.Office
/-!
# Every delivery has a ticket of its own

A ticket names a unit of work and the number of the attempt to deliver it. Whatever a ledger is asked,
it hands out no ticket twice, and no attempt beyond the budget (`Office.issues`). So the number of
deliveries is bounded by that of the samples (`Office.deliveries_le`).
-/

namespace TierCascade

/-- The deliveries that were handed out bear tickets of their own, within the budget, and the ledger
tracks the last attempt of a unit. -/
structure Office.Issues (b : RedeliveryBudget) (f : Office) : Prop where
  known : ∀ d ∈ f.history.deliveries, 1 ≤ d.ticket.unitId ∧ d.ticket.unitId < f.ledger.nextUnit
  within : ∀ d ∈ f.history.deliveries, 1 ≤ d.ticket.attempt ∧ d.ticket.attempt ≤ max 1 b.attempts
  latest : ∀ {i u}, f.ledger.flight.get? i = some u →
    ∀ d ∈ f.history.deliveries, d.ticket.unitId = i → d.ticket.attempt ≤ u.attempt
  distinct : (f.history.deliveries.map (·.ticket)).Nodup

namespace Office.Issues

variable {b : RedeliveryBudget} {xs : List Sample} {f : Office}

private theorem issue (issues : f.Issues b) (pre : History) {l : Ledger} {m : Meter} {d : Delivery}
    {i : Nat} {u : OpenUnit} (silent : pre.deliveries = []) (same : u.delivery i = d)
    (units : f.ledger.nextUnit ≤ l.nextUnit) (inside : 1 ≤ i ∧ i < l.nextUnit)
    (number : 1 ≤ u.attempt ∧ u.attempt ≤ max 1 b.attempts)
    (fresh : ∀ e ∈ f.history.deliveries, e.ticket.unitId = i → e.ticket.attempt < u.attempt)
    (tracked : l.flight.get? i = some u)
    (others : ∀ j, j ≠ i → l.flight.get? j = f.ledger.flight.get? j) :
    Office.Issues b ⟨f.history ++ (pre ++ [.issued d]), l, m⟩ := by
  subst same
  have deliveries : History.deliveries (f.history ++ (pre ++ [.issued (u.delivery i)]))
      = f.history.deliveries ++ [u.delivery i] := by
    rw [History.deliveries_append, History.deliveries_append, silent]
    rfl
  constructor
  case known =>
    intro e mem
    rw [deliveries] at mem
    rcases List.mem_append.1 mem with old | new
    · exact ⟨(issues.known e old).1, lt_of_lt_of_le (issues.known e old).2 units⟩
    · rw [List.mem_singleton.1 new]
      exact inside
  case within =>
    intro e mem
    rw [deliveries] at mem
    rcases List.mem_append.1 mem with old | new
    · exact issues.within e old
    · rw [List.mem_singleton.1 new]
      exact number
  case latest =>
    intro j v found e mem unit
    rw [deliveries] at mem
    rcases List.mem_append.1 mem with old | new
    · by_cases here : j = i
      · subst here
        cases tracked.symm.trans found
        exact le_of_lt (fresh e old unit)
      · exact issues.latest ((others j here).symm.trans found) e old unit
    · rw [List.mem_singleton.1 new] at unit ⊢
      obtain rfl : i = j := unit
      cases tracked.symm.trans found
      exact le_refl _
  case distinct =>
    rw [deliveries, List.map_append, List.map_singleton]
    refine issues.distinct.append (List.nodup_singleton _) ?_
    intro k old new
    obtain ⟨e, there, rfl⟩ := List.mem_map.1 old
    have ticket : e.ticket = (u.delivery i).ticket := List.mem_singleton.1 new
    have less := fresh e there (congrArg Ticket.unitId ticket)
    rw [ticket] at less
    exact lt_irrefl _ less

private theorem quiet (issues : f.Issues b) {l : Ledger} {m : Meter} {h : History}
    (silent : h.deliveries = []) (units : l.nextUnit = f.ledger.nextUnit)
    (tracked : ∀ {i u}, l.flight.get? i = some u → f.ledger.flight.get? i = some u) :
    Office.Issues b ⟨f.history ++ h, l, m⟩ := by
  have deliveries : (f.history ++ h).deliveries = f.history.deliveries := by
    rw [History.deliveries_append, silent, List.append_nil]
  constructor
  case known =>
    rw [deliveries, units]
    exact issues.known
  case within => exact deliveries ▸ issues.within
  case latest =>
    rw [deliveries]
    exact fun found => issues.latest (tracked found)
  case distinct => exact deliveries ▸ issues.distinct

theorem emit (issues : f.Issues b) (books : f.Books b xs) (x : Sample) :
    (f.ask (.emit x)).Issues b := by
  have first : 1 ≤ f.ledger.nextUnit := by
    rw [books.next]
    exact Nat.le_add_left ..
  refine issues.issue [] (i := f.ledger.nextUnit) (u := ⟨x, 1, none⟩) rfl rfl (Nat.le_succ _)
    ⟨first, Nat.lt_succ_self _⟩ ⟨le_refl 1, le_max_left ..⟩ ?_ (OrderedMap.get?_insert_self ..)
    fun j other => OrderedMap.get?_insert_of_ne _ _ other
  intro e there unit
  exact absurd (unit ▸ (issues.known e there).2) (lt_irrefl _)

theorem settle (issues : f.Issues b) (books : f.Books b xs) (o : Outcome) :
    (f.ask (.settle o)).Issues b := by
  refine of_settles (P := Office.Issues b) fun settles => ?_
  cases settles with
  | unknown => exact issues.quiet rfl rfl id
  | acked => exact issues.quiet rfl rfl OrderedMap.get?_of_get?_erase
  | spent => exact issues.quiet rfl rfl OrderedMap.get?_of_get?_erase
  | @again i u t reason tracked left =>
    obtain ⟨unit, begun⟩ := books.tracked tracked
    rw [books.units_eq, List.mem_range'_1] at unit
    rw [books.budget] at left
    have below : i < f.ledger.nextUnit := by
      rw [books.next]
      omega
    exact issues.issue [_] (u := u.again t) rfl rfl (le_refl _) ⟨unit.1, below⟩
      ⟨Nat.le_add_left .., le_trans left (le_max_right ..)⟩
      (fun e there same => Nat.lt_succ_of_le (issues.latest tracked e there same))
      (OrderedMap.get?_insert_self ..) fun j other => OrderedMap.get?_insert_of_ne _ _ other

end Office.Issues

namespace Office

/-- **Whatever a ledger is asked, it hands out every ticket once.** -/
theorem issues (b : RedeliveryBudget) (m : Meter) (rs : List Ledger.Request) :
    (after b m rs).Issues b := by
  induction rs using List.reverseRecOn with
  | nil =>
    exact ⟨fun d mem => absurd mem List.not_mem_nil, fun d mem => absurd mem List.not_mem_nil, nofun,
      List.nodup_nil⟩
  | append_singleton rs r ih =>
    rw [after_concat]
    cases r with
    | emit x => exact ih.emit (books b m rs) x
    | settle o => exact ih.settle (books b m rs) o

/-- The ledger counts its deliveries: the first of each unit, and the further ones. -/
theorem length_deliveries (b : RedeliveryBudget) (m : Meter) (rs : List Ledger.Request) :
    (after b m rs).history.deliveries.length
      = (after b m rs).ledger.emitted + (after b m rs).ledger.redelivered := by
  induction rs using List.reverseRecOn with
  | nil => rfl
  | append_singleton rs r ih =>
    rw [after_concat]
    cases r with
    | emit x =>
      have one : (((after b m rs).ask (.emit x)).history.deliveries).length
          = (after b m rs).history.deliveries.length + 1 := by
        refine (congrArg List.length (History.deliveries_append ..)).trans ?_
        rw [List.length_append]
        rfl
      rw [one, ih]
      exact Nat.add_right_comm ..
    | settle o =>
      refine of_settles (P := fun f =>
        f.history.deliveries.length = f.ledger.emitted + f.ledger.redelivered) fun settles => ?_
      rw [History.deliveries_append, List.length_append, ih]
      cases settles <;> rfl

/-- There are no more deliveries than the samples have attempts. -/
theorem deliveries_le (b : RedeliveryBudget) (m : Meter) (rs : List Ledger.Request) :
    (after b m rs).history.deliveries.length
      ≤ (Ledger.Request.samples rs).length * max 1 b.attempts := by
  have issues := issues b m rs
  have next := (books b m rs).next
  have pairs : ((after b m rs).history.deliveries.map fun d =>
      (d.ticket.unitId, d.ticket.attempt)).Nodup := by
    have apart : Function.Injective fun k : Ticket => (k.unitId, k.attempt) := by
      rintro ⟨i, n⟩ ⟨j, n'⟩ same
      cases same
      rfl
    have distinct := issues.distinct.map apart
    rwa [List.map_map] at distinct
  have inside : ((after b m rs).history.deliveries.map fun d => (d.ticket.unitId, d.ticket.attempt))
      ⊆ List.range' 1 (Ledger.Request.samples rs).length ×ˢ List.range' 1 (max 1 b.attempts) := by
    intro pair mem
    obtain ⟨d, there, rfl⟩ := List.mem_map.1 mem
    have unit := issues.known d there
    have number := issues.within d there
    rw [next] at unit
    rw [List.mem_product, List.mem_range'_1, List.mem_range'_1]
    omega
  have fits := (List.subperm_of_subset pairs inside).length_le
  rwa [List.length_map, List.length_product, List.length_range', List.length_range'] at fits

end Office

end TierCascade
