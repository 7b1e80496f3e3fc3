import Mathlib.Data.List.Basic
import TierCascade.Plant.Step
/-!
# The record of a ticket

Each operation on tickets changes the record of one ticket and leaves all others as they are. Letting
go of a ticket is the one operation that can end it: `Tickets.farewell` is the outcome that is
reported then.
-/

namespace TierCascade

namespace Tickets

/-- The outcome that is reported if a holder lets go of a ticket now: that of the last holder. -/
def farewell (ts : Tickets) (k : Ticket) : Option Outcome :=
  (ts.find? k).bind fun r => if r.holders ≤ 1 then some r.outcome else none

variable (ts : Tickets) {k j : Ticket}

theorem ticket_of_find? {ts : Tickets} {r : Held} (h : ts.find? k = some r) : r.ticket = k := by
  have found := List.find?_some h
  simpa using found

@[simp] theorem find?_issue_self (k : Ticket) : (ts.issue k).find? k = some (Held.issue k) := by
  simp [find?, issue, Held.issue]

theorem find?_issue_of_ne (h : j ≠ k) : (ts.issue k).find? j = ts.find? j := by
  rw [find?, issue, List.find?_cons_of_neg (by simpa [Held.issue] using Ne.symm h)]
  rfl

theorem find?_change_self {f : Held → Held} (h : ∀ r, r.ticket = k → (f r).ticket = k) :
    (ts.change k f).find? k = (ts.find? k).map f := by
  simp only [find?, change]
  induction ts.held with
  | nil => rfl
  | cons r rs ih =>
    rw [List.map_cons]
    by_cases same : r.ticket = k
    · rw [if_pos same, List.find?_cons_of_pos (by simpa using h r same),
        List.find?_cons_of_pos (by simpa using same), Option.map_some]
    · rw [if_neg same, List.find?_cons_of_neg (by simpa using same),
        List.find?_cons_of_neg (by simpa using same), ih]

theorem find?_change_of_ne {f : Held → Held} (h : ∀ r, r.ticket = k → (f r).ticket = k)
    (other : j ≠ k) : (ts.change k f).find? j = ts.find? j := by
  simp only [find?, change]
  induction ts.held with
  | nil => rfl
  | cons r rs ih =>
    rw [List.map_cons]
    by_cases same : r.ticket = k
    · rw [if_pos same, List.find?_cons_of_neg (by simpa [h r same] using Ne.symm other),
        List.find?_cons_of_neg (by simpa [same] using Ne.symm other), ih]
    · rw [if_neg same, List.find?_cons, List.find?_cons, ih]

theorem find?_share_self : (ts.share k).find? k = (ts.find? k).map Held.share :=
  find?_change_self ts fun _ h => h

theorem find?_share_of_ne (h : j ≠ k) : (ts.share k).find? j = ts.find? j :=
  find?_change_of_ne ts (fun _ h => h) h

theorem find?_fail_self (t : Tier) (reason : String) :
    (ts.fail k t reason).find? k = (ts.find? k).map fun r => r.fail t reason :=
  find?_change_self ts fun _ h => h

theorem find?_fail_of_ne (t : Tier) (reason : String) (h : j ≠ k) :
    (ts.fail k t reason).find? j = ts.find? j :=
  find?_change_of_ne ts (fun _ h => h) h

theorem find?_release_of_shared {r : Held} (h : ts.find? k = some r) (shared : 1 < r.holders) :
    (ts.release k).find? k = some { r with holders := r.holders - 1 } := by
  have named := ticket_of_find? h
  have fewer := find?_change_self ts (f := fun _ => { r with holders := r.holders - 1 })
    (fun _ _ => named)
  simp only [release, h, Held.release, if_neg (by omega : ¬ r.holders ≤ 1)]
  rw [fewer, h]
  rfl

theorem find?_release_of_last {r : Held} (h : ts.find? k = some r) (last : r.holders ≤ 1) :
    (ts.release k).find? k = none := by
  simp only [release, h, Held.release, if_pos last]
  rw [find?, List.find?_eq_none]
  intro s mem
  have other := (List.mem_filter.1 mem).2
  simpa using other

theorem find?_release_of_ne (h : j ≠ k) : (ts.release k).find? j = ts.find? j := by
  unfold release
  split
  · rfl
  · rename_i r found
    have named := ticket_of_find? found
    split
    · rename_i s kept
      have renamed : s.ticket = k := by
        simp only [Held.release] at kept
        split at kept
        · cases kept
        · cases kept
          exact named
      exact find?_change_of_ne ts (fun _ _ => renamed) h
    · simp only [find?, List.find?_filter]
      congr 1
      funext s
      by_cases same : s.ticket = j
      · simp [same, h]
      · simp [same]

theorem outcomes_release (k : Ticket) :
    (ts.release k).outcomes = ts.outcomes ++ (ts.farewell k).toList := by
  unfold release farewell
  cases ts.find? k with
  | none => simp
  | some r => by_cases last : r.holders ≤ 1 <;> simp [Held.release, last, change]

@[simp] theorem outcomes_issue (k : Ticket) : (ts.issue k).outcomes = ts.outcomes := rfl

theorem read?_eq_some {ts ts' : Tickets} {o : Outcome} (h : ts.read? = some (o, ts')) :
    ts.outcomes = o :: ts'.outcomes ∧ ∀ k, ts'.find? k = ts.find? k := by
  unfold read? at h
  split at h
  · cases h
  · rename_i shape
    cases h
    exact ⟨shape, fun _ => rfl⟩

@[simp] theorem releaseAll_nil : ts.releaseAll [] = ts := rfl

/-! ### The tickets that are held -/

def current (ts : Tickets) : List Ticket := ts.held.map (·.ticket)

theorem find?_isSome_iff {ts : Tickets} : (ts.find? k).isSome = true ↔ k ∈ ts.current := by
  rw [find?, List.find?_isSome, current, List.mem_map]
  simp only [beq_iff_eq]

theorem current_issue (k : Ticket) : (ts.issue k).current = k :: ts.current := rfl

theorem current_change {f : Held → Held} (h : ∀ r, r.ticket = k → (f r).ticket = k) :
    (ts.change k f).current = ts.current := by
  rw [current, change, List.map_map, current]
  refine List.map_congr_left fun r _ => ?_
  by_cases same : r.ticket = k
  · simp [same, h r same]
  · simp [same]

theorem current_release (k : Ticket) : (ts.release k).current.Sublist ts.current := by
  unfold release
  cases found : ts.find? k with
  | none => exact .refl _
  | some r =>
    have named := ticket_of_find? found
    by_cases last : r.holders ≤ 1
    · simp only [Held.release, if_pos last]
      exact (List.filter_sublist ..).map _
    · simp only [Held.release, if_neg last]
      rw [current_change ts (f := fun _ => { r with holders := r.holders - 1 }) fun _ _ => named]

end Tickets

end TierCascade
