import TierCascade.Console.Replay
/-!
# The order in which aggregates are shown

A replay sorts what it recorded, and what ties stays in the order in which it was recorded. So the
result depends on that order only within each class of aggregates that tie: two recordings that agree
class by class are shown alike (`mergeSort_eq_of_classes`).
-/

namespace TierCascade

section Sorting

variable {α : Type} {le : α → α → Bool} {l m : List α}

/-- Neither of two entries has to stand before the other. -/
def tied (le : α → α → Bool) (a b : α) : Bool := le a b && le b a

theorem tied_self (total : ∀ a b, (le a b || le b a) = true) (a : α) : tied le a a = true := by
  rw [tied, Bool.and_self]
  exact (Bool.or_self _).symm.trans (total a a)

theorem mem_iff_of_classes (total : ∀ a b, (le a b || le b a) = true)
    (classes : ∀ a, l.filter (tied le a) = m.filter (tied le a)) (a : α) : a ∈ l ↔ a ∈ m := by
  have found : ∀ n : List α, a ∈ n ↔ a ∈ n.filter (tied le a) := fun n =>
    ⟨fun inside => List.mem_filter.2 ⟨inside, tied_self total a⟩, fun inside => (List.mem_filter.1 inside).1⟩
  rw [found l, classes, ← found m]

/-- Two sorted lists are equal if they agree on each class of entries that tie. -/
theorem eq_of_sorted_of_classes (total : ∀ a b, (le a b || le b a) = true)
    (sorted : l.Pairwise fun a b => le a b = true) (sorted' : m.Pairwise fun a b => le a b = true)
    (classes : ∀ a, l.filter (tied le a) = m.filter (tied le a)) : l = m := by
  have self : ∀ a, le a a = true := fun a => (Bool.or_self _).symm.trans (total a a)
  induction l generalizing m with
  | nil =>
    refine (List.eq_nil_iff_forall_not_mem.2 fun b inside => ?_).symm
    exact List.not_mem_nil ((mem_iff_of_classes total classes b).2 inside)
  | cons a l ih =>
    have mem := mem_iff_of_classes total classes
    cases m with
    | nil => exact absurd ((mem a).1 List.mem_cons_self) List.not_mem_nil
    | cons b m =>
      obtain ⟨least, rest⟩ := List.pairwise_cons.1 sorted
      obtain ⟨least', rest'⟩ := List.pairwise_cons.1 sorted'
      -- Each head stands first in a list that holds the other one too, so they tie.
      have before : le a b = true := by
        rcases List.mem_cons.1 ((mem b).2 List.mem_cons_self) with rfl | later
        · exact self b
        · exact least b later
      have after : le b a = true := by
        rcases List.mem_cons.1 ((mem a).1 List.mem_cons_self) with rfl | later
        · exact self a
        · exact least' a later
      have first := classes a
      rw [List.filter_cons_of_pos (tied_self total a),
        List.filter_cons_of_pos (by rw [tied, before, after]; rfl)] at first
      obtain rfl := (List.cons.inj first).1
      refine congrArg (a :: ·) (ih rest rest' fun c => ?_)
      have same := classes c
      rw [List.filter_cons, List.filter_cons] at same
      split at same
      · exact (List.cons.inj same).2
      · exact same

/-- Sorting leaves each class of entries that tie as it is. -/
theorem filter_tied_mergeSort (trans : ∀ a b c, le a b = true → le b c = true → le a c = true)
    (total : ∀ a b, (le a b || le b a) = true) (l : List α) (a : α) :
    (l.mergeSort le).filter (tied le a) = l.filter (tied le a) := by
  -- Entries that tie are in order already, so they come out as a sublist, and there are as many of them.
  have alike : (l.filter (tied le a)).Pairwise fun b c => le b c = true := by
    refine List.pairwise_of_forall_mem_list fun b left c right => ?_
    have left := Bool.and_eq_true_iff.1 (List.mem_filter.1 left).2
    have right := Bool.and_eq_true_iff.1 (List.mem_filter.1 right).2
    exact trans b a c left.2 right.1
  have kept : (l.filter (tied le a)).Sublist (l.mergeSort le) :=
    List.sublist_mergeSort trans total alike List.filter_sublist
  have inside := kept.filter (tied le a)
  rw [List.filter_filter] at inside
  simp only [Bool.and_self] at inside
  exact (inside.eq_of_length ((List.mergeSort_perm l le).filter _).length_eq.symm).symm

/-- **What comes of sorting depends on the order within each class only.** -/
theorem mergeSort_eq_of_classes (trans : ∀ a b c, le a b = true → le b c = true → le a c = true)
    (total : ∀ a b, (le a b || le b a) = true)
    (classes : ∀ a, l.filter (tied le a) = m.filter (tied le a)) : l.mergeSort le = m.mergeSort le :=
  eq_of_sorted_of_classes total (List.pairwise_mergeSort trans total l) (List.pairwise_mergeSort trans total m)
    fun a => by rw [filter_tied_mergeSort trans total, filter_tied_mergeSort trans total, classes]

end Sorting

/-! ### How aggregates are compared -/

instance : Std.TransOrd Tier :=
  inferInstanceAs (Std.TransCmp (compareOn Tier.index))

instance : Std.LawfulEqOrd Tier where
  compare_self {a} := (Std.ReflCmp.compare_self : compare a.index a.index = .eq)
  eq_of_compare h := Tier.index_injective (Std.LawfulEqOrd.eq_of_compare h)

namespace Console

def placeOrder : Aggregate → Aggregate → Ordering :=
  compareLex (compareOn Aggregate.timestamp) <|
    compareLex (compareOn Aggregate.tier) (compareOn fun a => a.series.canonical)

theorem shownBefore_eq (a b : Aggregate) : shownBefore a b = (placeOrder a b).isLE := by
  have same : shownBefore a b = (placeOrder a b != .gt) := rfl
  rw [same]
  cases placeOrder a b <;> rfl

instance : Std.TransCmp placeOrder :=
  inferInstanceAs (Std.TransCmp (compareLex _ (compareLex _ _)))

theorem shownBefore_trans (a b c : Aggregate) (first : shownBefore a b = true)
    (later : shownBefore b c = true) : shownBefore a c = true := by
  rw [shownBefore_eq] at first later ⊢
  exact Std.TransCmp.isLE_trans first later

theorem shownBefore_total (a b : Aggregate) : (shownBefore a b || shownBefore b a) = true := by
  have swap : placeOrder b a = (placeOrder a b).swap := Std.OrientedCmp.eq_swap
  rw [shownBefore_eq, shownBefore_eq, swap]
  cases placeOrder a b <;> rfl

/-- Aggregates are shown at one place if their times, their tiers and the texts of their series agree;
the series need not be the same. -/
theorem tied_shownBefore (a b : Aggregate) : tied shownBefore a b
    = decide (a.timestamp = b.timestamp ∧ a.tier = b.tier ∧ a.series.canonical = b.series.canonical) := by
  have swap : placeOrder b a = (placeOrder a b).swap := Std.OrientedCmp.eq_swap
  have eq : tied shownBefore a b = (placeOrder a b == .eq) := by
    rw [tied, shownBefore_eq, shownBefore_eq, swap]
    cases placeOrder a b <;> rfl
  rw [eq, Bool.eq_iff_iff, decide_eq_true_iff, beq_iff_eq, placeOrder, compareLex_eq_eq, compareLex_eq_eq,
    compareOn, compareOn, compareOn, Std.LawfulEqOrd.compare_eq_iff_eq, Std.LawfulEqOrd.compare_eq_iff_eq,
    Std.LawfulEqOrd.compare_eq_iff_eq]

end Console

end TierCascade
