import Mathlib.Algebra.BigOperators.Ring.List
import Mathlib.Algebra.Order.BigOperators.Group.List
import Mathlib.Data.Finset.Max
import Mathlib.Algebra.Order.Field.Rat
import Mathlib.Tactic.FieldSimp
import Mathlib.Tactic.LinearCombination
import Mathlib.Tactic.Linarith
import Mathlib.Tactic.Positivity
import Mathlib.Tactic.Ring
import TierCascade.Proofs.Snoozing
/-!
# Moments as weighted means

Read over exact numbers, the mean and the variance that are kept of a growing sequence are those of its numbers
under certain weights. Both halves of the recurrence do the same: a number that is taken in gets a share
(`Moments.share`), and the older ones lose that share in proportion. So the weights can be written down
(`Moments.weights`), and one step of the recurrence is one step of theirs (`Moments.Weighs.fold`).

During the warm-up the variance is not kept as such but as a sum of squares; that both say the same is part of
the invariant.
-/

namespace TierCascade

/-! ### Weighted numbers -/

namespace Weighted

variable {ws xs : List ℚ}

/-- The mean of some numbers under some weights. -/
def mean (ws xs : List ℚ) : ℚ := (List.zipWith (· * ·) ws xs).sum

def variance (ws xs : List ℚ) : ℚ := mean ws (xs.map fun x => (x - mean ws xs) ^ 2)

theorem mean_cons (w x : ℚ) : mean (w :: ws) (x :: xs) = w * x + mean ws xs := List.sum_cons

theorem mean_scale (c : ℚ) (same : ws.length = xs.length) : mean (ws.map (c * ·)) xs = c * mean ws xs := by
  induction ws generalizing xs with
  | nil => cases xs <;> simp [mean]
  | cons w ws ih =>
    cases xs with
    | nil => cases same
    | cons x xs =>
      rw [List.map_cons, mean_cons, mean_cons, ih (Nat.succ.inj same)]
      ring

theorem mean_linear (f : ℚ → ℚ) (a b c : ℚ) (same : ws.length = xs.length) :
    mean ws (xs.map fun x => a * f x + b * x + c)
      = a * mean ws (xs.map f) + b * mean ws xs + ws.sum * c := by
  induction ws generalizing xs with
  | nil => cases xs <;> simp [mean]
  | cons w ws ih =>
    cases xs with
    | nil => cases same
    | cons x xs =>
      simp only [List.map_cons, mean_cons, List.sum_cons, ih (Nat.succ.inj same)]
      ring

theorem mean_squares (c d : ℚ) (same : ws.length = xs.length) :
    mean ws (xs.map fun x => (x - c) ^ 2)
      = mean ws (xs.map fun x => (x - d) ^ 2) + 2 * (d - c) * (mean ws xs - ws.sum * d)
        + ws.sum * (d - c) ^ 2 := by
  have expand : (fun x : ℚ => (x - c) ^ 2)
      = fun x => 1 * (x - d) ^ 2 + 2 * (d - c) * x + ((d - c) ^ 2 - 2 * (d - c) * d) := by
    funext x
    ring
  rw [expand, mean_linear (fun x => (x - d) ^ 2) _ _ _ same]
  ring

/-! ### One more number -/

/-- The weights after one more number has taken its share from all of them in proportion. -/
def shared (s : ℚ) (ws : List ℚ) : List ℚ := ws.map ((1 - s) * ·) ++ [s]

theorem mean_shared (s x : ℚ) (same : ws.length = xs.length) :
    mean (shared s ws) (xs ++ [x]) = (1 - s) * mean ws xs + s * x := by
  have length : (ws.map ((1 - s) * ·)).length = xs.length := List.length_map .. |>.trans same
  have scaled := mean_scale (1 - s) same
  rw [mean, shared, List.zipWith_append length, List.sum_append, List.zipWith_cons_cons, List.zipWith_nil_left,
    List.sum_singleton]
  exact congrArg (· + s * x) scaled

/-- The variance grows by the share of the squared distance, as long as there is a whole to take it from. -/
theorem variance_shared (s x : ℚ) (same : ws.length = xs.length) (whole : (1 - s) * ws.sum = 1 - s) :
    variance (shared s ws) (xs ++ [x]) = (1 - s) * (variance ws xs + s * (x - mean ws xs) ^ 2) := by
  rw [variance, mean_shared s x same, List.map_append, List.map_singleton,
    mean_shared s _ (same.trans (List.length_map _).symm), mean_squares _ (mean ws xs) same, variance]
  linear_combination (s ^ 2 * (x - mean ws xs) ^ 2 + 2 * s * (x - mean ws xs) * mean ws xs) * whole

/-! ### Bounds -/

section

variable (weighs : ∀ w ∈ ws, 0 ≤ w)

include weighs

theorem mean_nonneg (above : ∀ x ∈ xs, 0 ≤ x) : 0 ≤ mean ws xs := by
  refine List.sum_nonneg fun y mem => ?_
  obtain ⟨i, inside, rfl⟩ := List.getElem_of_mem mem
  rw [List.getElem_zipWith]
  exact mul_nonneg (weighs _ (List.getElem_mem _)) (above _ (List.getElem_mem _))

theorem variance_nonneg : 0 ≤ variance ws xs := by
  refine mean_nonneg weighs fun y mem => ?_
  obtain ⟨x, -, rfl⟩ := List.mem_map.1 mem
  exact sq_nonneg _

theorem le_linear_mean {b c : ℚ} (whole : ws.sum = 1) (same : ws.length = xs.length)
    (above : ∀ x ∈ xs, 0 ≤ b * x + c) : 0 ≤ b * mean ws xs + c := by
  have linear := mean_linear (fun _ => 0) 0 b c same
  have nonneg : 0 ≤ mean ws (xs.map fun x => 0 * 0 + b * x + c) := mean_nonneg weighs fun y mem => by
    obtain ⟨x, old, rfl⟩ := List.mem_map.1 mem
    linarith [above x old]
  rw [linear, whole] at nonneg
  linarith

end

end Weighted

/-! ### The weights -/

namespace Moments

/-- How much a number weighs when it is taken in as the `n`-th. -/
def share (warmup : Nat) (rate : ℚ) (n : Nat) : ℚ := if n ≤ Nat.max warmup 1 then 1 / n else rate

/-- How much the `i`-th of `n` numbers weighs. -/
def weightOf (warmup : Nat) (rate : ℚ) (n i : Nat) : ℚ :=
  let w := Nat.max warmup 1
  if n ≤ w then 1 / n
  else if i ≤ w then (1 - rate) ^ (n - w) / w
  else rate * (1 - rate) ^ (n - i)

/-- How much each of `n` numbers weighs, from the first to the last. -/
def weights (warmup : Nat) (rate : ℚ) (n : Nat) : List ℚ :=
  (List.range' 1 n).map (weightOf warmup rate n)

section

variable (warmup : Nat) (rate : ℚ) (n : Nat)

theorem length_weights : (weights warmup rate n).length = n := by
  rw [weights, List.length_map, List.length_range']

theorem share_one : share warmup rate 1 = 1 := by
  rw [share, if_pos (Nat.le_max_right ..), Nat.cast_one, div_one]

theorem weightOf_self : weightOf warmup rate (n + 1) (n + 1) = share warmup rate (n + 1) := by
  unfold weightOf share
  simp only
  by_cases warm : n + 1 ≤ Nat.max warmup 1
  · rw [if_pos warm, if_pos warm]
  · rw [if_neg warm, if_neg warm, if_neg warm, Nat.sub_self, pow_zero, mul_one]

/-- A number that is taken in takes its share from all others in proportion. -/
theorem weightOf_succ {i : Nat} (first : 1 ≤ i) (last : i ≤ n) :
    weightOf warmup rate (n + 1) i = (1 - share warmup rate (n + 1)) * weightOf warmup rate n i := by
  have some : (n : ℚ) ≠ 0 := Nat.cast_ne_zero.2 (by omega)
  have next : ((n : ℚ) + 1) ≠ 0 := Nat.cast_add_one_ne_zero n
  unfold weightOf share
  generalize Nat.max warmup 1 = w
  simp only
  by_cases warm : n + 1 ≤ w
  · rw [if_pos warm, if_pos warm, if_pos (by omega : n ≤ w)]
    push_cast
    field_simp
    ring
  · rw [if_neg warm, if_neg warm]
    by_cases edge : n ≤ w
    · obtain rfl : n = w := by omega
      rw [if_pos last, if_pos edge, Nat.add_sub_cancel_left, pow_one, mul_one_div]
    · have later : n + 1 - w = n - w + 1 := by omega
      have after : n + 1 - i = n - i + 1 := by omega
      rw [if_neg edge, later, after]
      split
      · rw [pow_succ]
        ring
      · rw [pow_succ]
        ring

theorem weights_succ : weights warmup rate (n + 1)
    = Weighted.shared (share warmup rate (n + 1)) (weights warmup rate n) := by
  have last : 1 + 1 * n = n + 1 := by omega
  rw [weights, List.range'_concat, List.map_append, last, List.map_singleton, weightOf_self, Weighted.shared,
    weights, List.map_map]
  congr 1
  refine List.map_congr_left fun i mem => ?_
  rw [List.mem_range'_1] at mem
  exact weightOf_succ warmup rate n mem.1 (by omega)

variable {n}

theorem sum_weights (some : n ≠ 0) : (weights warmup rate n).sum = 1 := by
  induction n with
  | zero => exact absurd rfl some
  | succ n ih =>
    rw [weights_succ, Weighted.shared, List.sum_append, List.sum_map_mul_left, List.map_id', List.sum_singleton]
    by_cases first : n = 0
    · subst first
      rw [share_one]
      ring
    · rw [ih first]
      ring

end

theorem weights_nonneg {warmup : Nat} {rate : ℚ} (low : 0 < rate) (high : rate ≤ 1) (n : Nat) :
    ∀ w ∈ weights warmup rate n, 0 ≤ w := by
  intro w mem
  obtain ⟨i, -, rfl⟩ := List.mem_map.1 mem
  have rest : 0 ≤ 1 - rate := sub_nonneg.2 high
  unfold weightOf
  simp only
  split
  · positivity
  · split <;> positivity

/-! ### The recurrence -/

/-- Moments that are those of some numbers under their weights. -/
structure Weighs (warmup : Nat) (rate : ℚ) (xs : List ℚ) (m : Moments ℚ) : Prop where
  count : m.count = xs.length
  squares : m.count ≤ Nat.max warmup 1 → m.squares = m.count * m.variance
  mean : m.mean = Weighted.mean (weights warmup rate xs.length) xs
  variance : m.variance = Weighted.variance (weights warmup rate xs.length) xs

namespace Weighs

variable {warmup : Nat} {rate : ℚ} {xs : List ℚ} {m : Moments ℚ}

theorem zero (warmup : Nat) (rate : ℚ) : Weighs warmup rate [] .zero where
  count := rfl
  squares _ := (zero_mul _).symm
  mean := rfl
  variance := rfl

/-- Both halves of the recurrence do the same. -/
theorem fold_eq (weighs : Weighs warmup rate xs m) (x : ℚ) :
    let s := share warmup rate (xs.length + 1)
    (m.fold warmup rate x).mean = (1 - s) * m.mean + s * x ∧
      (m.fold warmup rate x).variance = (1 - s) * (m.variance + s * (x - m.mean) ^ 2) ∧
      ((m.fold warmup rate x).count ≤ Nat.max warmup 1 →
        (m.fold warmup rate x).squares = (m.fold warmup rate x).count * (m.fold warmup rate x).variance) := by
  have next : ((xs.length : ℚ) + 1) ≠ 0 := Nat.cast_add_one_ne_zero _
  simp only [fold, share, weighs.count]
  by_cases warm : xs.length + 1 ≤ Nat.max warmup 1
  · have squares : m.squares = xs.length * m.variance := by
      rw [weighs.squares (by rw [weighs.count]; omega), weighs.count]
    simp only [if_pos warm, squares]
    push_cast
    refine ⟨?_, ?_, fun _ => ?_⟩ <;> field_simp <;> ring
  · simp only [if_neg warm]
    refine ⟨?_, ?_, fun cold => absurd cold warm⟩ <;> ring

/-- **Moments stay those of the numbers under their weights.** -/
theorem fold (weighs : Weighs warmup rate xs m) (x : ℚ) :
    Weighs warmup rate (xs ++ [x]) (m.fold warmup rate x) := by
  obtain ⟨mean, variance, squares⟩ := weighs.fold_eq x
  have same : (weights warmup rate xs.length).length = xs.length := length_weights ..
  have length : (xs ++ [x]).length = xs.length + 1 := List.length_append
  -- The first number takes all of the weight; later there is a whole to take a share from.
  have whole : (1 - share warmup rate (xs.length + 1)) * (weights warmup rate xs.length).sum
      = 1 - share warmup rate (xs.length + 1) := by
    by_cases first : xs.length = 0
    · rw [first, share_one, sub_self, zero_mul]
    · rw [sum_weights warmup rate first, mul_one]
  refine ⟨?_, squares, ?_, ?_⟩
  · rw [count_fold, weighs.count, length]
  · rw [mean, weighs.mean, length, weights_succ, Weighted.mean_shared _ _ same]
  · rw [variance, weighs.variance, weighs.mean, length, weights_succ, Weighted.variance_shared _ _ same whole]

theorem foldl (warmup : Nat) (rate : ℚ) (xs : List ℚ) :
    Weighs warmup rate xs (xs.foldl (Moments.fold warmup rate) .zero) := by
  induction xs using List.reverseRecOn with
  | nil => exact zero warmup rate
  | append_singleton xs x ih =>
    rw [List.foldl_append]
    exact ih.fold x

end Weighs

/-- **Moments are weighted moments.** Read over exact numbers, the mean and the variance that are kept of a
sequence are those of its numbers under their weights, which are not negative and make one together. So the mean
lies between the least and the greatest of the numbers, and the variance is not negative: bounding it by zero
before the root is taken never changes it. -/
theorem foldl_weighted (warmup : Nat) {rate : ℚ} (low : 0 < rate) (high : rate ≤ 1) {xs : List ℚ}
    (some : xs ≠ []) :
    let m : Moments ℚ := xs.foldl (Moments.fold warmup rate) .zero
    let ws : List ℚ := weights warmup rate xs.length
    m.count = xs.length ∧ m.mean = Weighted.mean ws xs ∧ m.variance = Weighted.variance ws xs ∧
      (∀ w ∈ ws, 0 ≤ w) ∧ ws.sum = 1 ∧
      (∃ least ∈ xs, ∃ greatest ∈ xs, (∀ x ∈ xs, least ≤ x ∧ x ≤ greatest) ∧
        least ≤ m.mean ∧ m.mean ≤ greatest) ∧
      0 ≤ m.variance ∧ max m.variance 0 = m.variance := by
  have weighs := Weighs.foldl warmup rate xs
  have nonneg : ∀ w ∈ weights warmup rate xs.length, 0 ≤ w := weights_nonneg low high xs.length
  have whole := sum_weights warmup rate (mt List.length_eq_zero_iff.1 some)
  have same := length_weights warmup rate xs.length
  have variance : 0 ≤ Weighted.variance (weights warmup rate xs.length) xs := Weighted.variance_nonneg nonneg
  obtain ⟨least, first, below⟩ := xs.toFinset.exists_min_image id (List.toFinset_nonempty_iff xs |>.2 some)
  obtain ⟨greatest, last, above⟩ := xs.toFinset.exists_max_image id (List.toFinset_nonempty_iff xs |>.2 some)
  have lower : ∀ x ∈ xs, least ≤ x := fun x mem => below x (List.mem_toFinset.2 mem)
  have upper : ∀ x ∈ xs, x ≤ greatest := fun x mem => above x (List.mem_toFinset.2 mem)
  rw [← weighs.variance] at variance
  refine ⟨weighs.count, weighs.mean, weighs.variance, nonneg, whole, ⟨least, List.mem_toFinset.1 first,
    greatest, List.mem_toFinset.1 last, fun x mem => ⟨lower x mem, upper x mem⟩, ?_, ?_⟩, variance,
    max_eq_left variance⟩
  · rw [weighs.mean]
    have bound := Weighted.le_linear_mean (b := 1) (c := -least) nonneg whole same fun x mem => by
      linarith [lower x mem]
    linarith
  · rw [weighs.mean]
    have bound := Weighted.le_linear_mean (b := -1) (c := greatest) nonneg whole same fun x mem => by
      linarith [upper x mem]
    linarith

/-- Two numbers of warm-up and one after them, which takes half of the weight. -/
theorem foldl_weighted_trial :
    weights 2 (1 / 2) 3 = [1 / 4, 1 / 4, 1 / 2] ∧
      (([1, 3, 8] : List ℚ).foldl (Moments.fold 2 (1 / 2)) .zero).mean = 5 ∧
      (([1, 3, 8] : List ℚ).foldl (Moments.fold 2 (1 / 2)) .zero).variance = 19 / 2 := by
  have low : (0 : ℚ) < 1 / 2 := by norm_num
  have high : (1 / 2 : ℚ) ≤ 1 := by norm_num
  obtain ⟨-, mean, variance, -⟩ := foldl_weighted 2 low high (List.cons_ne_nil (1 : ℚ) [3, 8])
  refine ⟨by decide +kernel, mean.trans (by decide +kernel), variance.trans (by decide +kernel)⟩

end Moments

/-- The states of a series run this recurrence over doubles. -/
theorem SeriesState.moments_course (t : Tuning) (tier : Tier) (s : SeriesState) (xs : List Sample) :
    s.moments :: (course t tier s xs).map (·.2.moments)
      = ((xs.filter (·.value.isFinite)).map (·.value)).scanl (Moments.fold t.warmup t.alpha) s.moments := by
  induction xs generalizing s with
  | nil => rfl
  | cons x xs ih =>
    rw [List.filter_cons]
    by_cases finite : x.value.isFinite = true
    · rw [if_pos finite, course_cons_of_finite t tier s xs finite, List.map_cons, List.map_cons, List.scanl_cons]
      exact congrArg (s.moments :: ·) (ih _)
    · rw [if_neg finite, course_cons_of_not_finite t tier s xs finite, ih]

end TierCascade
