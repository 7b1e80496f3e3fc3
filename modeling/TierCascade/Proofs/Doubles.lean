import Mathlib.Data.Prod.Lex
import Mathlib.Order.Compare
import TierCascade.Detector.State
/-!
# The order of doubles

All doubles but those that are no number stand in one line: by sign, then by exponent, then by mantissa
(`Doubles.rank`). That is all of doubles that the proofs about least and greatest values need. The two
zeros have the same place in the line, so the order does not tell them apart.
-/

namespace TierCascade

namespace Doubles

open Float.Model (UnpackedFloat)

/-- The place of a double in line. What is no number has none; here it gets that of zero. -/
def rank : UnpackedFloat → ℤ ×ₗ ℤ ×ₗ ℤ
  | .infinity .negative => toLex (-2, toLex (0, 0))
  | .finite .negative m e _ => toLex (-1, toLex (-e, -m))
  | .zero _ | .notANumber => toLex (0, toLex (0, 0))
  | .finite .positive m e _ => toLex (1, toLex (e, m))
  | .infinity .positive => toLex (2, toLex (0, 0))

theorem compare_same_sign (s e e' m m' : ℤ) :
    compare (toLex (s, toLex (e, m))) (toLex (s, toLex (e', m')))
      = (compare e e').then (compare m m') := by
  simp [Prod.Lex.compare_def, compareLex, compareOn]

theorem compare_neg_neg (i j : ℤ) : compare (-i) (-j) = (compare i j).swap := by
  rw [← Std.OrientedOrd.eq_swap]
  simp only [Int.compare_eq_ite_le, Int.neg_le_neg_iff]

theorem compare_natCast (n m : ℕ) : compare (n : ℤ) (m : ℤ) = compare n m := by
  simp only [Int.compare_eq_ite_le, Nat.compare_eq_ite_le, Int.ofNat_le]

/-- Doubles are compared by their places. -/
theorem compare_eq {a b : UnpackedFloat} (number : a.isNaN = false) (number' : b.isNaN = false) :
    a.compare b = some (compare (rank a) (rank b)) := by
  cases a with
  | notANumber => cases number
  | infinity s =>
    cases s <;> cases b with
    | notANumber => cases number'
    | infinity s' => cases s' <;> rfl
    | zero => rfl
    | finite s' => cases s' <;> rfl
  | zero =>
    cases b with
    | notANumber => cases number'
    | infinity s' => cases s' <;> rfl
    | zero => rfl
    | finite s' => cases s' <;> rfl
  | finite s m e =>
    cases b with
    | notANumber => cases number'
    | infinity s' => cases s <;> cases s' <;> rfl
    | zero => cases s <;> rfl
    | finite s' m' e' =>
      cases s <;> cases s'
      case positive.negative => rfl
      case negative.positive => rfl
      -- Only two doubles of one sign have to be looked at more closely.
      case positive.positive =>
        refine congrArg some (Eq.trans ?_ (compare_same_sign 1 e e' m m').symm)
        rw [compare_natCast]
      case negative.negative =>
        refine congrArg some (Eq.trans ?_ (compare_same_sign (-1) (-e) (-e') (-m) (-m')).symm)
        rw [compare_neg_neg, compare_neg_neg, compare_natCast, ← Ordering.swap_then]

theorem number_of_compare {a b : UnpackedFloat} {o : Ordering} (compared : a.compare b = some o) :
    a.isNaN = false ∧ b.isNaN = false := by
  cases a with
  | notANumber => cases compared
  | infinity s => cases b with
    | notANumber => cases s <;> cases compared
    | _ => exact ⟨rfl, rfl⟩
  | zero => cases b with
    | notANumber => cases compared
    | _ => exact ⟨rfl, rfl⟩
  | finite s => cases b with
    | notANumber => cases s <;> cases compared
    | _ => exact ⟨rfl, rfl⟩

variable {a b c : Float}

theorem le_iff : a ≤ b ↔ a.isNaN = false ∧ b.isNaN = false ∧
    rank a.toModel.unpack ≤ rank b.toModel.unpack := by
  have unfolded : a ≤ b ↔ a.toModel.unpack.le b.toModel.unpack = true := decide_eq_true_iff
  change _ ↔ a.toModel.unpack.isNaN = false ∧ b.toModel.unpack.isNaN = false ∧ _
  rw [unfolded, UnpackedFloat.le, Option.any_eq_true]
  constructor
  · rintro ⟨o, compared, below⟩
    obtain ⟨number, number'⟩ := number_of_compare compared
    rw [compare_eq number number', Option.some_inj] at compared
    subst compared
    exact ⟨number, number', compare_le_iff_le.1 (Ordering.ne_gt_iff_isLE.2 below)⟩
  · rintro ⟨number, number', below⟩
    exact ⟨_, compare_eq number number', Ordering.ne_gt_iff_isLE.1 (compare_le_iff_le.2 below)⟩

theorem lt_iff : a < b ↔ a.isNaN = false ∧ b.isNaN = false ∧
    rank a.toModel.unpack < rank b.toModel.unpack := by
  have unfolded : a < b ↔ a.toModel.unpack.lt b.toModel.unpack = true := decide_eq_true_iff
  change _ ↔ a.toModel.unpack.isNaN = false ∧ b.toModel.unpack.isNaN = false ∧ _
  rw [unfolded, UnpackedFloat.lt, beq_iff_eq]
  constructor
  · intro compared
    obtain ⟨number, number'⟩ := number_of_compare compared
    rw [compare_eq number number', Option.some_inj] at compared
    exact ⟨number, number', compare_lt_iff_lt.1 compared⟩
  · rintro ⟨number, number', first⟩
    rw [compare_eq number number', compare_lt_iff_lt.2 first]

theorem number_of_finite (finite : a.isFinite = true) : a.isNaN = false := by
  change a.toModel.unpack.isFinite = true at finite
  change a.toModel.unpack.isNaN = false
  cases shape : a.toModel.unpack with
  | notANumber =>
    rw [shape] at finite
    cases finite
  | _ => rfl

theorem le_self (number : a.isNaN = false) : a ≤ a := le_iff.2 ⟨number, number, le_refl _⟩

theorem le_chain (first : a ≤ b) (second : b ≤ c) : a ≤ c := by
  obtain ⟨number, -, low⟩ := le_iff.1 first
  obtain ⟨-, number', high⟩ := le_iff.1 second
  exact le_iff.2 ⟨number, number', low.trans high⟩

theorem le_of_lt (first : a < b) : a ≤ b := by
  obtain ⟨number, number', low⟩ := lt_iff.1 first
  exact le_iff.2 ⟨number, number', low.le⟩

theorem le_of_not_lt (number : a.isNaN = false) (number' : b.isNaN = false) (behind : ¬ a < b) :
    b ≤ a := by
  refine le_iff.2 ⟨number', number, ?_⟩
  rw [← not_lt]
  exact fun low => behind (lt_iff.2 ⟨number, number', low⟩)

/-! ### The smaller and the greater of two -/

section

variable (number : a.isNaN = false) (number' : b.isNaN = false)

include number number'

theorem choice_eq (first : Prop) [Decidable first] :
    (if a.isNaN ∨ ¬ b.isNaN ∧ ¬ first then b else a) = if first then a else b := by
  by_cases comes : first
  · rw [if_pos comes, if_neg]
    rintro (none | ⟨-, behind⟩)
    · rw [number] at none
      cases none
    · exact behind comes
  · rw [if_neg comes, if_pos]
    refine .inr ⟨?_, comes⟩
    rw [number']
    exact Bool.false_ne_true

theorem lesserOf_eq : lesserOf a b = if a < b then a else b := choice_eq number number' (a < b)

theorem greaterOf_eq : greaterOf a b = if b < a then a else b := choice_eq number number' (b < a)

theorem lesserOf_spec : (lesserOf a b = a ∨ lesserOf a b = b) ∧ lesserOf a b ≤ a ∧ lesserOf a b ≤ b := by
  rw [lesserOf_eq number number']
  split
  · rename_i first
    exact ⟨.inl rfl, le_self number, le_of_lt first⟩
  · rename_i behind
    exact ⟨.inr rfl, le_of_not_lt number number' behind, le_self number'⟩

theorem greaterOf_spec :
    (greaterOf a b = a ∨ greaterOf a b = b) ∧ a ≤ greaterOf a b ∧ b ≤ greaterOf a b := by
  rw [greaterOf_eq number number']
  split
  · rename_i first
    exact ⟨.inl rfl, le_self number, le_of_lt first⟩
  · rename_i behind
    exact ⟨.inr rfl, le_of_not_lt number' number behind, le_self number'⟩

end

theorem rank_le_infinity (u : UnpackedFloat) : rank u ≤ rank (.infinity .positive) := by
  cases u with
  | notANumber => exact Prod.Lex.toLex_le_toLex.2 (.inl (show (0 : ℤ) < 2 by decide))
  | zero => exact Prod.Lex.toLex_le_toLex.2 (.inl (show (0 : ℤ) < 2 by decide))
  | infinity s =>
    cases s
    case positive => exact le_refl _
    case negative => exact Prod.Lex.toLex_le_toLex.2 (.inl (show (-2 : ℤ) < 2 by decide))
  | finite s =>
    cases s
    case positive => exact Prod.Lex.toLex_le_toLex.2 (.inl (show (1 : ℤ) < 2 by decide))
    case negative => exact Prod.Lex.toLex_le_toLex.2 (.inl (show (-1 : ℤ) < 2 by decide))

theorem infinity_le_rank (u : UnpackedFloat) : rank (.infinity .negative) ≤ rank u := by
  cases u with
  | notANumber => exact Prod.Lex.toLex_le_toLex.2 (.inl (show (-2 : ℤ) < 0 by decide))
  | zero => exact Prod.Lex.toLex_le_toLex.2 (.inl (show (-2 : ℤ) < 0 by decide))
  | infinity s =>
    cases s
    case positive => exact Prod.Lex.toLex_le_toLex.2 (.inl (show (-2 : ℤ) < 2 by decide))
    case negative => exact le_refl _
  | finite s =>
    cases s
    case positive => exact Prod.Lex.toLex_le_toLex.2 (.inl (show (-2 : ℤ) < 1 by decide))
    case negative => exact Prod.Lex.toLex_le_toLex.2 (.inl (show (-2 : ℤ) < -1 by decide))

/-- The least value so far gives way to the first number. -/
theorem lesserOf_infinity (number : a.isNaN = false) : lesserOf (1 / 0) a = a := by
  have infinite : (1 / 0 : Float).toModel.unpack = .infinity .positive := rfl
  have behind : ¬ (1 / 0 : Float) < a := by
    intro first
    have low := (lt_iff.1 first).2.2
    rw [infinite] at low
    exact absurd low (not_lt.2 (rank_le_infinity _))
  rw [lesserOf_eq rfl number, if_neg behind]

theorem greaterOf_infinity (number : a.isNaN = false) : greaterOf (-1 / 0) a = a := by
  have infinite : (-1 / 0 : Float).toModel.unpack = .infinity .negative := rfl
  have behind : ¬ a < (-1 / 0 : Float) := by
    intro first
    have low := (lt_iff.1 first).2.2
    rw [infinite] at low
    exact absurd low (not_lt.2 (infinity_le_rank _))
  rw [greaterOf_eq rfl number, if_neg behind]

end Doubles

end TierCascade
