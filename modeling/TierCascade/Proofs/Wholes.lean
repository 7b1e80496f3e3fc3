import Mathlib
import TierCascade.Decimal.Numeral
/-!
# Whole numbers as doubles

Whoever reads a number looks for its double first, also if it is a whole number that is wanted, and refuses
a number that is beyond all doubles. No whole number of sixty-four bits is: rounding adds one bit to a
mantissa at most, so a double is finite as long as its exponent is far from the largest one (`Doubles.Low`).
-/

namespace TierCascade

namespace Doubles

open Float.Model (UnpackedFloat Format totalExponent)
open Float.Model.UnpackedFloat

/-- A finite double, taken apart into a mantissa of at most `n` bits and an exponent of at most `k`. -/
inductive Low (n : Nat) (k : Int) : UnpackedFloat → Prop where
  | zero (sign : Sign) : Low n k (.zero sign)
  | finite {sign : Sign} {m : Nat} {e : Int} {pos : 0 < m} (mantissa : m < 2 ^ n) (exponent : e ≤ k) :
      Low n k (.finite sign m e pos)

variable {m n : Nat} {j k e : Int} {f g : UnpackedFloat}

theorem Low.isFinite (low : Low n k f) : f.isFinite = true := by
  cases low <;> rfl

theorem log2_le_of_lt (bits : m < 2 ^ n) : m.log2 ≤ n := by
  by_cases zero : m = 0
  · rw [zero, Nat.log2_zero]
    exact Nat.zero_le n
  · exact ((Nat.log2_lt zero).2 bits).le

/-! ### Rounding -/

theorem mantissa_shiftRight_le (em : ExtendedMantissa) (i : Nat) : (em >>> i).mantissa ≤ em.mantissa := by
  change (Nat.repeat ExtendedMantissa.shiftRightOne i em).mantissa ≤ em.mantissa
  induction i with
  | zero => exact le_rfl
  | succ i ih => exact (Nat.div_le_self _ 2).trans ih

theorem roundToNearestEven_le (m : Nat) (a : Accuracy) : a.roundToNearestEven m ≤ m + 1 := by
  rcases a with - | (_ | _ | _) <;> simp only [Accuracy.roundToNearestEven] <;> omega

theorem shiftToTargetExponent_le (mantissa : m < 2 ^ n) (exponent : e ≤ k) (least : -1074 ≤ k) (a : Accuracy) :
    (shiftToTargetExponent .binary64 m e a).1.mantissa ≤ m ∧
      (shiftToTargetExponent .binary64 m e a).2 ≤ n + k := by
  have bits := log2_le_of_lt mantissa
  constructor
  · refine (mantissa_shiftRight_le _ _).trans ?_
    rcases a with - | (_ | _ | _) <;> exact le_rfl
  · have target : Format.binary64.targetExponent (totalExponent m e) = max (m.log2 + 1 + e - 53) (-1074) := rfl
    simp only [shiftToTargetExponent, shiftToExponent, target]
    omega

theorem low_round (mantissa : m < 2 ^ n) (exponent : e ≤ k) (least : -1074 ≤ k) (a : Accuracy) (s : Sign) :
    Low (n + 1) (2 * n + 1 + k) (roundWithAccuracy .binary64 s m e a) := by
  unfold roundWithAccuracy
  obtain ⟨mantissa₁, exponent₁⟩ := shiftToTargetExponent_le mantissa exponent least a
  generalize shiftToTargetExponent .binary64 m e a = first at *
  obtain ⟨em, e₁⟩ := first
  have rounded : em.roundedMantissa < 2 ^ (n + 1) := by
    have up : em.roundedMantissa ≤ em.mantissa + 1 := roundToNearestEven_le em.mantissa em.accuracy
    have double : 2 ^ (n + 1) = 2 * 2 ^ n := Nat.pow_succ'
    dsimp only at mantissa₁
    omega
  -- Rounding up may have made the mantissa too long, so it is moved once more.
  obtain ⟨mantissa₂, exponent₂⟩ := shiftToTargetExponent_le rounded exponent₁ (by omega) .exact
  dsimp only
  generalize shiftToTargetExponent .binary64 em.roundedMantissa e₁ .exact = second at *
  split
  · exact .zero s
  · exact .finite (by omega) (by push_cast at exponent₂; omega)

/-! ### Bits -/

theorem low_unpack_packComponents {s : Sign} {exponent : BitVec 11} {mantissa : BitVec 52}
    (number : exponent ≠ -1#11) (below : exponent.toNat ≤ k + 1075) (least : -1074 ≤ k) :
    Low 53 k (unpack .binary64 (packComponents .binary64 s exponent mantissa)) := by
  simp only [unpack, unpackExponent_packComponents, unpackMantissa_packComponents]
  rw [if_neg number]
  split
  · rename_i lowest
    split
    · exact .zero _
    · refine .finite (mantissa.isLt.trans (by decide)) ?_
      rw [lowest]
      exact least
  · refine .finite (BitVec.isLt _) ?_
    change (exponent.toNat : Int) - 1075 ≤ k
    omega

/-- A double that is not too large is still there after its bits were put together. -/
theorem Low.unpack_pack (low : Low n k f) (small : k ≤ 971) (least : -1074 ≤ k) :
    Low 53 k (unpack .binary64 (pack .binary64 f)) := by
  cases low with
  | zero s => exact low_unpack_packComponents (by decide) (by simp; omega) least
  | @finite s m e pos mantissa exponent =>
    have biased : (e + Format.binary64.exponentBias + Format.binary64.mantissaBitsWithoutImplicit).toNat
        = (e + 1075).toNat := by rw [Int.add_assoc]; rfl
    simp only [pack, biased]
    rw [if_neg (show ¬ 2 ^ 11 ≤ (e + 1075).toNat + 1 by omega)]
    split
    · have kept : (BitVec.ofNat 11 (e + 1075).toNat).toNat = (e + 1075).toNat := by
        rw [BitVec.toNat_ofNat, Nat.mod_eq_of_lt (by omega)]
      refine low_unpack_packComponents (fun largest => ?_) (by rw [kept]; omega) least
      have bits := congrArg BitVec.toNat largest
      rw [kept] at bits
      simp only [BitVec.reduceNeg, BitVec.reduceToNat] at bits
      omega
    · exact low_unpack_packComponents (by decide) (by simp; omega) least

theorem low_one : Low 53 0 (Float.ofBits 0x3FF0000000000000).toModel.unpack := by
  have one : (Float.ofBits 0x3FF0000000000000).toModel.unpack
      = .finite .positive (2 ^ 52) (-52) (Nat.two_pow_pos 52) := rfl
  rw [one]
  exact .finite (by decide) (by decide)

/-! ### Whole numbers -/

theorem Low.mul (first : Low m j f) (second : Low n k g) (least : -1074 ≤ j + k) :
    Low (m + n + 1) (2 * (m + n) + 1 + (j + k)) (UnpackedFloat.mul .binary64 f g) := by
  cases first with
  | zero => cases second <;> exact .zero _
  | finite mantissa exponent =>
    cases second with
    | zero => exact .zero _
    | finite mantissa' exponent' =>
      have product := Nat.mul_lt_mul'' mantissa mantissa'
      rw [← Nat.pow_add] at product
      have low := low_round product (Int.add_le_add exponent exponent') least .exact
      push_cast at low
      exact low _

theorem shiftLeft_lt (word : m < 2 ^ 64) : m <<< (52 - m.log2) < 2 ^ 64 := by
  by_cases long : 52 < m.log2
  · rwa [Nat.sub_eq_zero_of_le (by omega), Nat.shiftLeft_zero]
  · rw [Nat.shiftLeft_eq]
    calc m * 2 ^ (52 - m.log2)
        < 2 ^ (m.log2 + 1) * 2 ^ (52 - m.log2) :=
          Nat.mul_lt_mul_of_pos_right Nat.lt_log2_self (Nat.two_pow_pos _)
      _ = 2 ^ 53 := by rw [← Nat.pow_add]; congr 1; omega
      _ < 2 ^ 64 := by decide

theorem low_ofNat (word : m < 2 ^ 64) : Low 65 129 (UnpackedFloat.ofNat .binary64 m) := by
  unfold UnpackedFloat.ofNat ofInt UnpackedFloat.normalize
  split
  · rename_i negative
    rw [Int.compare_eq_lt] at negative
    omega
  · exact .zero _
  · have target : Format.binary64.targetExponent (totalExponent m 0)
        = max ((m.log2 : Int) + 1 + 0 - 53) (-1074) := rfl
    have shift : (0 - Format.binary64.targetExponent (totalExponent m 0)).toNat = 52 - m.log2 := by
      have bits := log2_le_of_lt word
      rw [target]
      omega
    simp only [UnpackedFloat.round, decreaseExponent, Int.toNat_natCast, shift]
    exact @low_round _ 64 0 _ (shiftLeft_lt word) (by omega) (by decide) _ _

theorem low_ofScientific (word : m < 2 ^ 64) : Low 119 184 (UnpackedFloat.ofScientific .binary64 m 0) := by
  have bits : m <<< 53 < 2 ^ 117 := by
    rw [Nat.shiftLeft_eq]
    calc m * 2 ^ 53 < 2 ^ 64 * 2 ^ 53 := Nat.mul_lt_mul_of_pos_right word (Nat.two_pow_pos 53)
      _ = 2 ^ 117 := (Nat.pow_add 2 64 53).symm
  unfold UnpackedFloat.ofScientific
  split
  · exact .zero _
  · have large : (0 : Int) ≤ 2 ^ Format.binary64.exponentBits + (m.log2 : Int) :=
      Int.add_nonneg (Int.pow_nonneg (by decide)) (Int.natCast_nonneg _)
    rw [if_neg (by decide), if_neg (by omega), if_pos le_rfl]
    have first : ∀ pos, Low 117 (-53) (.finite .positive (m <<< 53) (-53) pos) := fun _ => .finite bits le_rfl
    have second : ∀ pos, Low 1 0 (.finite .positive (10 ^ 0) 0 pos) := fun _ => .finite (by decide) le_rfl
    exact (first _).mul (second _) (by decide)

/-- **No whole number of sixty-four bits is beyond all doubles.** -/
theorem isFinite_ofScientific (word : m < 2 ^ 64) : (Float.ofScientific m false 0).isFinite = true := by
  unfold Float.ofScientific
  split
  · -- A short number is turned into a double as it is and multiplied by one.
    have number := (low_ofNat m.toUInt64.toNat_lt).unpack_pack (by decide) (by decide)
    exact ((number.mul low_one (by decide)).unpack_pack (by decide) (by decide)).isFinite
  · exact ((low_ofScientific word).unpack_pack (by decide) (by decide)).isFinite

end Doubles

/-- **A whole number of sixty-four bits has a double.** -/
theorem Numeral.exists_toFloat_ofInt {i : Int} (word : i.natAbs < 2 ^ 64) :
    ∃ x, (Numeral.ofInt i).toFloat? = some x := by
  have digits : (Nat.toDigits 10 i.natAbs).length ≤ 20 :=
    (Nat.length_toDigits_le_iff (by decide) (by decide)).2 (word.trans (by decide))
  have finite := Doubles.isFinite_ofScientific word
  have power : (Numeral.ofInt i).leadingPower ≤ 400 := by
    simp only [leadingPower, lastPower, ofInt, Option.getD_none]
    omega
  unfold toFloat?
  by_cases little : (Numeral.ofInt i).coefficient = 0 ∨ (Numeral.ofInt i).leadingPower < -400
  · exact ⟨_, if_pos little⟩
  · exact ⟨_, (if_neg little).trans ((if_neg (not_lt.2 power)).trans (if_pos finite))⟩

end TierCascade
