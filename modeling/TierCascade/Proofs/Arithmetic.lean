import TierCascade.Proofs.Doubles
import TierCascade.Proofs.Rounding
/-!
# The arithmetic of doubles

The value of a finite double is a rational number (`Doubles.value`), and a sum, a difference, a product or a
quotient of doubles is what the exact one is rounded to, unless that is beyond all doubles
(`Doubles.Rounded`). The order of doubles is that of their values.
-/

namespace TierCascade

namespace Doubles

open Float.Model (UnpackedFloat Format totalExponent)
open Float.Model.UnpackedFloat

/-- The number that a finite double stands for. -/
def value (x : Float) : ℚ := valueOf x.toModel.unpack

/-- The double is what a number is rounded to, if that is not beyond all doubles. -/
def Rounded (x : Float) (q : ℚ) : Prop := ∃ r, Nearest q r ∧ (|r| < 2 ^ 1024 → x.isFinite = true ∧ value x = r)

variable {x y : Float} {q r h : ℚ} {f g : UnpackedFloat} {m n : ℕ} {e : ℤ}

theorem twoPow_lt {j : ℤ} (below : j < 1024) : (2 : ℚ) ^ j < 2 ^ 1024 := by
  rw [← zpow_natCast]
  exact zpow_lt_zpow_right₀ one_lt_two below

theorem canonical_of_finite (finite : x.isFinite = true) : Canonical x.toModel.unpack := (canonical_unpack finite).1

theorem grid_value (finite : x.isFinite = true) : Grid (value x) := (canonical_of_finite finite).grid

theorem Canonical.isFinite (canonical : Canonical f) : f.isFinite = true := by
  cases canonical <;> rfl

/-- An unpacked double in canonical form is nearest to the exact value. -/
def Settled (f : UnpackedFloat) (q : ℚ) : Prop := Canonical f ∧ Nearest q (valueOf f)

theorem Canonical.settled (canonical : Canonical f) : Settled f (valueOf f) :=
  ⟨canonical, .self canonical.grid⟩

theorem Settled.rounded (settled : Settled f q) : Rounded (.ofModel (.pack f)) q := by
  obtain ⟨canonical, nearest⟩ := settled
  refine ⟨valueOf f, nearest, fun small => ?_⟩
  have kept : (Float.Model.pack f).unpack = f := canonical.unpack_pack small
  constructor
  · show (Float.Model.pack f).unpack.isFinite = true
    rw [kept]
    exact canonical.isFinite
  · show valueOf (Float.Model.pack f).unpack = valueOf f
    rw [kept]

/-- What is rounded between two points of the grid below the end of all doubles is finite. -/
theorem Rounded.abs_le_of_abs_le (rounded : Rounded x q) (grid : Grid h) (small : h < 2 ^ 1024) (within : |q| ≤ h) :
    x.isFinite = true ∧ Nearest q (value x) ∧ |value x| ≤ h := by
  obtain ⟨r, nearest, result⟩ := rounded
  have bound := nearest.abs_le_of_abs_le grid within
  obtain ⟨finite, rfl⟩ := result (bound.trans_lt small)
  exact ⟨finite, nearest, bound⟩

theorem Rounded.exact (rounded : Rounded x q) (grid : Grid q) (small : |q| < 2 ^ 1024) :
    x.isFinite = true ∧ value x = q := by
  obtain ⟨r, nearest, result⟩ := rounded
  have closest := nearest.closest q grid
  rw [sub_self, abs_zero] at closest
  obtain rfl : r = q := sub_eq_zero.1 (abs_nonpos_iff.1 closest)
  exact result small

/-! ### Sums and differences -/

theorem shiftLeft_value (m k : ℕ) (e : ℤ) : ((m <<< k : ℕ) : ℚ) * 2 ^ (e - k) = m * 2 ^ e := by
  rw [Nat.shiftLeft_eq, Nat.cast_mul, Nat.cast_pow, Nat.cast_ofNat, mul_assoc, ← zpow_natCast,
    ← zpow_add₀ two_ne_zero]
  congr 2
  omega

theorem settled_round (some : m ≠ 0) (s : Sign) (e : ℤ) :
    Settled (UnpackedFloat.round .binary64 s m e) (factor s * (m * 2 ^ e)) := by
  obtain ⟨k, moved, ready⟩ : ∃ k : ℕ, decreaseExponent m e (Format.binary64.targetExponent (totalExponent m e))
      = (m <<< k, e - k) ∧ Ready (m <<< k) (e - k) := by
    refine ⟨_, rfl, ?_⟩
    rw [targetExponent_eq]
    generalize shift : (e - max ((m.log2 : ℤ) + 1 + e - 53) (-1074)).toNat = k
    rcases (by omega : 52 ≤ m.log2 + k ∨ e - k ≤ -1074) with long | low
    · left
      rw [Nat.shiftLeft_eq]
      calc 2 ^ 52 ≤ 2 ^ (m.log2 + k) := Nat.pow_le_pow_right two_pos long
        _ = 2 ^ m.log2 * 2 ^ k := pow_add 2 _ _
        _ ≤ m * 2 ^ k := Nat.mul_le_mul_right _ (Nat.log2_self_le some)
    · exact .inr low
  have settled := nearest_roundWithAccuracy ready (standsFor_exact (m <<< k)) s
  rw [shiftLeft_value] at settled
  simp only [UnpackedFloat.round, moved]
  exact settled

theorem settled_normalize (i e : ℤ) (zero : Sign) :
    Settled (UnpackedFloat.normalize .binary64 i e zero) (i * 2 ^ e) := by
  unfold UnpackedFloat.normalize
  rcases lt_trichotomy i 0 with negative | none | positive
  · rw [Int.compare_eq_lt.2 negative]
    have settled := settled_round (show (-i).toNat ≠ 0 by omega) .negative e
    have whole : (((-i).toNat : ℕ) : ℚ) = -i := by exact_mod_cast Int.toNat_of_nonneg (by omega : 0 ≤ -i)
    have flip : factor .negative * (-(i : ℚ) * 2 ^ e) = i * 2 ^ e := by
      rw [factor]
      ring
    rwa [whole, flip] at settled
  · rw [none, Int.cast_zero, zero_mul]
    exact (Canonical.zero zero).settled
  · rw [Int.compare_eq_gt.2 positive]
    have settled := settled_round (show i.toNat ≠ 0 by omega) .positive e
    have whole : ((i.toNat : ℕ) : ℚ) = i := by exact_mod_cast Int.toNat_of_nonneg positive.le
    rwa [whole, factor, one_mul] at settled

theorem apply_cast (s : Sign) (i : ℤ) : ((s.apply i : ℤ) : ℚ) = factor s * i := by
  cases s <;> simp [Sign.apply, factor]

theorem aligned {least : ℤ} (s : Sign) (m : ℕ) (below : least ≤ e) :
    ((s.apply (decreaseExponent m e least).1 : ℤ) : ℚ) * 2 ^ least = factor s * (m * 2 ^ e) := by
  have value := shiftLeft_value m (e - least).toNat e
  rw [show e - (e - least).toNat = least by omega] at value
  rw [apply_cast, mul_assoc]
  exact congrArg (factor s * ·) value

theorem factor_neg (s : Sign) : factor (-s) = -factor s := by
  cases s
  case positive => rfl
  case negative => exact (neg_neg (1 : ℚ)).symm

theorem Canonical.neg (canonical : Canonical f) : Canonical f.neg ∧ valueOf f.neg = -valueOf f := by
  cases canonical with
  | zero s => exact ⟨.zero _, neg_zero.symm⟩
  | finite short above full =>
    refine ⟨.finite short above full, ?_⟩
    rw [UnpackedFloat.neg, valueOf, valueOf, factor_neg, neg_mul]

theorem settled_add (first : Canonical f) (second : Canonical g) :
    Settled (add .binary64 f g) (valueOf f + valueOf g) := by
  cases first with
  | zero s =>
    rw [show valueOf (.zero s) = 0 from rfl, zero_add]
    cases second with
    | zero t => cases s <;> cases t <;> exact (Canonical.zero _).settled
    | finite short above full => exact (Canonical.finite short above full).settled
  | @finite s m e pos short above full =>
    cases second with
    | zero t =>
      rw [show valueOf (.zero t) = 0 from rfl, add_zero]
      exact (Canonical.finite short above full).settled
    | @finite t n k pos' short' above' full' =>
      have sum := settled_normalize
        (s.apply (decreaseExponent m e (min e k)).1 + t.apply (decreaseExponent n k (min e k)).1)
        (min e k) .positive
      rw [Int.cast_add, add_mul, aligned s m (min_le_left e k), aligned t n (min_le_right e k)] at sum
      exact sum

theorem settled_sub (first : Canonical f) (second : Canonical g) :
    Settled (sub .binary64 f g) (valueOf f - valueOf g) := by
  cases first with
  | zero s =>
    rw [show valueOf (.zero s) = 0 from rfl, zero_sub]
    cases second with
    | zero t =>
      rw [show valueOf (.zero t) = 0 from rfl, neg_zero]
      cases s <;> cases t <;> exact (Canonical.zero _).settled
    | finite short above full =>
      obtain ⟨canonical, value⟩ := (Canonical.finite short above full).neg
      rw [← value]
      exact canonical.settled
  | @finite s m e pos short above full =>
    cases second with
    | zero t =>
      rw [show valueOf (.zero t) = 0 from rfl, sub_zero]
      exact (Canonical.finite short above full).settled
    | @finite t n k pos' short' above' full' =>
      have difference := settled_normalize
        (s.apply (decreaseExponent m e (min e k)).1 - t.apply (decreaseExponent n k (min e k)).1) (min e k) .positive
      rw [Int.cast_sub, sub_mul, aligned s m (min_le_left e k), aligned t n (min_le_right e k)] at difference
      exact difference

theorem rounded_add (first : x.isFinite = true) (second : y.isFinite = true) : Rounded (x + y) (value x + value y) :=
  (settled_add (canonical_of_finite first) (canonical_of_finite second)).rounded

theorem rounded_sub (first : x.isFinite = true) (second : y.isFinite = true) : Rounded (x - y) (value x - value y) :=
  (settled_sub (canonical_of_finite first) (canonical_of_finite second)).rounded

/-! ### Products and quotients -/

theorem factor_mul (s t : Sign) : factor (s * t) = factor s * factor t := by
  cases s <;> cases t
  case negative.negative => exact (by norm_num : (1 : ℚ) = -1 * -1)
  case negative.positive => exact (mul_one (-1 : ℚ)).symm
  case positive.negative => exact (one_mul (-1 : ℚ)).symm
  case positive.positive => exact (one_mul (1 : ℚ)).symm

theorem factor_div (s t : Sign) : factor (s / t) = factor s / factor t := by
  cases s <;> cases t
  case negative.negative => exact (by norm_num : (1 : ℚ) = -1 / -1)
  case negative.positive => exact (div_one (-1 : ℚ)).symm
  case positive.negative => exact (by norm_num : (-1 : ℚ) = 1 / -1)
  case positive.positive => exact (div_one (1 : ℚ)).symm

theorem settled_mul_of_ready {s t : Sign} {k : ℤ} (pos : 0 < m) (pos' : 0 < n) (ready : Ready (m * n) (e + k)) :
    Settled (mul .binary64 (.finite s m e pos) (.finite t n k pos'))
      (valueOf (.finite s m e pos) * valueOf (.finite t n k pos')) := by
  have settled := nearest_roundWithAccuracy ready (standsFor_exact (m * n)) (s * t)
  have product : factor (s * t) * ((m * n : ℕ) * 2 ^ (e + k)) = factor s * (m * 2 ^ e) * (factor t * (n * 2 ^ k)) := by
    rw [factor_mul, zpow_add₀ two_ne_zero]
    push_cast
    ring
  rw [product] at settled
  exact settled

theorem settled_mul (first : Canonical f) (second : Canonical g) :
    Settled (mul .binary64 f g) (valueOf f * valueOf g) := by
  cases first with
  | zero s =>
    rw [show valueOf (.zero s) = 0 from rfl, zero_mul]
    cases second <;> exact (Canonical.zero _).settled
  | @finite s m e pos short above full =>
    cases second with
    | zero t =>
      rw [show valueOf (.zero t) = 0 from rfl, mul_zero]
      exact (Canonical.zero _).settled
    | @finite t n k pos' short' above' full' =>
      refine settled_mul_of_ready pos pos' ?_
      rcases full with low | long
      · rcases full' with low' | long'
        · exact .inr (by omega)
        · exact .inl (long'.trans (Nat.le_mul_of_pos_left n pos))
      · exact .inl (long.trans (Nat.le_mul_of_pos_right m pos'))

theorem Left.standsFor {round sticky : Bool} (left : Left round sticky q) (i : ℕ) :
    StandsFor ⟨i, round, sticky⟩ (i + q) := by
  rwa [StandsFor, add_sub_cancel_left]

theorem standsFor_fraction (i : ℕ) (below : m < n) :
    StandsFor (.ofMantissaAndAccuracy i (accuracyOfFraction m n)) (i + m / n) := by
  have pos : (0 : ℚ) < n := by exact_mod_cast Nat.zero_lt_of_lt below
  unfold accuracyOfFraction
  split
  · rename_i none
    rw [none, Nat.cast_zero, zero_div, add_zero]
    exact standsFor_exact i
  · rename_i some
    have part : (0 : ℚ) < m / n := div_pos (by exact_mod_cast Nat.pos_of_ne_zero some) pos
    have twice : 2 * ((m : ℚ) / n) = (2 * m : ℕ) / n := by push_cast; ring
    cases compared : compare (2 * m) n with
    | lt =>
      have less : ((2 * m : ℕ) : ℚ) < n := by exact_mod_cast compare_lt_iff_lt.1 compared
      have left : Left false true (m / n) := ⟨part, by rwa [twice, div_lt_one pos]⟩
      exact left.standsFor i
    | eq =>
      have equal : ((2 * m : ℕ) : ℚ) = n := by exact_mod_cast compare_eq_iff_eq.1 compared
      have left : Left true false (m / n) := by
        show 2 * ((m : ℚ) / n) = 1
        rw [twice, equal, div_self pos.ne']
      exact left.standsFor i
    | gt =>
      have more : (n : ℚ) < (2 * m : ℕ) := by exact_mod_cast compare_gt_iff_gt.1 compared
      have whole : (m : ℚ) < n := by exact_mod_cast below
      have left : Left true true (m / n) := ⟨by rwa [twice, one_lt_div pos], by rwa [div_lt_one pos]⟩
      exact left.standsFor i

/-- The dividend is moved so far that the quotient has all its bits. -/
theorem exists_divCore (some : m ≠ 0) (pos : 0 < n) (e k : ℤ) :
    ∃ i : ℕ, divCore .binary64 m e n k = (m <<< i / n, e - k - i, accuracyOfFraction (m <<< i % n) n) ∧
      Ready (m <<< i / n) (e - k - i) := by
  have target : Format.binary64.targetExponent (totalExponent m e - totalExponent n k)
      = max ((m.log2 : ℤ) + 1 + e - (n.log2 + 1 + k) - 53) (-1074) := rfl
  generalize least : min (e - k) (max ((m.log2 : ℤ) + 1 + e - (n.log2 + 1 + k) - 53) (-1074)) = l
  obtain ⟨i, moved⟩ : ∃ i : ℕ, (e - k - l).toNat = i := ⟨_, rfl⟩
  obtain rfl : l = e - k - i := by omega
  refine ⟨i, ?_, ?_⟩
  · simp only [divCore, target, least, moved]
  · rcases (by omega : 53 + n.log2 ≤ m.log2 + i ∨ e - k - i ≤ -1074) with long | low
    · left
      rw [Nat.le_div_iff_mul_le pos, Nat.shiftLeft_eq]
      calc 2 ^ 52 * n ≤ 2 ^ 52 * 2 ^ (n.log2 + 1) := Nat.mul_le_mul_left _ Nat.lt_log2_self.le
        _ = 2 ^ (53 + n.log2) := by rw [← pow_add]; congr 1; omega
        _ ≤ 2 ^ (m.log2 + i) := Nat.pow_le_pow_right two_pos long
        _ = 2 ^ m.log2 * 2 ^ i := pow_add 2 _ _
        _ ≤ m * 2 ^ i := Nat.mul_le_mul_right _ (Nat.log2_self_le some)
    · exact .inr low

theorem settled_div (first : Canonical f) (second : Canonical g) (divisor : valueOf g ≠ 0) :
    Settled (div .binary64 f g) (valueOf f / valueOf g) := by
  cases second with
  | zero t => exact absurd rfl divisor
  | @finite t n k pos' short' above' full' =>
    cases first with
    | zero s =>
      rw [show valueOf (.zero s) = 0 from rfl, zero_div]
      exact (Canonical.zero _).settled
    | @finite s m e pos short above full =>
      obtain ⟨i, core, ready⟩ := exists_divCore pos.ne' pos' e k
      have divisor : (n : ℚ) ≠ 0 := by exact_mod_cast pos'.ne'
      have whole : (((m <<< i / n : ℕ) : ℚ) + (m <<< i % n : ℕ) / n) = (m <<< i : ℕ) / n := by
        rw [eq_div_iff divisor, add_mul, div_mul_cancel₀ _ divisor]
        exact_mod_cast Nat.div_add_mod' (m <<< i) n
      have settled := nearest_roundWithAccuracy ready (standsFor_fraction _ (Nat.mod_lt (m <<< i) pos')) (s / t)
      rw [whole, div_mul_eq_mul_div, shiftLeft_value] at settled
      have quotient : factor (s / t) * (m * 2 ^ (e - k) / n) = factor s * (m * 2 ^ e) / (factor t * (n * 2 ^ k)) := by
        rw [factor_div, zpow_sub₀ two_ne_zero]
        ring
      rw [quotient] at settled
      simp only [div, core]
      exact settled

theorem rounded_mul (first : x.isFinite = true) (second : y.isFinite = true) : Rounded (x * y) (value x * value y) :=
  (settled_mul (canonical_of_finite first) (canonical_of_finite second)).rounded

theorem rounded_div (first : x.isFinite = true) (second : y.isFinite = true) (divisor : value y ≠ 0) :
    Rounded (x / y) (value x / value y) :=
  (settled_div (canonical_of_finite first) (canonical_of_finite second) divisor).rounded

/-! ### Other operations -/

theorem settled_abs (canonical : Canonical f) : Settled f.abs |valueOf f| := by
  cases canonical with
  | zero s =>
    rw [show valueOf (.zero s) = 0 from rfl, abs_zero]
    exact (Canonical.zero .positive).settled
  | @finite s m e pos short above full =>
    have size : valueOf (.finite .positive m e pos) = m * 2 ^ e := one_mul _
    rw [abs_valueOf_finite, ← size]
    exact (Canonical.finite short above full).settled

theorem settled_ofScientific (some : n ≠ 0) : Settled (UnpackedFloat.ofScientific .binary64 n 0) n := by
  have pos : 0 < n <<< 53 := by
    rw [Nat.shiftLeft_eq]
    exact Nat.mul_pos (Nat.pos_of_ne_zero some) (Nat.two_pow_pos 53)
  have ready : Ready (n <<< 53 * 10 ^ 0) (-53 + 0) := by
    left
    rw [pow_zero, mul_one, Nat.shiftLeft_eq]
    exact (Nat.pow_le_pow_right two_pos (by omega)).trans (Nat.le_mul_of_pos_left _ (Nat.pos_of_ne_zero some))
  have settled := settled_mul_of_ready (s := .positive) (t := .positive) pos (Nat.pow_pos (by decide)) ready
  have whole : valueOf (.finite .positive (n <<< 53) (-53) pos)
      * valueOf (.finite .positive (10 ^ 0) 0 (Nat.pow_pos (by decide))) = n := by
    have moved : ((n <<< 53 : ℕ) : ℚ) * 2 ^ (-53 : ℤ) = n * 2 ^ (0 : ℤ) := shiftLeft_value n 53 0
    show 1 * (((n <<< 53 : ℕ) : ℚ) * 2 ^ (-53 : ℤ)) * (1 * (((10 ^ 0 : ℕ) : ℚ) * 2 ^ (0 : ℤ))) = n
    rw [moved, pow_zero, Nat.cast_one, zpow_zero]
    ring
  rw [whole] at settled
  have large : (0 : ℤ) ≤ 2 ^ Format.binary64.exponentBits + (n.log2 : ℤ) :=
    Int.add_nonneg (Int.pow_nonneg (by decide)) (Int.natCast_nonneg _)
  rw [UnpackedFloat.ofScientific, dif_neg some, if_neg (by decide), if_neg (by omega), if_pos le_rfl]
  exact settled

theorem grid_natCast (short : n < 2 ^ 53) : Grid n :=
  grid_intCast (i := n) (by rw [Nat.abs_cast]; exact_mod_cast short)

theorem abs_natCast_lt (short : n < 2 ^ 53) : |(n : ℚ)| < 2 ^ 1024 := by
  rw [Nat.abs_cast]
  have bits : (n : ℚ) < 2 ^ 53 := by exact_mod_cast short
  exact bits.trans_le (pow_le_pow_right₀ one_le_two (by decide))

theorem isFinite_one_value_one :
    (Float.ofBits 0x3FF0000000000000).isFinite = true ∧ value (Float.ofBits 0x3FF0000000000000) = 1 := by
  have one : (Float.ofBits 0x3FF0000000000000).toModel.unpack
      = .finite .positive (2 ^ 52) (-52) (Nat.two_pow_pos 52) := rfl
  refine ⟨rfl, ?_⟩
  rw [value, one, valueOf, factor]
  norm_num

/-- **A whole number is rounded when it becomes a double.** -/
theorem rounded_ofNat (n : ℕ) : Rounded (Float.ofNat n) n := by
  by_cases short : n < 2 ^ 53
  · have whole : n.toUInt64.toNat = n := by
      rw [Nat.toUInt64_eq, UInt64.toNat_ofNat', Nat.mod_eq_of_lt (by omega)]
    have settled := settled_normalize n.toUInt64.toNat 0 .positive
    have first : Rounded n.toUInt64.toFloat ((n.toUInt64.toNat : ℤ) * 2 ^ (0 : ℤ)) := settled.rounded
    rw [zpow_zero, mul_one, whole, Int.cast_natCast] at first
    obtain ⟨finite, exact⟩ := first.exact (grid_natCast short) (abs_natCast_lt short)
    obtain ⟨finite', one⟩ := isFinite_one_value_one
    have product := rounded_mul finite finite'
    rw [exact, one, mul_one] at product
    have fast : Float.ofNat n = n.toUInt64.toFloat * Float.ofBits 0x3FF0000000000000 := by
      show Float.ofScientific n false 0 = _
      rw [Float.ofScientific, dif_pos ⟨short, by decide⟩]
      rfl
    rwa [fast]
  · have some : n ≠ 0 := by
      rintro rfl
      exact short (by decide)
    have slow : Float.ofNat n = .ofModel (.pack (UnpackedFloat.ofScientific .binary64 n 0)) := by
      show Float.ofScientific n false 0 = _
      rw [Float.ofScientific, dif_neg fun fast => short fast.1]
      rfl
    rw [slow]
    exact (settled_ofScientific some).rounded

/-! ### Order -/

theorem magnitude_lt {k : ℤ} (short : m < 2 ^ 53) (above : -1074 ≤ e) (full : k = -1074 ∨ 2 ^ 52 ≤ n)
    (first : e < k ∨ e = k ∧ m < n) : (m : ℚ) * 2 ^ e < n * 2 ^ k := by
  have unit : (0 : ℚ) < 2 ^ k := zpow_pos two_pos k
  rcases first with finer | ⟨rfl, less⟩
  · have next : (2 : ℚ) ^ e ≤ 2 ^ (k - 1) := zpow_le_zpow_right₀ one_le_two (by omega)
    have bits : (m : ℚ) < 2 ^ 53 := by exact_mod_cast short
    have whole : (2 : ℚ) ^ 52 ≤ n := by exact_mod_cast full.resolve_left (by omega)
    calc (m : ℚ) * 2 ^ e ≤ m * 2 ^ (k - 1) := mul_le_mul_of_nonneg_left next (Nat.cast_nonneg m)
      _ < 2 ^ 53 * 2 ^ (k - 1) := mul_lt_mul_of_pos_right bits (zpow_pos two_pos _)
      _ = 2 ^ 52 * 2 ^ k := by rw [zpow_sub_one₀ two_ne_zero]; ring
      _ ≤ n * 2 ^ k := mul_le_mul_of_nonneg_right whole unit.le
  · have less : (m : ℚ) < n := by exact_mod_cast less
    exact mul_lt_mul_of_pos_right less unit

theorem magnitude_pos (pos : 0 < m) (e : ℤ) : (0 : ℚ) < m * 2 ^ e :=
  mul_pos (by exact_mod_cast pos) (zpow_pos two_pos e)

theorem valueOf_lt (first : Canonical f) (second : Canonical g) (before : rank f < rank g) : valueOf f < valueOf g := by
  cases first with
  | zero s =>
    cases second with
    | zero t => exact absurd before (lt_irrefl _)
    | @finite t n k pos' short' above' full' =>
      cases t <;> simp only [rank, Prod.Lex.toLex_lt_toLex] at before
      case negative => norm_num at before
      case positive => exact (magnitude_pos pos' k).trans_eq (one_mul _).symm
  | @finite s m e pos short above full =>
    have less := neg_lt_zero.2 (magnitude_pos pos e)
    cases second with
    | zero t =>
      cases s <;> simp only [rank, Prod.Lex.toLex_lt_toLex] at before
      case negative => exact (neg_one_mul _).trans_lt less
      case positive => norm_num at before
    | @finite t n k pos' short' above' full' =>
      cases s <;> cases t <;> simp only [rank, Prod.Lex.toLex_lt_toLex] at before
      case negative.positive =>
        exact ((neg_one_mul _).trans_lt less).trans ((magnitude_pos pos' k).trans_eq (one_mul _).symm)
      case positive.negative => norm_num at before
      case positive.positive =>
        rcases before with never | ⟨-, inside⟩
        · exact absurd never (lt_irrefl _)
        · rw [valueOf, valueOf, factor, one_mul, one_mul]
          exact magnitude_lt short above full' (by omega)
      case negative.negative =>
        rcases before with never | ⟨-, inside⟩
        · exact absurd never (lt_irrefl _)
        · rw [valueOf, valueOf, factor, neg_one_mul, neg_one_mul, neg_lt_neg_iff]
          exact magnitude_lt short' above' full (by omega)

theorem valueOf_eq (same : rank f = rank g) (first : Canonical f) (second : Canonical g) : valueOf f = valueOf g := by
  cases first with
  | zero s =>
    cases second with
    | zero t => rfl
    | finite => cases ‹Sign› <;> simp [rank] at same
  | @finite s m e pos short above full =>
    cases second with
    | zero t => cases s <;> simp [rank] at same
    | @finite t n k pos' short' above' full' =>
      cases s <;> cases t <;> simp [rank] at same
      case negative.negative =>
        obtain ⟨rfl, rfl⟩ := same
        rfl
      case positive.positive =>
        obtain ⟨rfl, rfl⟩ := same
        rfl

/-- **Finite doubles are ordered by their values.** -/
theorem lt_iff_value (first : x.isFinite = true) (second : y.isFinite = true) : x < y ↔ value x < value y := by
  have canonical := canonical_of_finite first
  have canonical' := canonical_of_finite second
  rw [lt_iff]
  refine ⟨fun before => valueOf_lt canonical canonical' before.2.2, fun less => ?_⟩
  refine ⟨number_of_finite first, number_of_finite second, ?_⟩
  by_contra behind
  rcases (not_lt.1 behind).lt_or_eq with after | same
  · exact lt_asymm less (valueOf_lt canonical' canonical after)
  · exact less.ne (valueOf_eq same.symm canonical canonical')

theorem le_iff_value (first : x.isFinite = true) (second : y.isFinite = true) : x ≤ y ↔ value x ≤ value y := by
  have number := number_of_finite first
  have number' := number_of_finite second
  rw [← not_lt, ← lt_iff_value second first]
  constructor
  · intro below before
    exact not_lt.2 (le_iff.1 below).2.2 (lt_iff.1 before).2.2
  · exact le_of_not_lt number' number

/-! ### Finite results -/

theorem Low.abs_valueOf_lt (low : Low 53 971 f) : |valueOf f| < 2 ^ 1024 := by
  cases low with
  | zero s => exact (abs_zero (α := ℚ)).trans_lt (by positivity)
  | @finite s m e pos short below =>
    have bits : (m : ℚ) < 2 ^ 53 := by exact_mod_cast short
    have unit : (2 : ℚ) ^ e ≤ 2 ^ 971 := by
      rw [← zpow_natCast]
      exact zpow_le_zpow_right₀ one_le_two below
    rw [abs_valueOf_finite]
    calc (m : ℚ) * 2 ^ e < 2 ^ 53 * 2 ^ e := mul_lt_mul_of_pos_right bits (zpow_pos two_pos e)
      _ ≤ 2 ^ 53 * 2 ^ 971 := mul_le_mul_of_nonneg_left unit (by positivity)
      _ = 2 ^ 1024 := (pow_add 2 53 971).symm

theorem abs_value_lt (finite : x.isFinite = true) : |value x| < 2 ^ 1024 :=
  (canonical_unpack finite).2.abs_valueOf_lt

theorem value_abs (finite : x.isFinite = true) : x.abs.isFinite = true ∧ value x.abs = |value x| := by
  have grid : Grid |value x| := by
    rcases abs_choice (value x) with same | flip
    · exact same.symm ▸ grid_value finite
    · exact flip.symm ▸ (grid_value finite).neg
  refine (settled_abs (canonical_of_finite finite)).rounded.exact grid ?_
  rw [abs_abs]
  exact abs_value_lt finite

theorem value_ofNat (short : n < 2 ^ 53) : (Float.ofNat n).isFinite = true ∧ value (Float.ofNat n) = n := by
  exact (rounded_ofNat n).exact (grid_natCast short) (abs_natCast_lt short)

theorem ofNat_between (some : n ≠ 0) (word : n < 2 ^ 64) :
    (Float.ofNat n).isFinite = true ∧ 1 ≤ value (Float.ofNat n) ∧ value (Float.ofNat n) ≤ 2 ^ (64 : ℤ) := by
  have small : |(n : ℚ)| ≤ 2 ^ (64 : ℤ) := by
    rw [Nat.abs_cast]
    exact_mod_cast word.le
  obtain ⟨finite, nearest, bound⟩ :=
    (rounded_ofNat n).abs_le_of_abs_le (grid_twoPow (by decide)) (twoPow_lt (by decide)) small
  exact ⟨finite, nearest.ge grid_one (by exact_mod_cast Nat.one_le_iff_ne_zero.2 some), le_of_abs_le bound⟩

theorem value_zero : value 0 = 0 := by
  have zero := (value_ofNat (n := 0) (by decide)).2
  rwa [Nat.cast_zero] at zero

theorem value_one : value 1 = 1 := by
  have one := (value_ofNat (n := 1) (by decide)).2
  rwa [Nat.cast_one] at one

theorem Canonical.rank_lt (canonical : Canonical f) : rank f < rank (.infinity .positive) := by
  refine lt_of_le_of_ne (rank_le_infinity f) fun same => ?_
  cases canonical with
  | zero s => simp [rank] at same
  | @finite s => cases s <;> simp [rank] at same

theorem Canonical.lt_rank (canonical : Canonical f) : rank (.infinity .negative) < rank f := by
  refine lt_of_le_of_ne (infinity_le_rank f) fun same => ?_
  cases canonical with
  | zero s => simp [rank] at same
  | @finite s => cases s <;> simp [rank] at same

theorem isFinite_of_between {z : Float} (above : x ≤ y) (below : y ≤ z) (first : x.isFinite = true)
    (last : z.isFinite = true) : y.isFinite = true := by
  obtain ⟨-, number, above⟩ := le_iff.1 above
  obtain ⟨-, -, below⟩ := le_iff.1 below
  have low := (canonical_of_finite first).lt_rank.trans_le above
  have high := below.trans_lt (canonical_of_finite last).rank_lt
  change y.toModel.unpack.isNaN = false at number
  change y.toModel.unpack.isFinite = true
  cases shape : y.toModel.unpack with
  | notANumber =>
    rw [shape] at number
    cases number
  | zero => rfl
  | finite => rfl
  | infinity s =>
    rw [shape] at low high
    cases s
    case positive => exact absurd high (lt_irrefl _)
    case negative => exact absurd low (lt_irrefl _)

theorem isFinite_div_of_infinite (finite : x.isFinite = true) (number : y.isNaN = false)
    (infinite : ¬ y.isFinite = true) : (x / y).isFinite = true := by
  change y.toModel.unpack.isNaN = false at number
  change ¬ y.toModel.unpack.isFinite = true at infinite
  suffices settled : Settled (div .binary64 x.toModel.unpack y.toModel.unpack) 0 from
    (settled.rounded.exact grid_zero (by norm_num)).1
  have canonical := canonical_of_finite finite
  cases shape : y.toModel.unpack with
  | notANumber =>
    rw [shape] at number
    cases number
  | zero s =>
    rw [shape] at infinite
    exact absurd rfl infinite
  | finite s m e pos =>
    rw [shape] at infinite
    exact absurd rfl infinite
  | infinity t =>
    generalize x.toModel.unpack = f at *
    cases canonical <;> exact (Canonical.zero _).settled

/-! ### Square roots -/

theorem exists_sqrtCore (short : m < 2 ^ 53) (below : e ≤ 971) (above : -1074 ≤ e) :
    ∃ (root : ℕ) (l : ℤ) (a : Accuracy), sqrtCore .binary64 m e = (root, l, a) ∧ root < 2 ^ 54 ∧ l ≤ 485 := by
  have bits := log2_le_of_lt short
  have target : Format.binary64.targetExponent ((totalExponent m e + 1).ediv 2)
      = max ((m.log2 + 1 + e + 1) / 2 - 53) (-1074) := rfl
  have half : e.ediv 2 = e / 2 := rfl
  refine ⟨_, _, _, rfl, ?_, ?_⟩
  · rw [target, half]
    generalize shift : (e - 2 * min (e / 2) (max (((m.log2 : ℤ) + 1 + e + 1) / 2 - 53) (-1074))).toNat = i
    have room : m.log2 + 1 + i ≤ 108 := by omega
    rw [Nat.sqrt_lt', Nat.shiftLeft_eq]
    calc m * 2 ^ i < 2 ^ (m.log2 + 1) * 2 ^ i := Nat.mul_lt_mul_of_pos_right Nat.lt_log2_self (Nat.two_pow_pos i)
      _ = 2 ^ (m.log2 + 1 + i) := (pow_add 2 _ _).symm
      _ ≤ 2 ^ 108 := Nat.pow_le_pow_right two_pos room
  · rw [half]
    omega

theorem isFinite_sqrt (finite : x.isFinite = true) (nonneg : 0 ≤ value x) : x.sqrt.isFinite = true := by
  have canonical := canonical_of_finite finite
  have low := (canonical_unpack finite).2
  change Low 53 971 x.toModel.unpack at low
  rw [value] at nonneg
  show (unpack .binary64 (pack .binary64 (UnpackedFloat.sqrt .binary64 x.toModel.unpack))).isFinite = true
  generalize x.toModel.unpack = f at *
  cases canonical with
  | zero s => exact ((Canonical.zero s).unpack_pack (by norm_num [valueOf])).symm ▸ rfl
  | @finite s m e pos short above full =>
    cases s with
    | negative => exact absurd nonneg (not_le.2 ((neg_one_mul _).trans_lt (neg_lt_zero.2 (magnitude_pos pos e))))
    | positive =>
      cases low with
      | finite _ below =>
        obtain ⟨root, l, a, core, small, least⟩ := exists_sqrtCore short below above
        have rounded := low_round small least (by decide) a .positive
        simp only [UnpackedFloat.sqrt, core]
        exact (rounded.unpack_pack (by decide) (by decide)).isFinite

end Doubles

end TierCascade
