import TierCascade.Proofs.Wholes
/-!
# Rounding to the nearest double

A finite double is a rational number on a grid: a mantissa of at most fifty-three bits and a power of two that
is not too small (`Doubles.Grid`). Every operation works out its exact value, keeps what is left behind the
mantissa as two bits, and rounds. What it gives is as near to the exact value as the grid comes
(`Doubles.Nearest`). All bounds on what doubles come to follow from that: a value between two points of the
grid is rounded to one between them, and what is small enough beside a power of two is lost.

Here the grid has no upper end. A result is finite if it is below the first power of two that no double
reaches.
-/

namespace TierCascade

namespace Doubles

open Float.Model (UnpackedFloat Format totalExponent)
open Float.Model.UnpackedFloat

/-! ### The grid -/

/-- The number could be a double if exponents had no upper end. -/
def Grid (q : ℚ) : Prop := ∃ m e : ℤ, |m| < 2 ^ 53 ∧ -1074 ≤ e ∧ q = m * 2 ^ e

/-- No point of the grid is nearer to `q` than `r`. -/
structure Nearest (q r : ℚ) : Prop where
  grid : Grid r
  closest : ∀ g, Grid g → |r - q| ≤ |g - q|

variable {q r g h x z : ℚ} {m n : ℕ} {e j k : ℤ}

theorem grid_mul_twoPow {i : ℤ} (short : |i| < 2 ^ 53) (above : -1074 ≤ e) : Grid (i * 2 ^ e) :=
  ⟨i, e, short, above, rfl⟩

theorem grid_twoPow (above : -1074 ≤ e) : Grid (2 ^ e) := by
  have one : Grid ((1 : ℤ) * 2 ^ e) := grid_mul_twoPow (by decide) above
  rwa [Int.cast_one, one_mul] at one

theorem grid_intCast {i : ℤ} (short : |i| < 2 ^ 53) : Grid i := by
  have whole : Grid (i * 2 ^ (0 : ℤ)) := grid_mul_twoPow short (by decide)
  rwa [zpow_zero, mul_one] at whole

theorem grid_zero : Grid 0 := grid_intCast (i := 0) (by decide)

theorem grid_one : Grid 1 := grid_intCast (i := 1) (by decide)

theorem Grid.neg (grid : Grid g) : Grid (-g) := by
  obtain ⟨m, e, short, above, rfl⟩ := grid
  refine ⟨-m, e, by rwa [abs_neg], above, ?_⟩
  rw [Int.cast_neg, neg_mul]

/-- A point of the grid is a multiple of a power of two or has too few bits to reach far beyond it. -/
theorem Grid.multiple_or_small (grid : Grid g) (k : ℤ) :
    (∃ i : ℤ, g = i * 2 ^ k) ∨ -1074 < k ∧ |g| < 2 ^ 52 * 2 ^ k := by
  obtain ⟨m, e, short, above, rfl⟩ := grid
  rcases le_or_gt k e with coarse | fine
  · left
    refine ⟨m * 2 ^ (e - k).toNat, ?_⟩
    have split : (2 : ℚ) ^ e = 2 ^ (e - k).toNat * 2 ^ k := by
      rw [← zpow_natCast, ← zpow_add₀ two_ne_zero]
      congr 1
      omega
    rw [split, Int.cast_mul, Int.cast_pow, Int.cast_ofNat, mul_assoc]
  · right
    refine ⟨by omega, ?_⟩
    have bits : |(m : ℚ)| < 2 ^ 53 := by exact_mod_cast short
    have below : (2 : ℚ) ^ e ≤ 2 ^ (k - 1) := zpow_le_zpow_right₀ one_le_two (by omega)
    have half : (2 : ℚ) ^ 52 * 2 ^ k = 2 ^ 53 * 2 ^ (k - 1) := by
      rw [zpow_sub_one₀ two_ne_zero]
      ring
    have pos : (0 : ℚ) < 2 ^ e := zpow_pos two_pos e
    rw [abs_mul, abs_of_pos pos, half]
    calc |(m : ℚ)| * 2 ^ e < 2 ^ 53 * 2 ^ e := mul_lt_mul_of_pos_right bits pos
      _ ≤ 2 ^ 53 * 2 ^ (k - 1) := mul_le_mul_of_nonneg_left below (by positivity)

/-! ### What is nearest -/

theorem Nearest.self (grid : Grid q) : Nearest q q := by
  refine ⟨grid, fun g _ => ?_⟩
  rw [sub_self, abs_zero]
  exact abs_nonneg _

theorem Nearest.neg (nearest : Nearest q r) : Nearest (-q) (-r) := by
  refine ⟨nearest.grid.neg, fun g grid => ?_⟩
  have flip : |-g - q| = |g - -q| := by
    rw [← abs_neg]
    congr 1
    ring
  have closest := nearest.closest (-g) grid.neg
  rwa [flip, abs_sub_comm, show q - r = -r - -q by ring] at closest

theorem Nearest.le (nearest : Nearest q r) (grid : Grid h) (below : q ≤ h) : r ≤ h := by
  by_contra above
  have closest := nearest.closest h grid
  rw [abs_of_nonneg (by linarith), abs_of_nonneg (by linarith)] at closest
  linarith

theorem Nearest.ge (nearest : Nearest q r) (grid : Grid g) (above : g ≤ q) : g ≤ r := by
  have below := nearest.neg.le grid.neg (neg_le_neg above)
  linarith

theorem Nearest.abs_le_of_abs_le (nearest : Nearest q r) (grid : Grid h) (within : |q| ≤ h) : |r| ≤ h := by
  obtain ⟨low, high⟩ := abs_le.1 within
  exact abs_le.2 ⟨nearest.ge grid.neg low, nearest.le grid high⟩

/-- What is small beside a power of two is lost. -/
theorem Nearest.le_of_absorbed (nearest : Nearest q r) (above : -1074 ≤ j) (small : q < 2 ^ j + 2 ^ (j - 53)) :
    r ≤ 2 ^ j := by
  by_contra beyond
  -- The next point of the grid is so far away that the power itself is nearer.
  have unit : (0 : ℚ) < 2 ^ (j - 52) := zpow_pos two_pos _
  have power : (2 : ℚ) ^ j = (2 ^ 52 : ℤ) * 2 ^ (j - 52) := by
    rw [Int.cast_pow, Int.cast_ofNat, ← zpow_natCast, ← zpow_add₀ two_ne_zero]
    congr 1
    omega
  have next : (2 : ℚ) ^ j + 2 ^ (j - 52) ≤ r := by
    rcases nearest.grid.multiple_or_small (j - 52) with ⟨i, rfl⟩ | ⟨-, short⟩
    · rw [power, not_le] at beyond
      have further : (2 ^ 52 : ℤ) < i := by exact_mod_cast lt_of_mul_lt_mul_right beyond unit.le
      have step : ((2 ^ 52 : ℤ) : ℚ) + 1 ≤ i := by exact_mod_cast further
      rw [power, ← add_one_mul]
      exact mul_le_mul_of_nonneg_right step unit.le
    · refine absurd (le_of_abs_le short.le) ?_
      rwa [show (2 : ℚ) ^ 52 * 2 ^ (j - 52) = 2 ^ j by rw [power, Int.cast_pow, Int.cast_ofNat]]
  have half : (2 : ℚ) ^ (j - 52) = 2 * 2 ^ (j - 53) := by
    rw [show j - 52 = j - 53 + 1 by ring, zpow_add_one₀ two_ne_zero, mul_comm]
  have closest := nearest.closest (2 ^ j) (grid_twoPow above)
  rw [abs_of_nonneg (by linarith)] at closest
  rcases le_total q (2 ^ j) with low | high
  · rw [abs_of_nonneg (by linarith)] at closest
    linarith
  · rw [abs_of_nonpos (by linarith)] at closest
    linarith

theorem Nearest.abs_le_of_absorbed (nearest : Nearest q r) (above : -1074 ≤ j)
    (small : |q| < 2 ^ j + 2 ^ (j - 53)) : |r| ≤ 2 ^ j := by
  obtain ⟨low, high⟩ := abs_lt.1 small
  have upper := nearest.le_of_absorbed above high
  have lower := nearest.neg.le_of_absorbed above (by linarith)
  exact abs_le.2 ⟨by linarith, upper⟩

theorem abs_sub_le_of_half {i : ℤ} (half : |i - z| ≤ 1 / 2) (k : ℤ) : |i - z| ≤ |k - z| := by
  by_cases same : k = i
  · rw [same]
  · have apart : (1 : ℚ) ≤ |(k : ℚ) - i| := by exact_mod_cast Int.one_le_abs (sub_ne_zero.2 same)
    have between : |(k : ℚ) - i| ≤ |k - z| + |z - i| := abs_sub_le _ _ _
    rw [abs_sub_comm z] at between
    linarith

/-- Rounding a mantissa to an integer gives what is nearest on the grid if the mantissa has all its bits, or
the exponent is the least one. -/
theorem nearest_of_half {i : ℤ} (half : |i - z| ≤ 1 / 2) (grid : Grid (i * 2 ^ e)) (full : e = -1074 ∨ 2 ^ 52 ≤ z) :
    Nearest (z * 2 ^ e) (i * 2 ^ e) := by
  have unit : (0 : ℚ) < 2 ^ e := zpow_pos two_pos e
  refine ⟨grid, fun g point => ?_⟩
  rw [← sub_mul, abs_mul, abs_of_pos unit]
  rcases point.multiple_or_small e with ⟨k, rfl⟩ | ⟨fine, short⟩
  · rw [← sub_mul, abs_mul, abs_of_pos unit]
    exact mul_le_mul_of_nonneg_right (abs_sub_le_of_half half k) unit.le
  · have full : 2 ^ 52 ≤ z := full.resolve_left (by omega)
    have whole : |i - z| ≤ z - 2 ^ 52 := by
      have closest := abs_sub_le_of_half half (2 ^ 52)
      rwa [Int.cast_pow, Int.cast_ofNat, abs_sub_comm (2 ^ 52), abs_of_nonneg (sub_nonneg.2 full)] at closest
    have inside : g ≤ 2 ^ 52 * 2 ^ e := (le_abs_self g).trans short.le
    calc |i - z| * 2 ^ e ≤ (z - 2 ^ 52) * 2 ^ e := mul_le_mul_of_nonneg_right whole unit.le
      _ = -(2 ^ 52 * 2 ^ e - z * 2 ^ e) := by ring
      _ ≤ -(g - z * 2 ^ e) := neg_le_neg (sub_le_sub_right inside _)
      _ ≤ |g - z * 2 ^ e| := neg_le_abs _

/-! ### Mantissas with two more bits -/

/-- What the two bits say of what is left behind a mantissa: the first is its half, the second whether there is
more. -/
def Left : (round sticky : Bool) → ℚ → Prop
  | false, false, x => x = 0
  | false, true, x => 0 < x ∧ 2 * x < 1
  | true, false, x => 2 * x = 1
  | true, true, x => 1 < 2 * x ∧ x < 1

/-- A mantissa with two more bits stands for `z` in the place of its last bit. -/
def StandsFor (em : ExtendedMantissa) (z : ℚ) : Prop := Left em.roundBit em.stickyBit (z - em.mantissa)

variable {a : Accuracy} {em : ExtendedMantissa}

theorem Left.bounds {round sticky : Bool} (left : Left round sticky x) : 0 ≤ x ∧ x < 1 := by
  cases round <;> cases sticky <;> simp only [Left] at left <;> constructor <;> linarith

theorem Left.half {round sticky : Bool} {b : ℕ} (bit : b = 0 ∨ b = 1) (left : Left round sticky x)
    (halved : 2 * z = x + b) : Left (b != 0) (round || sticky) z := by
  rcases bit with rfl | rfl <;> cases round <;> cases sticky <;> grind [Left]

theorem StandsFor.shiftRightOne (stands : StandsFor em z) : StandsFor em.shiftRightOne (z / 2) := by
  have bits : (em.mantissa : ℚ) = 2 * (em.mantissa / 2 : ℕ) + (em.mantissa % 2 : ℕ) := by
    exact_mod_cast (Nat.div_add_mod em.mantissa 2).symm
  refine Left.half (Nat.mod_two_eq_zero_or_one em.mantissa) stands ?_
  show 2 * (z / 2 - (em.mantissa / 2 : ℕ)) = z - em.mantissa + (em.mantissa % 2 : ℕ)
  linarith

theorem StandsFor.shiftRight (stands : StandsFor em z) (i : ℕ) : StandsFor (em >>> i) (z / 2 ^ i) := by
  induction i with
  | zero => rwa [pow_zero, div_one]
  | succ i ih =>
    rw [pow_succ, ← div_div]
    exact ih.shiftRightOne

theorem standsFor_exact (m : ℕ) : StandsFor (.ofMantissaAndAccuracy m .exact) m := sub_self (m : ℚ)

theorem StandsFor.half (stands : StandsFor em z) : |(em.roundedMantissa : ℚ) - z| ≤ 1 / 2 := by
  obtain ⟨m, round, sticky⟩ := em
  have parity : ((m % 2 : ℕ) : ℚ) = 0 ∨ ((m % 2 : ℕ) : ℚ) = 1 := by
    exact_mod_cast Nat.mod_two_eq_zero_or_one m
  rw [abs_le]
  cases round <;> cases sticky <;>
    simp only [StandsFor, Left, ExtendedMantissa.roundedMantissa, ExtendedMantissa.accuracy,
      Accuracy.roundToNearestEven, Nat.cast_add, Nat.cast_one] at *
  case false.false => constructor <;> linarith
  case false.true => constructor <;> linarith
  case true.false => rcases parity with even | odd <;> constructor <;> linarith
  case true.true => constructor <;> linarith

/-! ### Rounding -/

variable {y : ℚ}

theorem mantissa_ofMantissaAndAccuracy (m : ℕ) (a : Accuracy) :
    (ExtendedMantissa.ofMantissaAndAccuracy m a).mantissa = m := by
  rcases a with - | (_ | _ | _) <;> rfl

theorem StandsFor.between (stands : StandsFor (.ofMantissaAndAccuracy m a) y) : m ≤ y ∧ y < m + 1 := by
  have left := Left.bounds stands
  rw [mantissa_ofMantissaAndAccuracy] at left
  exact ⟨by linarith, by linarith⟩

/-- The mantissa has at least as many bits as the format asks for, or the exponent is below those it has. -/
def Ready (m : ℕ) (e : ℤ) : Prop := 2 ^ 52 ≤ m ∨ e ≤ -1074

theorem targetExponent_eq (m : ℕ) (e : ℤ) :
    Format.binary64.targetExponent (totalExponent m e) = max (m.log2 + 1 + e - 53) (-1074) := rfl

theorem exists_shift (ready : Ready m e) (a : Accuracy) :
    ∃ i : ℕ, shiftToTargetExponent .binary64 m e a = (ExtendedMantissa.ofMantissaAndAccuracy m a >>> i, e + i) ∧
      -1074 ≤ e + i ∧ m.log2 ≤ 52 + i ∧ (e + i = -1074 ∨ m.log2 = 52 + i) := by
  refine ⟨_, rfl, ?_⟩
  have long : 52 ≤ m.log2 ∨ e ≤ -1074 := by
    refine ready.imp_left fun long => (Nat.le_log2 ?_).2 long
    exact Nat.ne_zero_of_lt (lt_of_lt_of_le (by decide : 0 < 2 ^ 52) long)
  rw [targetExponent_eq]
  omega

theorem exists_shifted (ready : Ready m e) (stands : StandsFor (.ofMantissaAndAccuracy m a) y) :
    ∃ em k z, shiftToTargetExponent .binary64 m e a = (em, k) ∧ StandsFor em z ∧ y * 2 ^ e = z * 2 ^ k ∧
      -1074 ≤ k ∧ z < 2 ^ 53 ∧ (k = -1074 ∨ 2 ^ 52 ≤ z) := by
  obtain ⟨i, shifted, above, short, full⟩ := exists_shift ready a
  obtain ⟨low, high⟩ := stands.between
  have unit : (0 : ℚ) < 2 ^ i := by positivity
  refine ⟨_, _, y / 2 ^ i, shifted, stands.shiftRight i, ?_, above, ?_, full.imp_right fun full => ?_⟩
  · rw [zpow_add₀ two_ne_zero, zpow_natCast, mul_comm (2 ^ e), ← mul_assoc, div_mul_cancel₀ _ unit.ne']
  · rw [div_lt_iff₀ unit, ← pow_add]
    have whole : ((m + 1 : ℕ) : ℚ) ≤ (2 ^ (53 + i) : ℕ) := by
      exact_mod_cast Nat.lt_log2_self.trans_le (Nat.pow_le_pow_right two_pos (by omega))
    push_cast at whole
    linarith
  · rw [le_div_iff₀ unit, ← pow_add, ← full]
    have some : m ≠ 0 := by
      rintro rfl
      rw [Nat.log2_zero] at full
      omega
    have whole : ((2 ^ m.log2 : ℕ) : ℚ) ≤ m := by exact_mod_cast Nat.log2_self_le some
    push_cast at whole
    linarith

/-- Moved once more, a mantissa that was rounded stays as it is, or is halved because rounding made it too
long. -/
theorem shiftToTargetExponent_of_le (short : m ≤ 2 ^ 53) (above : -1074 ≤ e) :
    shiftToTargetExponent .binary64 m e .exact
      = if m = 2 ^ 53 then (⟨2 ^ 52, false, false⟩, e + 1) else (⟨m, false, false⟩, e) := by
  have shift : ∀ i : ℕ, (max ((m.log2 : ℤ) + 1 + e - 53) (-1074) - e).toNat = i →
      shiftToTargetExponent .binary64 m e .exact = ((⟨m, false, false⟩ : ExtendedMantissa) >>> i, e + i) := by
    rintro i rfl
    rfl
  split
  · rename_i full
    subst full
    exact shift 1 (by rw [Nat.log2_two_pow]; omega)
  · rename_i less
    have bits : m.log2 ≤ 52 := by
      by_cases zero : m = 0
      · rw [zero, Nat.log2_zero]
        omega
      · have below := (Nat.log2_lt zero).2 (lt_of_le_of_ne short less)
        omega
    rw [shift 0 (by omega), Nat.cast_zero, add_zero]
    rfl

/-! ### Values -/

def factor : Sign → ℚ
  | .positive => 1
  | .negative => -1

/-- The number that a finite double stands for. -/
def valueOf : UnpackedFloat → ℚ
  | .finite s m e _ => factor s * (m * 2 ^ e)
  | _ => 0

theorem abs_valueOf_finite (s : Sign) (pos : 0 < m) (e : ℤ) : |valueOf (.finite s m e pos)| = m * 2 ^ e := by
  cases s <;> simp [valueOf, factor, abs_mul]

/-- A finite double in the one form that the format has for it, but for an end of its exponents. -/
inductive Canonical : UnpackedFloat → Prop
  | zero (s : Sign) : Canonical (.zero s)
  | finite {s : Sign} {m : ℕ} {e : ℤ} {pos : 0 < m} (short : m < 2 ^ 53) (above : -1074 ≤ e)
      (full : e = -1074 ∨ 2 ^ 52 ≤ m) : Canonical (.finite s m e pos)

theorem Nearest.signed (nearest : Nearest q r) (s : Sign) : Nearest (factor s * q) (factor s * r) := by
  cases s with
  | positive => rwa [factor, one_mul, one_mul]
  | negative =>
    rw [factor, neg_one_mul, neg_one_mul]
    exact nearest.neg

/-- **Rounding gives what is nearest on the grid.** -/
theorem nearest_roundWithAccuracy (ready : Ready m e) (stands : StandsFor (.ofMantissaAndAccuracy m a) y)
    (s : Sign) :
    Canonical (roundWithAccuracy .binary64 s m e a) ∧
      Nearest (factor s * (y * 2 ^ e)) (valueOf (roundWithAccuracy .binary64 s m e a)) := by
  obtain ⟨em, k, z, shifted, stands, same, above, below, full⟩ := exists_shifted ready stands
  have half := stands.half
  obtain ⟨low, high⟩ := abs_le.1 half
  generalize rounded : em.roundedMantissa = i at half low high
  have short : i ≤ 2 ^ 53 := by
    have whole : (i : ℚ) < (2 ^ 53 + 1 : ℕ) := by push_cast; linarith
    exact Nat.lt_succ_iff.1 (by exact_mod_cast whole)
  have full' : k = -1074 ∨ 2 ^ 52 ≤ i := by
    refine full.imp_right fun full => ?_
    have whole : ((2 ^ 52 : ℕ) : ℚ) < (i + 1 : ℕ) := by push_cast; linarith
    exact Nat.lt_succ_iff.1 (by exact_mod_cast whole)
  have result : ∀ (j : ℕ) (l : ℤ), shiftToTargetExponent .binary64 i k .exact = (⟨j, false, false⟩, l) →
      (j : ℚ) * 2 ^ l = i * 2 ^ k → j < 2 ^ 53 → -1074 ≤ l → (l = -1074 ∨ 2 ^ 52 ≤ j) →
      Canonical (roundWithAccuracy .binary64 s m e a) ∧
        Nearest (factor s * (y * 2 ^ e)) (valueOf (roundWithAccuracy .binary64 s m e a)) := by
    intro j l moved value short above full
    have grid : Grid (i * 2 ^ k) := by
      rw [← value]
      exact ⟨j, l, by rw [Nat.abs_cast]; exact_mod_cast short, above, rfl⟩
    have nearest : Nearest (y * 2 ^ e) (j * 2 ^ l) := by
      rw [same, value]
      exact nearest_of_half (i := i) (by exact_mod_cast half) (by exact_mod_cast grid) ‹_›
    simp only [roundWithAccuracy, shifted, rounded, moved]
    split
    · rename_i zero
      subst zero
      rw [Nat.cast_zero, zero_mul] at nearest
      refine ⟨.zero s, ?_⟩
      have signed := nearest.signed s
      rwa [mul_zero] at signed
    · exact ⟨.finite short above full, nearest.signed s⟩
  have moved := shiftToTargetExponent_of_le short above
  split at moved
  · rename_i long
    refine result (2 ^ 52) (k + 1) moved ?_ (by decide) (by omega) (.inr le_rfl)
    rw [long, zpow_add_one₀ two_ne_zero]
    push_cast
    ring
  · exact result i k moved rfl (by omega) above full'

/-! ### Bits -/

theorem Canonical.grid {f : UnpackedFloat} (canonical : Canonical f) : Grid (valueOf f) := by
  cases canonical with
  | zero s => exact grid_zero
  | @finite s m e pos short above full =>
    have point : Grid (m * 2 ^ e) := ⟨m, e, by rw [Nat.abs_cast]; exact_mod_cast short, above, rfl⟩
    have signed := (Nearest.self point).signed s
    exact signed.grid

theorem unpackSign_packComponents {format : Format} (s : Sign) (exponent : BitVec format.exponentBits)
    (mantissa : BitVec format.mantissaBitsWithoutImplicit) :
    Sign.ofBitVec (unpackSign (packComponents format s exponent mantissa)) = s := by
  have bits : unpackSign (packComponents format s exponent mantissa) = s.toBitVec := by
    ext i first
    have behind : ¬ format.mantissaBitsWithoutImplicit + format.exponentBits + i
        < format.mantissaBitsWithoutImplicit := by omega
    have above : format.mantissaBitsWithoutImplicit + format.exponentBits + i
        - format.mantissaBitsWithoutImplicit - format.exponentBits = i := by omega
    simp [unpackSign, packComponents, BitVec.getLsbD_append, behind, above, first]
    intro inside
    omega
  rw [bits]
  cases s <;> rfl

theorem toNat_one_append (mantissa : BitVec 52) : (1#1 ++ mantissa).toNat = 2 ^ 52 + mantissa.toNat := by
  rw [BitVec.toNat_append, Nat.shiftLeft_eq, Nat.mul_comm, ← Nat.two_pow_add_eq_or_of_lt mantissa.isLt]
  rfl

theorem unpack_of_subnormal {s : Sign} (pos : 0 < m) (short : m < 2 ^ 52) :
    unpack .binary64 (packComponents .binary64 s 0#11 (BitVec.ofNat 52 m)) = .finite s m (-1074) pos := by
  have kept : (BitVec.ofNat 52 m).toNat = m := by rw [BitVec.toNat_ofNat, Nat.mod_eq_of_lt short]
  have some : BitVec.ofNat 52 m ≠ 0#52 := by
    intro none
    rw [none] at kept
    exact pos.ne kept
  simp only [unpack, unpackExponent_packComponents, unpackMantissa_packComponents, unpackSign_packComponents, kept]
  exact (if_neg (by decide)).trans ((if_pos trivial).trans (dif_neg some))

theorem unpack_of_normal {s : Sign} {biased : ℕ} (pos : 0 < m) (full : 2 ^ 52 ≤ m) (short : m < 2 ^ 53)
    (low : 0 < biased) (high : biased < 2047) :
    unpack .binary64 (packComponents .binary64 s (BitVec.ofNat 11 biased) (BitVec.ofNat 52 m))
      = .finite s m (biased - 1075) pos := by
  have exponent : (BitVec.ofNat 11 biased).toNat = biased := by
    rw [BitVec.toNat_ofNat, Nat.mod_eq_of_lt (by omega)]
  have mantissa : (1#1 ++ BitVec.ofNat 52 m).toNat = m := by
    rw [toNat_one_append, BitVec.toNat_ofNat]
    omega
  have least : BitVec.ofNat 11 biased ≠ 0#11 := by
    intro none
    rw [none] at exponent
    exact low.ne exponent
  have largest : BitVec.ofNat 11 biased ≠ -1#11 := by
    intro all
    rw [all] at exponent
    exact high.ne' exponent
  simp only [unpack, unpackExponent_packComponents, unpackMantissa_packComponents, unpackSign_packComponents,
    exponent, mantissa]
  exact (if_neg largest).trans (if_neg least)

/-- **Bits keep every double that is not too large.** -/
theorem Canonical.unpack_pack {f : UnpackedFloat} (canonical : Canonical f) (small : |valueOf f| < 2 ^ 1024) :
    unpack .binary64 (pack .binary64 f) = f := by
  cases canonical with
  | zero s =>
    show unpack .binary64 (packComponents .binary64 s 0#11 0#52) = _
    simp only [unpack, unpackExponent_packComponents, unpackMantissa_packComponents, unpackSign_packComponents]
    exact (if_neg (by decide)).trans ((if_pos trivial).trans (dif_pos trivial))
  | @finite s m e pos short above full =>
    have below : e ≤ 971 := by
      by_contra beyond
      have unit : (2 : ℚ) ^ 972 ≤ 2 ^ e := by
        rw [← zpow_natCast]
        exact zpow_le_zpow_right₀ one_le_two (by omega)
      have full : (2 : ℚ) ^ 52 ≤ m := by exact_mod_cast full.resolve_left (by omega)
      rw [abs_valueOf_finite] at small
      have large : (2 : ℚ) ^ 52 * 2 ^ 972 ≤ m * 2 ^ e := mul_le_mul full unit (by positivity) (by positivity)
      rw [← pow_add] at large
      exact absurd small (not_lt.2 large)
    have biased : (e + Format.binary64.exponentBias + Format.binary64.mantissaBitsWithoutImplicit).toNat
        = (e + 1075).toNat := by rw [Int.add_assoc]; rfl
    simp only [pack, biased]
    rw [if_neg (show ¬ 2 ^ 11 ≤ (e + 1075).toNat + 1 by omega)]
    by_cases normal : 2 ^ 52 ≤ m
    · have bits : m.log2 = 52 := (Nat.log2_eq_iff pos.ne').2 ⟨normal, short⟩
      rw [bits, if_pos (show 52 + 1 = Format.binary64.mantissaBits from rfl),
        unpack_of_normal pos normal short (by omega) (by omega)]
      congr
      omega
    · have bits : m.log2 < 52 := (Nat.log2_lt pos.ne').2 (by omega)
      obtain rfl : e = -1074 := full.resolve_right normal
      rw [if_neg (show m.log2 + 1 ≠ Format.binary64.mantissaBits from (by omega : m.log2 + 1 ≠ 53)),
        unpack_of_subnormal pos (by omega)]

/-- Bits of a finite double are those of one in canonical form that is not too large. -/
theorem canonical_unpack {bits : BitVec 64} (finite : (unpack .binary64 bits).isFinite = true) :
    Canonical (unpack .binary64 bits) ∧ Low 53 971 (unpack .binary64 bits) := by
  simp only [unpack] at *
  split
  · rename_i largest
    rw [if_pos largest] at finite
    split at finite <;> cases finite
  · rename_i below
    split
    · split
      · exact ⟨.zero _, .zero _⟩
      · rename_i least some
        have short : (@unpackMantissa .binary64 bits).toNat < 2 ^ 53 :=
          (BitVec.isLt _).trans (by decide)
        rw [least]
        exact ⟨.finite short (by decide) (.inl rfl), .finite short (by decide)⟩
    · rename_i least
      have low : 0 < (@unpackExponent .binary64 bits).toNat := by
        refine Nat.pos_of_ne_zero fun zero => least ?_
        exact BitVec.eq_of_toNat_eq zero
      have high : (@unpackExponent .binary64 bits).toNat < 2047 := by
        refine lt_of_le_of_ne (Nat.lt_succ_iff.1 (BitVec.isLt _)) fun all => below ?_
        exact BitVec.eq_of_toNat_eq all
      have whole := toNat_one_append (@unpackMantissa .binary64 bits)
      refine ⟨.finite (BitVec.isLt _) ?_ (.inr (whole ▸ Nat.le_add_right _ _)), .finite (BitVec.isLt _) ?_⟩
      · show (-1074 : ℤ) ≤ (@unpackExponent .binary64 bits).toNat - 1075
        omega
      · show ((@unpackExponent .binary64 bits).toNat : ℤ) - 1075 ≤ 971
        omega

end Doubles

end TierCascade
