import TierCascade.Proofs.Arithmetic
import TierCascade.Proofs.Snoozing
import TierCascade.Proofs.WireFormats
/-!
# How large statistics grow

Samples with a finite value are taken in whatever that value is, but the statistics of a state are kept in
doubles too, and squares of differences are beyond all doubles long before the values are
(`SeriesState.statistics_overflow`). As long as values are at most `10^144` in size, that cannot happen, however
many of them there are and whatever they weigh (`SeriesState.statistics_finite`).

The mean is moved towards every new value, by no more than their difference as it was rounded, so it stays
within twice the bound of the values (`Moments.abs_moved_le`). The squares and the variance grow by bounded
amounts; each comes to a stand beside a power of two that is so large that such amounts are lost.
-/

namespace TierCascade

open Doubles

/-- A finite double that is at most so large. -/
structure Within (h : ℚ) (x : Float) : Prop where
  finite : x.isFinite = true
  small : |value x| ≤ h

variable {g h q w : ℚ} {x y : Float}

theorem Doubles.Rounded.within (rounded : Rounded x q) (grid : Grid h) (limit : h < 2 ^ 1024) (bound : |q| ≤ h) :
    Within h x ∧ Nearest q (value x) := by
  obtain ⟨finite, nearest, small⟩ := rounded.abs_le_of_abs_le grid limit bound
  exact ⟨⟨finite, small⟩, nearest⟩

theorem Doubles.value_twoPow {n : ℕ} (below : n < 1024) :
    (Float.ofNat (2 ^ n)).isFinite = true ∧ value (Float.ofNat (2 ^ n)) = 2 ^ (n : ℤ) := by
  have power : Grid (2 ^ (n : ℤ)) := grid_twoPow (by omega)
  rw [zpow_natCast] at power ⊢
  have rounded := rounded_ofNat (2 ^ n)
  rw [Nat.cast_pow, Nat.cast_ofNat] at rounded
  refine rounded.exact power ?_
  rw [abs_of_pos (by positivity)]
  exact pow_lt_pow_right₀ one_lt_two below

namespace Moments

/-! ### The mean -/

theorem abs_moved_le_of_le {b x m d s : ℚ} (grid : ∀ i : ℕ, i ≤ 3 → Grid (i * b)) (value : |x| ≤ b) (mean : |m| ≤ 2 * b)
    (difference : Nearest (x - m) d) (weight : 0 ≤ w ∧ w ≤ 1) (share : Nearest (w * d) s) (behind : m ≤ x) :
    |m + s| ≤ 2 * b := by
  obtain ⟨low, high⟩ := abs_le.1 mean
  have top := le_of_abs_le value
  have ahead : 0 ≤ d := difference.ge grid_zero (sub_nonneg.2 behind)
  have nonneg : 0 ≤ s := share.ge grid_zero (mul_nonneg weight.1 ahead)
  have part : s ≤ d := share.le difference.grid (mul_le_of_le_one_left ahead weight.2)
  -- The further the mean is behind, the more it may be moved.
  have reached : ∀ i : ℕ, i ≤ 3 → x - m ≤ i * b → m ≤ (2 - i) * b → m + d ≤ 2 * b := by
    intro i few short room
    have moved := difference.le (grid i few) short
    linarith
  have bound : m + d ≤ 2 * b := by
    rcases le_total 0 m with above | below
    · exact reached 1 (by omega) (by push_cast; linarith) (by push_cast; linarith)
    · rcases le_total (-b) m with near | far
      · exact reached 2 (by omega) (by push_cast; linarith) (by push_cast; linarith)
      · exact reached 3 (by omega) (by push_cast; linarith) (by push_cast; linarith)
  exact abs_le.2 ⟨by linarith, by linarith⟩

theorem abs_moved_le {b x m d s : ℚ} (grid : ∀ i : ℕ, i ≤ 3 → Grid (i * b)) (value : |x| ≤ b) (mean : |m| ≤ 2 * b)
    (difference : Nearest (x - m) d) (weight : 0 ≤ w ∧ w ≤ 1) (share : Nearest (w * d) s) : |m + s| ≤ 2 * b := by
  rcases le_total m x with behind | before
  · exact abs_moved_le_of_le grid value mean difference weight share behind
  · -- The other way round all signs change.
    have difference' : Nearest (-x - -m) (-d) := by
      have flipped := difference.neg
      rwa [neg_sub, ← neg_sub_neg] at flipped
    have share' : Nearest (w * -d) (-s) := by
      have flipped := share.neg
      rwa [← mul_neg] at flipped
    have bound := abs_moved_le_of_le grid ((abs_neg x).trans_le value) ((abs_neg m).trans_le mean) difference' weight
      share' (neg_le_neg before)
    rwa [← neg_add, abs_neg] at bound

/-! ### One more value -/

/-- The bound of the values. -/
def reach : ℚ := 2 ^ (480 : ℤ)

/-- The bound of what a value adds to the squares or to the variance. -/
def stride : ℚ := 2 ^ (964 : ℤ)

/-- The bound of the squares and of the variance. -/
def ceiling : ℚ := 2 ^ (1018 : ℤ)

theorem reach_pos : 0 < reach := zpow_pos two_pos _

theorem ceiling_pos : 0 < ceiling := zpow_pos two_pos _

theorem reach_mul_reach : 16 * (reach * reach) = stride := by
  rw [reach, stride, ← zpow_add₀ two_ne_zero, show (16 : ℚ) = 2 ^ (4 : ℤ) by norm_num, ← zpow_add₀ two_ne_zero]
  rfl

theorem multiple_reach_lt_end (i : ℕ) (few : i ≤ 3) : i * reach < 2 ^ 1024 := by
  have some : (i : ℚ) ≤ 2 ^ (2 : ℤ) := by
    have few : (i : ℚ) ≤ 3 := by exact_mod_cast few
    norm_num
    linarith
  calc i * reach ≤ 2 ^ (2 : ℤ) * reach := mul_le_mul_of_nonneg_right some reach_pos.le
    _ = 2 ^ (482 : ℤ) := by rw [reach, ← zpow_add₀ two_ne_zero]; rfl
    _ < 2 ^ 1024 := twoPow_lt (by decide)

theorem grid_multiple_reach (i : ℕ) (few : i ≤ 3) : Grid (i * reach) := by
  have point : Grid ((i : ℤ) * 2 ^ (480 : ℤ)) := grid_mul_twoPow (by rw [Nat.abs_cast]; omega) (by decide)
  rwa [Int.cast_natCast] at point

theorem grid_stride : Grid stride := grid_twoPow (by decide)

theorem grid_ceiling : Grid ceiling := grid_twoPow (by decide)

theorem abs_mul_le {a b : ℚ} (first : |a| ≤ 3 * reach) (second : |b| ≤ 3 * reach) : |a * b| ≤ stride := by
  rw [abs_mul]
  calc |a| * |b| ≤ 3 * reach * (3 * reach) := mul_le_mul first second (abs_nonneg b) (by linarith [reach_pos])
    _ ≤ 16 * (reach * reach) := by nlinarith [reach_pos]
    _ = stride := reach_mul_reach

/-- What is added to a number below the ceiling does not lift it above. -/
theorem absorbed (first : Within ceiling x) (second : Within stride y) : Within ceiling (x + y) := by
  obtain ⟨r, nearest, result⟩ := rounded_add first.finite second.finite
  have lost : stride < 2 ^ (1018 - 53 : ℤ) := zpow_lt_zpow_right₀ one_lt_two (by decide)
  have sum : |value x + value y| < ceiling + 2 ^ (1018 - 53 : ℤ) :=
    (abs_add_le _ _).trans_lt (by linarith [first.small, second.small])
  have bound := nearest.abs_le_of_absorbed (by decide) sum
  obtain ⟨finite, rfl⟩ := result (bound.trans_lt (twoPow_lt (by decide)))
  exact ⟨finite, bound⟩

theorem abs_part_le (weight : 0 ≤ w ∧ w ≤ 1) (q : ℚ) : |w * q| ≤ |q| := by
  rw [abs_mul, abs_of_nonneg weight.1]
  exact mul_le_of_le_one_left (abs_nonneg q) weight.2

structure Bounded (m : Moments Float) : Prop where
  mean : Within (2 * reach) m.mean
  squares : Within ceiling m.squares
  variance : Within ceiling m.variance

theorem bounded_zero : (zero : Moments Float).Bounded := by
  have finite : (0 : Float).isFinite = true := rfl
  have small : ∀ {h : ℚ}, 0 ≤ h → Within h 0 := fun nonneg =>
    ⟨finite, by rwa [value_zero, abs_zero]⟩
  exact ⟨small (by linarith [reach_pos]), small ceiling_pos.le, small ceiling_pos.le⟩

theorem within_difference (new : Within reach x) (mean : Within (2 * reach) y) :
    Within (3 * reach) (x - y) ∧ Nearest (value x - value y) (value (x - y)) := by
  have bound : |value x - value y| ≤ 3 * reach := (abs_sub _ _).trans (by linarith [new.small, mean.small])
  exact (rounded_sub new.finite mean.finite).within (grid_multiple_reach 3 le_rfl)
    (multiple_reach_lt_end 3 le_rfl) bound

theorem within_moved {s : Float} (new : Within reach x) (mean : Within (2 * reach) y) (weight : 0 ≤ w ∧ w ≤ 1)
    (share : Rounded s (w * value (x - y))) : Within (3 * reach) s ∧ Within (2 * reach) (y + s) := by
  obtain ⟨difference, nearest⟩ := within_difference new mean
  obtain ⟨part, nearest'⟩ := share.within (grid_multiple_reach 3 le_rfl) (multiple_reach_lt_end 3 le_rfl)
    ((abs_part_le weight _).trans difference.small)
  have bound := abs_moved_le grid_multiple_reach new.small mean.small nearest weight nearest'
  exact ⟨part, ((rounded_add mean.finite part.finite).within (grid_multiple_reach 2 (by omega))
    (multiple_reach_lt_end 2 (by omega)) bound).1⟩

theorem within_product (first : Within (3 * reach) x) (second : Within (3 * reach) y) : Within stride (x * y) :=
  ((rounded_mul first.finite second.finite).within grid_stride (twoPow_lt (by decide))
    (abs_mul_le first.small second.small)).1

theorem within_part (rounded : Rounded y (w * value x)) (weight : 0 ≤ w ∧ w ≤ 1) (old : Within ceiling x) :
    Within ceiling y :=
  (rounded.within grid_ceiling (twoPow_lt (by decide)) ((abs_part_le weight _).trans old.small)).1

/-- A double that can weigh a value against the ones before it. -/
structure IsWeight (x : Float) : Prop where
  finite : x.isFinite = true
  nonneg : 0 ≤ value x
  le_one : value x ≤ 1

theorem IsWeight.rest (weight : IsWeight x) : IsWeight (1 - x) := by
  obtain ⟨finite, one⟩ : Float.isFinite 1 = true ∧ value 1 = 1 := ⟨rfl, value_one⟩
  have rounded := rounded_sub finite weight.finite
  rw [one] at rounded
  obtain ⟨inside, nearest⟩ := rounded.within grid_one (one_lt_pow₀ one_lt_two (by decide))
    (abs_le.2 ⟨by linarith [weight.le_one], by linarith [weight.nonneg]⟩)
  exact ⟨inside.finite, nearest.ge grid_zero (by linarith [weight.le_one]), le_of_abs_le inside.small⟩

variable {m : Moments Float} {weight : Float}

/-- **One more value leaves all moments within their bounds.** -/
theorem Bounded.fold (bounded : m.Bounded) (new : Within reach x) (weighted : IsWeight weight)
    (word : m.count + 1 < 2 ^ 64) (warmup : ℕ) : (m.fold warmup weight x).Bounded := by
  obtain ⟨difference, -⟩ := within_difference new bounded.mean
  rw [Moments.fold]
  split
  · -- Every value weighs the same.
    obtain ⟨finite, least, -⟩ := ofNat_between (Nat.succ_ne_zero m.count) word
    have pos : 0 < value (Float.ofNat (m.count + 1)) := one_pos.trans_le least
    have weight : 0 ≤ (value (Float.ofNat (m.count + 1)))⁻¹ ∧ (value (Float.ofNat (m.count + 1)))⁻¹ ≤ 1 :=
      ⟨inv_nonneg.2 pos.le, inv_le_one_of_one_le₀ least⟩
    have divided : ∀ {y : Float}, y.isFinite = true →
        Rounded (y / Float.ofNat (m.count + 1)) ((value (Float.ofNat (m.count + 1)))⁻¹ * value y) := by
      intro y number
      rw [← div_eq_inv_mul]
      exact rounded_div number finite pos.ne'
    obtain ⟨-, mean⟩ := within_moved new bounded.mean weight (divided difference.finite)
    have squares := absorbed bounded.squares (within_product difference (within_difference new mean).1)
    exact ⟨mean, squares, within_part (divided squares.finite) weight squares⟩
  · -- A value has its fixed weight.
    obtain ⟨part, mean⟩ := within_moved new bounded.mean ⟨weighted.nonneg, weighted.le_one⟩
      (rounded_mul weighted.finite difference.finite)
    have variance := absorbed bounded.variance (within_product part difference)
    have rest := weighted.rest
    exact ⟨mean, bounded.squares,
      within_part (rounded_mul rest.finite variance.finite) ⟨rest.nonneg, rest.le_one⟩ variance⟩

end Moments

/-! ### Tunings -/

namespace Tuning

open Moments (reach reach_pos)

variable {t : Tuning}

theorem isWeight_alpha (usable : t.check = .ok ()) : Moments.IsWeight t.alpha := by
  have range : 0 < t.alpha ∧ t.alpha ≤ 1 := by
    by_contra out
    rw [check, if_pos out] at usable
    cases usable
  have finite : t.alpha.isFinite = true := isFinite_of_between (le_of_lt range.1) range.2 rfl rfl
  have low := (lt_iff_value (x := 0) rfl finite).1 range.1
  have high := (le_iff_value (y := 1) finite rfl).1 range.2
  rw [value_zero] at low
  rw [value_one] at high
  exact ⟨finite, low.le, high⟩

/-- What a deviation has to be at least for scores to stay within all doubles. -/
theorem pow_le_value_of_le (number : y.isFinite = true) (above : 1e-150 ≤ y) : 2 ^ (-499 : ℤ) ≤ value y := by
  obtain ⟨finite, whole⟩ := value_twoPow (n := 499) (by decide)
  have quotient : value 1 / value (Float.ofNat (2 ^ 499)) = 2 ^ (-499 : ℤ) := by
    rw [value_one, whole, zpow_neg, one_div]
    rfl
  have divided := rounded_div (x := 1) rfl finite (by rw [whole]; positivity)
  rw [quotient] at divided
  have point : |(2 : ℚ) ^ (-499 : ℤ)| < 2 ^ 1024 := by
    rw [abs_of_pos (zpow_pos two_pos _)]
    exact twoPow_lt (by decide)
  obtain ⟨finite', part⟩ := divided.exact (grid_twoPow (by decide)) point
  have first : 1 / Float.ofNat (2 ^ 499) ≤ 1e-150 := by decide +kernel
  have second := (le_iff_value finite' number).1 (le_chain first above)
  rwa [part] at second

/-- A score is finite, however small the deviation and however large the floor. -/
theorem isFinite_score (floor : 1e-150 ≤ t.floor) {mean deviation : Float}
    (difference : Within (3 * reach) (x - mean)) (finite : deviation.isFinite = true) :
    (t.score x mean deviation).isFinite = true := by
  obtain ⟨-, number, -⟩ := le_iff.1 floor
  obtain ⟨-, -, above⟩ := greaterOf_spec (number_of_finite finite) number
  obtain ⟨finite', size⟩ := value_abs difference.finite
  rw [score]
  by_cases real : (greaterOf deviation t.floor).isFinite = true
  · have least := pow_le_value_of_le real (le_chain floor above)
    have unit : (0 : ℚ) < 2 ^ (-499 : ℤ) := zpow_pos two_pos _
    have bound : |value (x - mean).abs / value (greaterOf deviation t.floor)| ≤ 2 ^ (981 : ℤ) := by
      rw [abs_div, size, abs_abs, abs_of_pos (unit.trans_le least), div_le_iff₀ (unit.trans_le least)]
      calc |value (x - mean)| ≤ 3 * reach := difference.small
        _ ≤ 4 * reach := by linarith [reach_pos]
        _ = 2 ^ (981 : ℤ) * 2 ^ (-499 : ℤ) := by
          rw [reach, show (4 : ℚ) = 2 ^ (2 : ℤ) by norm_num, ← zpow_add₀ two_ne_zero, ← zpow_add₀ two_ne_zero]
          rfl
        _ ≤ 2 ^ (981 : ℤ) * value (greaterOf deviation t.floor) :=
          mul_le_mul_of_nonneg_left least (zpow_pos two_pos _).le
    exact ((rounded_div finite' real (unit.trans_le least).ne').within (grid_twoPow (by decide))
      (twoPow_lt (by decide)) bound).1.finite
  · obtain ⟨-, number', -⟩ := le_iff.1 above
    exact isFinite_div_of_infinite finite' number' real

end Tuning

namespace SeriesState

open Moments (reach within_difference)

/-! ### States -/

def reals (s : SeriesState) : List Float :=
  [s.moments.mean, s.moments.squares, s.moments.variance, s.deviation, s.lastValue, s.min, s.max]

/-- A state of values within reach. Its extremes are infinite before the first of them. -/
structure Sound (s : SeriesState) : Prop where
  moments : s.moments.Bounded
  deviation : s.deviation.isFinite = true
  extremes : s.min = 1 / 0 ∧ s.max = -1 / 0 ∨ s.min.isFinite = true ∧ s.max.isFinite = true

variable {t : Tuning} {tier : Tier} {s : SeriesState} {x : Sample}

theorem Sound.opened (opening : Int) : (opened opening).Sound := by
  have finite : Float.isFinite 0 = true := rfl
  exact ⟨Moments.bounded_zero, finite, .inl ⟨rfl, rfl⟩⟩

theorem isFinite_deviation (variance : y.isFinite = true) : (greaterOf y 0).sqrt.isFinite = true := by
  obtain ⟨one, -, nonneg⟩ := greaterOf_spec (number_of_finite variance) (b := 0) rfl
  have finite : (greaterOf y 0).isFinite = true := by
    rcases one with same | zero
    · rwa [same]
    · rw [zero]
      rfl
  refine isFinite_sqrt finite ?_
  have order := (le_iff_value (x := 0) rfl finite).1 nonneg
  rwa [value_zero] at order

theorem Sound.isFinite_extremes (sound : s.Sound) (finite : y.isFinite = true) :
    (lesserOf s.min y).isFinite = true ∧ (greaterOf s.max y).isFinite = true := by
  have number := number_of_finite finite
  rcases sound.extremes with ⟨least, greatest⟩ | ⟨least, greatest⟩
  · rw [least, greatest, lesserOf_infinity number, greaterOf_infinity number]
    exact ⟨finite, finite⟩
  · constructor
    · rcases (lesserOf_spec (number_of_finite least) number).1 with same | new
      · rwa [same]
      · rwa [new]
    · rcases (greaterOf_spec (number_of_finite greatest) number).1 with same | new
      · rwa [same]
      · rwa [new]

/-- **One more sample within reach leaves all numbers finite, those that are told and those that are kept.** -/
theorem Sound.absorb (sound : s.Sound) (usable : t.check = .ok ()) (floor : 1e-150 ≤ t.floor)
    (new : Within reach x.value) (word : s.count + 1 < 2 ^ 64) :
    (s.absorb t tier x).2.Sound ∧ (∀ y ∈ (s.absorb t tier x).1.reals, y.isFinite = true) ∧
      ∀ y ∈ (s.absorb t tier x).2.reals, y.isFinite = true := by
  have moments := sound.moments.fold new (Tuning.isWeight_alpha usable) word t.warmup
  have deviation := isFinite_deviation moments.variance.finite
  obtain ⟨least, greatest⟩ := sound.isFinite_extremes new.finite
  obtain ⟨difference, -⟩ := within_difference new sound.moments.mean
  have surprise : (s.surprise t x.value).1.isFinite = true ∧ (s.surprise t x.value).2.isFinite = true := by
    rw [SeriesState.surprise]
    split
    · exact ⟨rfl, rfl⟩
    · exact ⟨Tuning.isFinite_score floor difference sound.deviation, difference.finite⟩
  refine ⟨⟨moments, deviation, .inr ⟨least, greatest⟩⟩, ?_, ?_⟩
  · simp only [Aggregate.reals, List.forall_mem_cons]
    exact ⟨new.finite, moments.mean.finite, deviation, surprise.2, least, greatest, surprise.1, by simp⟩
  · simp only [reals, List.forall_mem_cons]
    exact ⟨moments.mean.finite, moments.squares.finite, moments.variance.finite, deviation, new.finite, least,
      greatest, by simp⟩

theorem within_reach (finite : y.isFinite = true) (small : y.abs ≤ 1e144) : Within reach y := by
  obtain ⟨finite', size⟩ := value_abs finite
  obtain ⟨finite'', whole⟩ := value_twoPow (n := 480) (by decide)
  have near : (1e144 : Float) ≤ Float.ofNat (2 ^ 480) := by decide +kernel
  have order := (le_iff_value finite' finite'').1 (le_chain small near)
  rw [size, whole] at order
  exact ⟨finite, order⟩

/-! ### Many samples -/

/-- The doubles of what is told and of what is kept are finite, and the integers of what is told fit. -/
def Real (e : Aggregate × SeriesState) : Prop :=
  (∀ y ∈ e.1.reals, y.isFinite = true) ∧ (∀ y ∈ e.2.reals, y.isFinite = true) ∧ Aggregate.format.Fits e.1

theorem Sound.course (sound : s.Sound) (usable : t.check = .ok ()) (floor : 1e-150 ≤ t.floor) {xs : List Sample}
    (word : s.count + xs.length < 2 ^ 64) (timestamps : ∀ x ∈ xs, IsWord x.timestamp)
    (small : ∀ x ∈ xs, x.value.isFinite = true → x.value.abs ≤ 1e144) : ∀ e ∈ course t tier s xs, Real e := by
  induction xs generalizing s with
  | nil =>
    intro e mem
    cases mem
  | cons x xs ih =>
    rw [List.length_cons] at word
    rw [List.forall_mem_cons] at timestamps small
    by_cases finite : x.value.isFinite = true
    · rw [course_cons_of_finite t tier s xs finite, List.forall_mem_cons]
      have room : s.count + 1 < 2 ^ 64 := by omega
      obtain ⟨after, told, kept⟩ := sound.absorb usable floor (within_reach finite (small.1 finite)) room
      have count : (s.absorb t tier x).2.count = s.count + 1 := Moments.count_fold ..
      have fits : Aggregate.format.Fits (s.absorb t tier x).1 := ⟨count.trans_lt room, timestamps.1⟩
      exact ⟨⟨told, kept, fits⟩, ih after (by omega) timestamps.2 small.2⟩
    · rw [course_cons_of_not_finite t tier s xs finite]
      exact ih sound (by omega) timestamps.2 small.2

/-- **Statistics are finite.** A fresh state takes in samples, of which those without a finite value give nothing.
If no other value is beyond `10^144` in size, and deviations count as `10^-150` at least, then for every other
sample an aggregate is told; all numbers in it are finite, as are those of the state, and if their texts are read
back as they are, so is its own. -/
theorem statistics_finite (usable : t.check = .ok ()) (floor : 1e-150 ≤ t.floor) {xs : List Sample}
    (short : xs.length < 2 ^ 64) (timestamps : ∀ x ∈ xs, IsWord x.timestamp)
    (small : ∀ x ∈ xs, x.value.isFinite = true → x.value.abs ≤ 1e144) (tier : Tier) (opening : Int) :
    (course t tier (opened opening) xs).length = (xs.filter (·.value.isFinite)).length ∧
    ∀ e ∈ course t tier (opened opening) xs,
      (∀ y ∈ e.1.reals, y.isFinite = true) ∧ (∀ y ∈ e.2.reals, y.isFinite = true) ∧
      ((∀ y ∈ e.1.reals, y.isFinite = true → ReadsBack y) →
        decodeText Aggregate.decoder e.1.json.compact.toList = .ok e.1) := by
  have word : (opened opening).count + xs.length < 2 ^ 64 := (Nat.zero_add _).trans_lt short
  refine ⟨length_course .., fun e mem => ?_⟩
  obtain ⟨told, kept, fits⟩ := (Sound.opened opening).course usable floor word timestamps small e mem
  exact ⟨told, kept, fun printed => Aggregate.roundTrips e.1 fits told printed⟩

namespace Trial

def valued (values : List Float) : List Sample :=
  values.map fun value => ⟨.plain "shop" "visits", .absolute, 0, value, none⟩

/-- Values within the bound, and one that is no number. -/
def large : List Sample := valued [0, 1e144, 0 / 0, -1e144]

/-- Values whose squares are beyond all doubles. -/
def vast : List Sample := valued [0, 1e200, -1e300]

end Trial

theorem statistics_finite_trial :
    (course .standard .raw (opened 0) Trial.large).length = 3 ∧
    ∀ e ∈ course .standard .raw (opened 0) Trial.large,
      (∀ y ∈ e.1.reals, y.isFinite = true) ∧ (∀ y ∈ e.2.reals, y.isFinite = true) ∧
      decodeText Aggregate.decoder e.1.json.compact.toList = .ok e.1 := by
  have usable : Tuning.standard.check = .ok () := by decide +kernel
  have timestamps : ∀ x ∈ Trial.large, IsWord x.timestamp := by decide +kernel
  have small : ∀ x ∈ Trial.large, x.value.isFinite = true → x.value.abs ≤ 1e144 := by decide +kernel
  have printed : ∀ e ∈ course .standard .raw (opened 0) Trial.large, ∀ y ∈ e.1.reals, ReadsBack y := by
    decide +kernel
  obtain ⟨length, finite⟩ := statistics_finite usable (by decide +kernel) (by decide +kernel) timestamps small .raw 0
  refine ⟨length.trans (by decide +kernel), fun e mem => ?_⟩
  obtain ⟨told, kept, back⟩ := finite e mem
  exact ⟨told, kept, back fun y number _ => printed e mem y number⟩

/-- **Beyond the bound they are not.** Three finite values are taken in. The square of the second is beyond all
doubles, and the deviation with it: what is told of it and of the third is written with a gap and not read back,
and the third, however far out, has a score of nothing. -/
theorem statistics_overflow :
    Tuning.standard.check = .ok () ∧ (∀ x ∈ Trial.vast, x.value.isFinite = true) ∧
    (course .standard .raw (opened 0) Trial.vast).map (fun e => e.1.deviation.isFinite) = [true, false, false] ∧
    (course .standard .raw (opened 0) Trial.vast).map
        (fun e => (decodeText Aggregate.decoder e.1.json.compact.toList).isOk) = [true, false, false] ∧
    (course .standard .raw (opened 0) Trial.vast).map (fun e => e.1.score == 0) = [true, false, true] := by
  refine ⟨by decide +kernel, by decide +kernel, by decide +kernel, ?_, by decide +kernel⟩
  simp only [Json.compact, String.toList_ofList]
  decide +kernel

end SeriesState

end TierCascade
