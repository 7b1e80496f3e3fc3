import TierCascade.Failure
import TierCascade.Severity
/-!
# Tuning of the detector

The numbers by which values are judged: how many values a series has to show first, the two bands of
scores, how many excursions are kept quiet after one was reported, and how fast old values are
forgotten.
-/

namespace TierCascade

/-- The greater of two doubles; one that is no number gives way to the other. Of equal ones the
second. -/
def greaterOf (a b : Float) : Float := if a.isNaN ∨ ¬ b.isNaN ∧ ¬ b < a then b else a

/-- The smaller of two doubles; one that is no number gives way to the other. Of equal ones the
second. -/
def lesserOf (a b : Float) : Float := if a.isNaN ∨ ¬ b.isNaN ∧ ¬ a < b then b else a

/-- The scores above which a value is moderately or highly unusual. -/
structure Bands where
  moderate : Float
  high : Float
  deriving Repr, DecidableEq

/-- By default two and three deviations. -/
def Bands.standard : Bands := ⟨2, 3⟩

/-- The numbers by which values are judged. -/
structure Tuning where
  warmup : Nat
  cooldown : Nat
  bands : Bands
  smoothing : Option Float
  floor : Float
  deriving Repr, DecidableEq

namespace Tuning

def standard : Tuning := ⟨30, 5, .standard, none, 1e-9⟩

/-- The weight of a new value after the warm-up. Unless given, it is that of the span of the
warm-up. -/
def alpha (t : Tuning) : Float :=
  t.smoothing.getD (2 / (Float.ofNat (Nat.max t.warmup 1) + 1))

def check (t : Tuning) : Except SettingsFault Unit :=
  let alpha := t.alpha
  if ¬ (0 < alpha ∧ alpha ≤ 1) then .error (.smoothing alpha)
  else if ¬ (0 < t.bands.moderate ∧ t.bands.moderate ≤ t.bands.high) then
    .error (.bands t.bands.moderate t.bands.high)
  else if ¬ 0 < t.floor then .error .floor
  else .ok ()

/-- How many deviations a value lies from a mean. Deviations below the floor count as the floor. -/
def score (t : Tuning) (value mean deviation : Float) : Float :=
  (value - mean).abs / greaterOf deviation t.floor

def grade (t : Tuning) (score : Float) : Severity :=
  if t.bands.high < score then .high
  else if t.bands.moderate < score then .moderate
  else .normal

/-- What is reported of the `count`-th value of a series with some excursions left to keep quiet,
and how many are left afterwards. During the warm-up nothing is reported; after an excursion was,
the next ones are kept quiet as long as they follow each other. -/
def settle (t : Tuning) (count quiet : Nat) (raw : Severity) : Severity × Nat :=
  if count ≤ t.warmup then (.normal, quiet)
  else if ¬ raw.isAnomalous then (.normal, 0)
  else if 0 < quiet then (.normal, quiet - 1)
  else (raw, t.cooldown)

end Tuning

end TierCascade
