import TierCascade.Proofs.Stages
/-!
# What is kept quiet

Which excursions of a series are reported depends on nothing but the grades of its values so far: the warm-up
aside, on how many excursions in a row there were just before (`Tuning.streak`). The count-down in a state
stands where that number says (`SeriesState.Heeds`), which every sample keeps (`SeriesState.Heeds.absorb`), so
after an excursion that is reported the next ones are kept quiet until the cooldown has passed
(`SeriesState.course_reports`).
-/

namespace TierCascade

namespace Tuning

variable (t : Tuning)

/-- How many excursions in a row there are at the end of some grades, the warm-up aside. -/
def streak (grades : List Severity) : Nat :=
  ((grades.drop t.warmup).reverse.takeWhile Severity.isAnomalous).length

/-- How many excursions are still to be kept quiet after some in a row. The first of them is reported, and then
one again each time the cooldown has passed. -/
def silence : Nat → Nat
  | 0 => 0
  | n + 1 => t.cooldown - n % (t.cooldown + 1)

/-- Whether a grade that comes after others is reported. -/
def Reports (past : List Severity) (raw : Severity) : Prop :=
  t.warmup < past.length + 1 ∧ raw.isAnomalous = true ∧ t.cooldown + 1 ∣ t.streak past

instance (past : List Severity) (raw : Severity) : Decidable (t.Reports past raw) :=
  inferInstanceAs (Decidable (_ ∧ _ ∧ _))

/-! ### One more grade -/

theorem streak_of_le {grades : List Severity} (short : grades.length ≤ t.warmup) : t.streak grades = 0 := by
  rw [streak, List.drop_of_length_le short]
  rfl

theorem streak_concat {past : List Severity} (warm : t.warmup ≤ past.length) (raw : Severity) :
    t.streak (past ++ [raw]) = if raw.isAnomalous then t.streak past + 1 else 0 := by
  rw [streak, List.drop_append_of_le_length warm, List.reverse_append, List.reverse_singleton,
    List.singleton_append, List.takeWhile_cons]
  split <;> rfl

theorem silence_eq_zero (n : Nat) : t.silence n = 0 ↔ t.cooldown + 1 ∣ n := by
  cases n with
  | zero => exact iff_of_true rfl (Nat.dvd_zero _)
  | succ n =>
    have below : n % (t.cooldown + 1) < t.cooldown + 1 := Nat.mod_lt n (Nat.succ_pos _)
    rw [silence, Nat.dvd_iff_mod_eq_zero, Nat.succ_mod_succ_eq_zero_iff]
    omega

theorem silence_succ_of_dvd {n : Nat} (due : t.cooldown + 1 ∣ n) : t.silence (n + 1) = t.cooldown := by
  rw [silence, Nat.mod_eq_zero_of_dvd due, Nat.sub_zero]

theorem silence_succ_of_not_dvd {n : Nat} (early : ¬ t.cooldown + 1 ∣ n) :
    t.silence (n + 1) = t.silence n - 1 := by
  cases n with
  | zero => exact absurd (Nat.dvd_zero _) early
  | succ n =>
    have below : n % (t.cooldown + 1) < t.cooldown + 1 := Nat.mod_lt n (Nat.succ_pos _)
    have other : n % (t.cooldown + 1) ≠ t.cooldown := fun last =>
      early (Nat.dvd_of_mod_eq_zero (Nat.succ_mod_succ_eq_zero_iff.2 last))
    have next : (n + 1) % (t.cooldown + 1) = n % (t.cooldown + 1) + 1 := by
      rw [← Nat.mod_add_mod, Nat.mod_eq_of_lt (by omega)]
    rw [silence, silence, next]
    omega

/-- The count-down after a grade, by what came before it. -/
theorem silence_streak_concat (past : List Severity) (raw : Severity) :
    t.silence (t.streak (past ++ [raw]))
      = if t.warmup < past.length + 1 ∧ raw.isAnomalous = true then
          t.cooldown - t.streak past % (t.cooldown + 1)
        else 0 := by
  by_cases warm : t.warmup ≤ past.length
  · rw [t.streak_concat warm]
    by_cases excursion : raw.isAnomalous = true
    · rw [if_pos excursion, if_pos ⟨by omega, excursion⟩]
      rfl
    · rw [if_neg excursion, if_neg fun both => excursion both.2]
      rfl
  · have cold : (past ++ [raw]).length ≤ t.warmup := by
      rw [List.length_append, List.length_singleton]
      omega
    rw [t.streak_of_le cold, if_neg (by omega)]
    rfl

/-- **What is reported of a grade is said by those before it**, and the count-down goes on as they say. -/
theorem settle_silence (past : List Severity) (raw : Severity) :
    t.settle (past.length + 1) (t.silence (t.streak past)) raw
      = (if t.Reports past raw then raw else .normal, t.silence (t.streak (past ++ [raw]))) := by
  by_cases cold : past.length + 1 ≤ t.warmup
  · -- During the warm-up there is no excursion to count down from.
    have before : t.streak past = 0 := t.streak_of_le (by omega)
    have after : t.streak (past ++ [raw]) = 0 := t.streak_of_le (by simpa using cold)
    have silent : ¬ t.Reports past raw := fun reports => by
      have warm := reports.1
      omega
    rw [settle, if_pos cold, if_neg silent, before, after]
  · have warm : t.warmup ≤ past.length := by omega
    rw [settle, if_neg cold, t.streak_concat warm]
    by_cases excursion : raw.isAnomalous = true
    · rw [if_neg (not_not.2 excursion), if_pos excursion]
      by_cases due : t.cooldown + 1 ∣ t.streak past
      · have reports : t.Reports past raw := ⟨by omega, excursion, due⟩
        rw [(t.silence_eq_zero _).2 due, if_neg (Nat.lt_irrefl 0), if_pos reports, t.silence_succ_of_dvd due]
      · have silent : ¬ t.Reports past raw := fun reports => due reports.2.2
        have left : 0 < t.silence (t.streak past) := Nat.pos_of_ne_zero (mt (t.silence_eq_zero _).1 due)
        rw [if_pos left, if_neg silent, t.silence_succ_of_not_dvd due]
    · have silent : ¬ t.Reports past raw := fun reports => excursion reports.2.1
      rw [if_pos excursion, if_neg silent, if_neg excursion]
      rfl

end Tuning

namespace SeriesState

variable {t : Tuning} {tier : Tier} {s : SeriesState} {past : List Severity}

/-! ### One more sample -/

/-- A state that stands where the grades of the samples in it say. -/
structure Heeds (t : Tuning) (past : List Severity) (s : SeriesState) : Prop where
  count : s.count = past.length
  quiet : s.quiet = t.silence (t.streak past)

/-- What is said of a sample, with the state it leaves, is what the grades before it say. -/
structure Judged (t : Tuning) (past : List Severity) (a : Aggregate) (after : SeriesState) : Prop where
  severity : a.severity = if t.Reports past (t.grade a.score) then t.grade a.score else .normal
  isAnomaly : a.isAnomaly = a.severity.isAnomalous
  after : after.Heeds t (past ++ [t.grade a.score])

theorem Heeds.opened (t : Tuning) (opening : Int) : (opened opening).Heeds t [] where
  count := rfl
  quiet := by
    rw [t.streak_of_le (Nat.zero_le _)]
    rfl

/-- **Taking a sample in keeps a state where the grades say.** -/
theorem Heeds.absorb (heeds : s.Heeds t past) (tier : Tier) (x : Sample) :
    Judged t past (s.absorb t tier x).1 (s.absorb t tier x).2 := by
  have count : (s.moments.fold t.warmup t.alpha x.value).count = past.length + 1 := by
    rw [Moments.count_fold]
    exact congrArg (· + 1) heeds.count
  have settled : ((s.absorb t tier x).1.severity, (s.absorb t tier x).2.quiet)
      = t.settle (s.moments.fold t.warmup t.alpha x.value).count s.quiet (t.grade (s.absorb t tier x).1.score) := rfl
  rw [count, heeds.quiet, t.settle_silence] at settled
  obtain ⟨severity, quiet⟩ := Prod.mk.inj settled
  have length : (past ++ [t.grade (s.absorb t tier x).1.score]).length = past.length + 1 := List.length_append
  exact ⟨severity, rfl, count.trans length.symm, quiet⟩

/-! ### Many samples -/

/-- What taking in samples one after the other gives: for each of them an aggregate, and the state after it. A
sample that cannot be taken in gives nothing and leaves the state as it is. -/
def course (t : Tuning) (tier : Tier) : SeriesState → List Sample → List (Aggregate × SeriesState)
  | _, [] => []
  | s, x :: xs =>
    match s.update t tier x with
    | .error _ => course t tier s xs
    | .ok (a, after) => (a, after) :: course t tier after xs

theorem course_cons_of_finite (t : Tuning) (tier : Tier) (s : SeriesState) {x : Sample} (xs : List Sample)
    (finite : x.value.isFinite = true) :
    course t tier s (x :: xs) = s.absorb t tier x :: course t tier (s.absorb t tier x).2 xs := by
  rw [course, update, Sample.check_eq_ok.2 finite]
  rfl

theorem course_cons_of_not_finite (t : Tuning) (tier : Tier) (s : SeriesState) {x : Sample} (xs : List Sample)
    (infinite : ¬ x.value.isFinite = true) : course t tier s (x :: xs) = course t tier s xs := by
  rw [course, update, Sample.check, if_neg infinite]
  rfl

theorem course_filter (t : Tuning) (tier : Tier) (s : SeriesState) (xs : List Sample) :
    course t tier s (xs.filter (·.value.isFinite)) = course t tier s xs := by
  induction xs generalizing s with
  | nil => rfl
  | cons x xs ih =>
    rw [List.filter_cons]
    by_cases finite : x.value.isFinite = true
    · rw [if_pos finite, course_cons_of_finite t tier s _ finite, course_cons_of_finite t tier s _ finite, ih]
    · rw [if_neg finite, course_cons_of_not_finite t tier s _ finite, ih]

theorem length_course (t : Tuning) (tier : Tier) (s : SeriesState) (xs : List Sample) :
    (course t tier s xs).length = (xs.filter (·.value.isFinite)).length := by
  induction xs generalizing s with
  | nil => rfl
  | cons x xs ih =>
    rw [List.filter_cons]
    by_cases finite : x.value.isFinite = true
    · rw [if_pos finite, course_cons_of_finite t tier s _ finite, List.length_cons, List.length_cons, ih]
    · rw [if_neg finite, course_cons_of_not_finite t tier s _ finite, ih]

def grades (t : Tuning) (told : List (Aggregate × SeriesState)) : List Severity :=
  told.map fun e => t.grade e.1.score

/-- Each sample is judged as the grades before it say. -/
theorem Heeds.judged (heeds : s.Heeds t past) (tier : Tier) (xs : List Sample) {i : Nat} {a : Aggregate}
    {after : SeriesState} (told : (course t tier s xs)[i]? = some (a, after)) :
    Judged t (past ++ (grades t (course t tier s xs)).take i) a after := by
  induction xs generalizing s past i with
  | nil => cases told
  | cons x xs ih =>
    by_cases finite : x.value.isFinite = true
    · have judged := heeds.absorb tier x
      rw [course_cons_of_finite t tier s xs finite] at told ⊢
      cases i with
      | zero =>
        obtain rfl := (Prod.mk.inj (Option.some.inj told)).1
        obtain rfl := (Prod.mk.inj (Option.some.inj told)).2
        exact (List.append_nil past).symm ▸ judged
      | succ i =>
        have later := ih judged.after told
        rwa [List.append_assoc] at later
    · rw [course_cons_of_not_finite t tier s xs finite] at told ⊢
      exact ih heeds told

/-- **What is reported.** Samples are taken in one after the other by a fresh state, among them any that cannot be
taken in. These make no difference. Of the others, one is reported just if the warm-up is over, it is an
excursion, and the number of excursions in a row just before it, the warm-up aside, is a multiple of the cooldown
and one; it is reported as what it is, and all others as normal. The count-down that it leaves is the cooldown
less the rest of that number, or zero after what is no excursion and in the warm-up. -/
theorem course_reports (t : Tuning) (tier : Tier) (opening : Int) (xs : List Sample) :
    course t tier (opened opening) xs = course t tier (opened opening) (xs.filter (·.value.isFinite)) ∧
    (course t tier (opened opening) xs).length = (xs.filter (·.value.isFinite)).length ∧
    ∀ i a after, (course t tier (opened opening) xs)[i]? = some (a, after) →
      let raw := t.grade a.score
      let before := t.streak ((grades t (course t tier (opened opening) xs)).take i)
      (a.isAnomaly = true ↔ t.warmup < i + 1 ∧ raw.isAnomalous = true ∧ t.cooldown + 1 ∣ before) ∧
      a.severity = (if a.isAnomaly then raw else .normal) ∧
      (a.isAnomaly = true ↔ a.severity ≠ .normal) ∧
      after.quiet = (if t.warmup < i + 1 ∧ raw.isAnomalous = true then
        t.cooldown - before % (t.cooldown + 1) else 0) ∧
      after.count = i + 1 := by
  refine ⟨(course_filter ..).symm, length_course .., fun i a after told => ?_⟩
  obtain ⟨severity, isAnomaly, count, quiet⟩ := (Heeds.opened t opening).judged tier xs told
  rw [List.nil_append] at severity count quiet
  generalize past : (grades t (course t tier (opened opening) xs)).take i = grades at severity count quiet ⊢
  have inside : i < (course t tier (opened opening) xs).length := (List.getElem?_eq_some_iff.1 told).1
  have length : grades.length = i := by
    rw [← past, List.length_take, SeriesState.grades, List.length_map, Nat.min_eq_left (Nat.le_of_lt inside)]
  have reports : a.isAnomaly = true ↔ t.Reports grades (t.grade a.score) := by
    rw [isAnomaly, severity]
    split
    · rename_i reports
      exact iff_of_true reports.2.1 reports
    · rename_i silent
      exact iff_of_false nofun silent
  refine ⟨?_, ?_, ?_, ?_, ?_⟩
  · rw [reports, Tuning.Reports, length]
  · simp only [reports]
    exact severity
  · rw [isAnomaly]
    cases a.severity <;> decide
  · rw [quiet, t.silence_streak_concat, length]
  · rw [count, List.length_append, length]
    rfl

namespace Trial

/-- Two values of warm-up, and after each excursion the next one is kept quiet. -/
def tuning : Tuning := { Tuning.standard with warmup := 2, cooldown := 1 }

def excursions : List Sample :=
  [0, 0, 9, 0 / 0, -9, 80].map fun value => ⟨.plain "shop" "visits", .absolute, 0, value, none⟩

def told : List (Aggregate × SeriesState) := course tuning .raw (opened 0) excursions

theorem four_lt_length : 4 < told.length := by decide +kernel

def last : Aggregate × SeriesState := told.get ⟨4, four_lt_length⟩

theorem told_four : told[4]? = some (last.1, last.2) :=
  (List.getElem?_eq_getElem four_lt_length).trans (congrArg some (Prod.eta _).symm)

end Trial

example : Trial.told.map (fun e => (e.1.severity, e.2.quiet))
    = [(.normal, 0), (.normal, 0), (.high, 1), (.normal, 0), (.high, 1)] := by decide +kernel

/-- The last of three excursions in a row is reported again. -/
theorem course_reports_trial :
    Trial.last.1.isAnomaly = true ∧ Trial.last.1.severity = Trial.tuning.grade Trial.last.1.score ∧
      Trial.last.2.quiet = 1 ∧ Trial.last.2.count = 5 := by
  obtain ⟨-, -, judged⟩ := course_reports Trial.tuning .raw 0 Trial.excursions
  obtain ⟨reported, severity, -, quiet, count⟩ := judged 4 Trial.last.1 Trial.last.2 Trial.told_four
  have anomaly := reported.2 (by decide +kernel)
  rw [if_pos anomaly] at severity
  exact ⟨anomaly, severity, quiet.trans (by decide +kernel), count⟩

end SeriesState

end TierCascade
