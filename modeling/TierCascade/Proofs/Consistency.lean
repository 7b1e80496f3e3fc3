import TierCascade.Proofs.Findings
import TierCascade.Proofs.Interleaving
import TierCascade.Proofs.Readers
/-!
# What a replay reports is consistent

A report is put together of three records of one run: what the ledger has counted, what the workers say of
their states, and what the recorder was handed. They agree (`Console.replay_consistent`) because of what
becomes of a sample at a tier: unless its value is no number it is recorded, and only what is recorded moves
on (`Run.recorded_perm`, `Run.arrivals_subperm`). Values that are read from a text are numbers
(`Reading.isFinite_of_mem_samples`).

What is asked for is picked from the report when all of it is there. So there is but one report of a text for
all that may be asked for.
-/

namespace TierCascade

/-! ### A stage alone -/

namespace Solo

theorem aggregates_after (t : Tier) (u : Tuning) (xs : List Sample) :
    (after t u xs).aggregates.map Aggregate.toSample = (xs.filter (·.value.isFinite)).map Sample.bare := by
  induction xs using List.reverseRecOn with
  | nil => rfl
  | append_singleton xs x ih =>
    rw [after_concat, List.filter_append, List.map_append, ← ih, List.filter_singleton]
    cases finite : x.value.isFinite with
    | true =>
      rw [take_of_finite _ finite, List.map_append]
      rfl
    | false =>
      rw [take_of_not_finite _ finite]
      exact (List.append_nil _).symm

theorem onward_sublist (t : Tier) (u : Tuning) (xs : List Sample) :
    (after t u xs).onward.Sublist ((after t u xs).aggregates.map Aggregate.toSample) := by
  induction xs using List.reverseRecOn with
  | nil => exact .slnil
  | append_singleton xs x ih =>
    rw [after_concat]
    cases finite : x.value.isFinite with
    | false =>
      rw [take_of_not_finite _ finite]
      exact ih
    | true =>
      rw [take_of_finite _ finite, List.map_append]
      refine ih.append ?_
      cases moved : (((after t u xs).stage.taken x).closeWindow ((after t u xs).stage.absorbed x).1 none).1 with
      | none => exact List.nil_sublist _
      | some y =>
        rw [Stage.eq_toSample_of_closeWindow moved]
        exact List.Sublist.refl _

end Solo

/-! ### A run that has drained -/

def History.recordedAt (h : History) (t : Tier) : List Aggregate := (h.attempts .store).filter (·.tier == t)

namespace Run

variable {σ : Type} {s : Settings} {c : Collaborator σ} {h : History} {p : Plant σ}

theorem solo_of_drained (run : Run s c h p) (calm : h.Faultless) (stores : ∀ t, s.stored.get t = true)
    (drained : p.loop.exit = some .drained) (t : Tier) (x : Series) :
    let o := Solo.after t s.tuning ((h.arrivals t).filter fun y => y.series = x)
    (((h.recordedAt t).map Aggregate.toSample).filter fun y => y.series = x) = o.aggregates.map Aggregate.toSample ∧
      ∀ g, t.next = some g → ((h.arrivals g).filter fun y => y.series = x) = o.onward := by
  have together : s.Together (fun y => decide (y = x)) x := by
    intro t y own
    rw [of_decide_eq_true own]
  obtain ⟨recorded, onward⟩ := run.part_of_drained calm stores drained together t
  refine ⟨?_, onward⟩
  rw [← recorded, History.recordedAt, List.filter_map, List.filter_filter]
  congr 1
  refine List.filter_congr fun a _ => ?_
  rw [Bool.and_comm]
  rfl

/-- **What comes to a tier is recorded there**, unless its value is no number. -/
theorem recorded_perm (run : Run s c h p) (calm : h.Faultless) (stores : ∀ t, s.stored.get t = true)
    (drained : p.loop.exit = some .drained) (t : Tier) :
    ((h.recordedAt t).map Aggregate.toSample).Perm (((h.arrivals t).filter (·.value.isFinite)).map Sample.bare) := by
  refine perm_of_classes Sample.series fun x => .of_eq ?_
  rw [(run.solo_of_drained calm stores drained t x).1, Solo.aggregates_after, List.filter_map, List.filter_comm]
  rfl

/-- **Only what was recorded at a tier comes to the next one.** -/
theorem arrivals_subperm (run : Run s c h p) (calm : h.Faultless) (stores : ∀ t, s.stored.get t = true)
    (drained : p.loop.exit = some .drained) {t g : Tier} (next : t.next = some g) :
    (h.arrivals g).Subperm ((h.recordedAt t).map Aggregate.toSample) := by
  refine subperm_of_classes Sample.series fun x => ?_
  obtain ⟨recorded, onward⟩ := run.solo_of_drained calm stores drained t x
  rw [recorded, onward g next]
  exact (Solo.onward_sublist t s.tuning _).subperm

theorem length_recordedAt_next (run : Run s c h p) (calm : h.Faultless) (stores : ∀ t, s.stored.get t = true)
    (drained : p.loop.exit = some .drained) {t g : Tier} (next : t.next = some g) :
    (h.recordedAt g).length ≤ (h.recordedAt t).length := by
  have recorded := (run.recorded_perm calm stores drained g).length_eq
  have came := (run.arrivals_subperm calm stores drained next).length_le
  rw [List.length_map, List.length_map] at recorded
  rw [List.length_map] at came
  exact recorded.trans_le ((List.length_filter_le _ _).trans came)

/-- The series that a tier has a state for are those of which it has something recorded. -/
theorem takenIn_perm (run : Run s c h p) (calm : h.Faultless) (stores : ∀ t, s.stored.get t = true)
    (drained : p.loop.exit = some .drained) (t : Tier) :
    (h.takenIn t).Perm ((h.recordedAt t).map Aggregate.series) := by
  have taken : (h.taken t).Perm ((h.came t).filter Delivery.isNumber) :=
    (run.queued.taken_perm t).trans ((run.handled_of_drained drained t).symm.filter _)
  have arrived : ((h.came t).filter Delivery.isNumber).map (·.sample) = (h.arrivals t).filter (·.value.isFinite) := by
    rw [History.arrivals_eq, List.filter_map]
    rfl
  have recorded := (run.recorded_perm calm stores drained t).map Sample.series
  rw [← arrived, List.map_map, List.map_map, List.map_map] at recorded
  exact (taken.map _).trans recorded.symm

end Run

/-! ### The settings of a replay -/

namespace Doubles

theorem span_between {n : ℕ} (some : n ≠ 0) (word : n < 2 ^ 64) :
    0 < 2 / (Float.ofNat n + 1) ∧ 2 / (Float.ofNat n + 1) ≤ 1 := by
  obtain ⟨finite, least, most⟩ := ofNat_between some word
  obtain ⟨finite', nearest, bound⟩ : (Float.ofNat n + 1).isFinite = true ∧
      Nearest (value (Float.ofNat n) + 1) (value (Float.ofNat n + 1)) ∧
      |value (Float.ofNat n + 1)| ≤ 2 ^ (65 : ℤ) := by
    have sum := rounded_add finite (y := 1) rfl
    rw [value_one] at sum
    refine sum.abs_le_of_abs_le (grid_twoPow (by decide)) (twoPow_lt (by decide)) ?_
    rw [abs_of_nonneg (by linarith)]
    norm_num at most ⊢
    linarith
  have low : 2 ≤ value (Float.ofNat n + 1) := nearest.ge (grid_intCast (i := 2) (by decide)) (by linarith)
  have high := le_of_abs_le bound
  have pos : 0 < value (Float.ofNat n + 1) := two_pos.trans_le low
  have two : value 2 = 2 := (value_ofNat (n := 2) (by decide)).2
  have quotient := rounded_div (x := 2) rfl finite' pos.ne'
  rw [two] at quotient
  have part : |2 / value (Float.ofNat n + 1)| ≤ 1 := by
    rw [abs_of_nonneg (by positivity), div_le_one pos]
    exact low
  obtain ⟨finite'', nearest', whole⟩ := quotient.abs_le_of_abs_le grid_one (one_lt_pow₀ one_lt_two (by decide)) part
  have some : 2 ^ (-64 : ℤ) ≤ value (2 / (Float.ofNat n + 1)) := by
    refine nearest'.ge (grid_twoPow (by decide)) ?_
    rw [le_div_iff₀ pos]
    norm_num at high ⊢
    linarith
  constructor
  · rw [lt_iff_value rfl finite'', value_zero]
    exact (zpow_pos two_pos _).trans_le some
  · rw [le_iff_value finite'' rfl, value_one]
    exact le_of_abs_le whole

end Doubles

namespace Console

namespace ReplayOptions

theorem usable {o : ReplayOptions} (word : ∀ n ∈ o.warmup, n < 2 ^ 64) : o.settings.check = .ok () := by
  have span : Nat.max (o.warmup.getD 30) 1 ≠ 0 ∧ Nat.max (o.warmup.getD 30) 1 < 2 ^ 64 := by
    have short : o.warmup.getD 30 < 2 ^ 64 := by
      cases given : o.warmup with
      | none => decide
      | some n => exact word n given
    exact ⟨Nat.ne_of_gt (Nat.le_max_right _ 1), Nat.max_lt.2 ⟨short, by decide⟩⟩
  have weight : 0 < o.settings.tuning.alpha ∧ o.settings.tuning.alpha ≤ 1 := Doubles.span_between span.1 span.2
  have bands : 0 < o.settings.tuning.bands.moderate ∧
      o.settings.tuning.bands.moderate ≤ o.settings.tuning.bands.high :=
    show 0 < Bands.standard.moderate ∧ Bands.standard.moderate ≤ Bands.standard.high by decide +kernel
  have floor : 0 < o.settings.tuning.floor := show 0 < Tuning.standard.floor by decide +kernel
  have tuned : o.settings.tuning.check = .ok () := by
    unfold Tuning.check
    rw [if_neg (not_not.2 weight), if_neg (not_not.2 bands), if_neg (not_not.2 floor)]
  rw [Settings.check, tuned]
  rfl

theorem settings_congr {o o' : ReplayOptions} (warmup : o'.warmup = o.warmup) (cooldown : o'.cooldown = o.cooldown) :
    o'.settings = o.settings := by
  rw [settings, settings, warmup, cooldown]

end ReplayOptions

/-! ### The order of a report -/

/-- An aggregate is shown no later than another one: by its time, then by its tier, then by the text of its
series. -/
def Precedes (a b : Aggregate) : Prop :=
  a.timestamp < b.timestamp ∨ a.timestamp = b.timestamp ∧
    (a.tier < b.tier ∨ a.tier = b.tier ∧ a.series.canonical ≤ b.series.canonical)

theorem precedes_of_shownBefore {a b : Aggregate} (before : shownBefore a b = true) : Precedes a b := by
  rw [shownBefore_eq] at before
  rcases Ordering.isLE_then_iff_or.1 before with earlier | ⟨now, before⟩
  · exact .inl (Int.compare_eq_lt.1 earlier)
  · refine .inr ⟨Int.compare_eq_eq.1 now, ?_⟩
    rcases Ordering.isLE_then_iff_or.1 before with finer | ⟨here, before⟩
    · exact .inl (Nat.compare_eq_lt.1 finer)
    · have text := compare_le_iff_le.1 (Ordering.isLE_iff_ne_gt.1 before)
      exact .inr ⟨Tier.index_injective (Nat.compare_eq_eq.1 here), text⟩

/-! ### Reports -/

def ReplayReport.atTier (r : ReplayReport) (t : Tier) : List Aggregate := r.aggregates.filter (·.tier == t)

/-- The parts of the report of a text agree with the text and with each other. Every line that is not blank is
counted; every sample was handed out once and acknowledged, and that was all; the aggregates are in order, and at
the finest tier they are those of the samples; and the summary says of each tier what its aggregates say. -/
structure ReplayReport.Consistent (text : List Char) (r : ReplayReport) : Prop where
  samples : r.samples = (Reading.samples (Reading.ofText text)).length
  lines : r.samples + r.skipped = (textLines text).countP (trimBlanks · ≠ [])
  tally : r.tally = ⟨r.samples, r.samples, 0, 0, 0, 0⟩
  sorted : r.aggregates.Pairwise Precedes
  first : ((r.atTier .raw).map Aggregate.toSample).Perm ((Reading.samples (Reading.ofText text)).map Sample.bare)
  summary : r.summary = Tier.all.map fun t => ⟨t, ((r.atTier t).map Aggregate.series).toFinset.card,
    (r.atTier t).length, ((r.atTier t).filter (·.isAnomaly)).length⟩
  coarser : ∀ t g, t.next = some g → (r.atTier g).length ≤ (r.atTier t).length

theorem nonblank_lines (text : List Char) :
    (Reading.samples (Reading.ofText text)).length + (Reading.complaints (Reading.ofText text)).length
      = (textLines text).countP (trimBlanks · ≠ []) := by
  rw [Reading.length_samples_add_length_complaints, Reading.ofText, List.countP_map]
  refine List.countP_congr fun line _ => ?_
  simp [Reading.ofLine_eq_blank]

/-- **Whatever the schedule, a replay of a text gives a consistent report.** -/
theorem Replays.consistent {s : Settings} {text : List Char} {out : Except Complaint ReplayReport}
    (usable : s.check = .ok ()) (stores : ∀ t, s.stored.get t = true)
    (replays : Replays s (Reading.samples (Reading.ofText text)) (Reading.complaints (Reading.ofText text)).length
      out) :
    ∃ r : ReplayReport, out = .ok r ∧ r.Consistent text := by
  rcases replays.result with ⟨f, refused, -⟩ | ⟨start, p, h, census, -, recorded, inputs, drained, counted, rfl⟩
  · rw [Plant.launch, Plant.start_eq_ok usable] at refused
    cases refused
  obtain ⟨run, calm, -, -⟩ := recorded
  refine ⟨_, rfl, ?_⟩
  let r : ReplayReport := .of (Reading.samples (Reading.ofText text)).length
    (Reading.complaints (Reading.ofText text)).length
    ⟨(Reading.samples (Reading.ofText text)).length, (Reading.samples (Reading.ofText text)).length, 0, 0, 0, 0⟩
    census (h.attempts .store)
  have told : ∀ t, (r.atTier t).Perm (h.recordedAt t) := fun t => (List.mergeSort_perm _ _).filter _
  constructor
  case samples => rfl
  case lines => exact nonblank_lines text
  case tally => rfl
  case sorted =>
    refine (List.pairwise_mergeSort shownBefore_trans shownBefore_total _).imp ?_
    exact precedes_of_shownBefore
  case first =>
    have numbers : (h.arrivals .raw).filter (·.value.isFinite) = h.arrivals .raw := by
      rw [← run.inputs_of_drained calm drained, inputs]
      exact List.filter_eq_self.2 fun x mem => Reading.isFinite_of_mem_samples mem
    have first := run.recorded_perm calm stores drained .raw
    rw [numbers, ← run.inputs_of_drained calm drained, inputs] at first
    exact ((told .raw).map _).trans first
  case summary =>
    have states := run.staffed.census_eq.symm.trans counted
    obtain rfl := Except.ok.inj states
    show List.map _ (List.map _ _) = _
    rw [List.map_map]
    refine List.map_congr_left fun t _ => ?_
    have series : (h.takenIn t).toFinset = ((r.atTier t).map Aggregate.series).toFinset :=
      List.toFinset_eq_of_perm _ _ ((run.takenIn_perm calm stores drained t).trans ((told t).symm.map _))
    show TierSummary.mk t (h.takenIn t).toFinset.card _ _ = _
    rw [series]
    rfl
  case coarser =>
    intro t g next
    have fewer := run.length_recordedAt_next calm stores drained next
    rwa [← (told g).length_eq, ← (told t).length_eq] at fewer

theorem ReplayReport.select_eq (o : ReplayOptions) (r : ReplayReport) :
    r.select o = { r with aggregates := r.aggregates.filter fun a =>
      (o.anomaliesOnly = true → a.isAnomaly = true) ∧ ∀ t ∈ o.tier, a.tier = t } := by
  rw [select]
  congr 1
  refine List.filter_congr fun a _ => ?_
  rw [Bool.eq_iff_iff, ReplayOptions.selects, Bool.and_eq_true, decide_eq_true_iff]
  refine and_congr ?_ ?_
  · cases o.anomaliesOnly <;> simp
  · cases o.tier with
    | none => exact iff_of_true rfl nofun
    | some g =>
      constructor
      · rintro same _ ⟨⟩
        exact (eq_of_beq same).symm
      · intro same
        exact beq_iff_eq.2 (same g rfl).symm

/-- **What a replay reports is consistent.** For every text and every warm-up and cooldown there is one report:
every schedule of a replay gives it, and its parts agree with the text and with each other. Whatever else is asked
for, what is shown is this report, with those of its aggregates that are asked for in their order, and everything
else as it is. -/
theorem replay_consistent (text : List Char) {warmup cooldown : Option Nat} (word : ∀ n ∈ warmup, n < 2 ^ 64) :
    ∃ r : ReplayReport, r.Consistent text ∧
      ∀ o : ReplayOptions, o.warmup = warmup → o.cooldown = cooldown →
        (∀ out, Replays o.settings (Reading.samples (Reading.ofText text))
          (Reading.complaints (Reading.ofText text)).length out ↔ out = .ok r) ∧
        (r.select o = { r with aggregates := r.aggregates.filter fun a =>
          (o.anomaliesOnly = true → a.isAnomaly = true) ∧ ∀ t ∈ o.tier, a.tier = t }) ∧
        ∀ ink format path, o.display ink format path (some (utf8Bytes text))
          = .after (if o.verbose then verboseLines ink o.settings (Reading.ofText text) else [])
            (.shown (match format with
              | .json => jsonLines (r.select o).json
              | .table => (r.select o).lines ink path)) := by
  let plain : ReplayOptions := ⟨warmup, cooldown, false, none, false⟩
  obtain ⟨r, given, consistent⟩ := (replays_replay plain.settings (Reading.samples (Reading.ofText text))
    (Reading.complaints (Reading.ofText text)).length).consistent (ReplayOptions.usable word) plain.stores
  refine ⟨r, consistent, fun o same same' => ?_⟩
  have settings : o.settings = plain.settings := ReplayOptions.settings_congr (o := plain) same same'
  refine ⟨fun out => ?_, r.select_eq o, fun ink format path => ?_⟩
  · rw [settings, ← given]
    constructor
    · exact fun replays => (replays_replay ..).unique plain.stores plain.together replays
    · rintro rfl
      exact replays_replay ..
  · rw [ReplayOptions.display, Option.bind_some, readFixture_utf8Bytes]
    simp only [settings, given]
    cases format <;> rfl

namespace Trial

def fixture : List Char :=
  "\x7b\"accountId\":\"shop\",\"metricName\":\"visits\",\"timestamp\":5,\"value\":2.5\x7d\n \nvisits\n".toList

def anomalies : ReplayOptions := ⟨some 3, none, true, some .raw, false⟩

end Trial

theorem replay_consistent_trial :
    ∃ r : ReplayReport, r.Consistent Trial.fixture ∧ r.samples = 1 ∧ r.samples + r.skipped = 2 ∧
      (r.atTier .raw).length = 1 ∧
      Trial.anomalies.display ⟨false⟩ .json "fixture" (some (utf8Bytes Trial.fixture))
        = .after [] (.shown (jsonLines (r.select Trial.anomalies).json)) := by
  have word : ∀ n ∈ some 3, n < 2 ^ 64 := by decide
  obtain ⟨r, consistent, shown⟩ := @replay_consistent Trial.fixture (some 3) none word
  obtain ⟨-, -, display⟩ := shown Trial.anomalies rfl rfl
  have one : r.samples = 1 := consistent.samples.trans (by decide +kernel)
  refine ⟨r, consistent, one, consistent.lines.trans (by decide +kernel), ?_, display _ .json _⟩
  have first := consistent.first.length_eq
  rw [List.length_map, List.length_map, ← consistent.samples, one] at first
  exact first

end Console

end TierCascade
