import TierCascade.Proofs.WireFormats
/-!
# Settings that say only a part

Whoever writes settings by hand leaves most of them out, in any order and at any depth, and may leave other
things in. What is left of settings after that is described by the choice of the fields that are gone
(`Edited`): it is read as the settings with just these fields at their standard values (`Settings.reset`).

A decoder endures such edits if it reads what is left of a value as a value that depends on the choice alone
(`Decoder.Endures`). That of a record does so if those of its fields do and every field has a standard value.
-/

namespace TierCascade

/-! ### Edits -/

/-- Which parts of a value are records with parts of their own. -/
inductive Outline where
  | value
  | record (parts : List (String × Outline))

/-- Some fields of a record and of the records in it, each by the names that lead to it. -/
abbrev Choice := List String → Bool

/-- What is chosen inside of the field with a name. -/
def Choice.inside (c : Choice) (name : String) : Choice := fun path => c (name :: path)

/-- The standard value of a field that was chosen; else what the choice leaves of it. -/
def Choice.pick {α : Type} (c : Choice) (name : String) (standard : α) (left : Choice → α) : α :=
  if c [name] then standard else left (c.inside name)

mutual

/-- Of the members of a record those that were chosen are gone. The others are in any order, among members
whose names are none of its own, and are edited in the same way. -/
inductive Edited : Choice → Outline → Json → Json → Prop
  | value {c : Choice} {j : Json} : Edited c .value j j
  | record {c : Choice} {parts : List (String × Outline)} {ms left ms' : List (String × Json)}
      (more : List (String × Json)) (members : EditedMembers c parts ms left)
      (unknown : ∀ m ∈ more, m.1 ∉ parts.map Prod.fst) (shuffled : ms'.Perm (left ++ more)) :
      Edited c (.record parts) (.object ms) (.object ms')

/-- The members that are left of a record, in the order they had. -/
inductive EditedMembers : Choice → List (String × Outline) → List (String × Json) → List (String × Json) → Prop
  | nil {c : Choice} : EditedMembers c [] [] []
  | gone {c : Choice} {name : String} {o : Outline} {j : Json} {parts : List (String × Outline)}
      {ms left : List (String × Json)} (chosen : c [name] = true) (others : EditedMembers c parts ms left) :
      EditedMembers c ((name, o) :: parts) ((name, j) :: ms) left
  | kept {c : Choice} {name : String} {o : Outline} {j j' : Json} {parts : List (String × Outline)}
      {ms left : List (String × Json)} (spared : c [name] = false) (inside : Edited (c.inside name) o j j')
      (others : EditedMembers c parts ms left) :
      EditedMembers c ((name, o) :: parts) ((name, j) :: ms) ((name, j') :: left)

end

/-! ### Members in any order -/

namespace Fields

variable {α σ β : Type} {fields : Fields σ β} {ms left more : List (String × Json)} {b : β}
  {ss : List (Scan × Scan)}

theorem readMembers_nil (tells : Scan.TellsMembers ss ms) : nil.readMembers ss () = .ok () := by
  induction ms generalizing ss with
  | nil =>
    cases tells
    rfl
  | cons m ms ih =>
    cases tells with
    | @cons ps behind s title j ss _ named first rest =>
      have read : Decoder.memberName (.string ps none behind) = .ok title :=
        Decoder.reads_string title _ (.string named behind)
      simp only [readMembers, read, bind, Except.bind, fill?, first.flaw]
      exact ih rest

/-- A member may stand anywhere: the other fields are read from what is around it. -/
theorem readMembers_amid (fields : Fields σ β) {name : String} {decode : Decoder α} (absence : Absence α) {j : Json}
    {a : α} (reads : decode.Reads j a) {before after : List (String × Json)}
    (apart : ∀ m ∈ before ++ after, name ≠ m.1) (tells : Scan.TellsMembers ss (before ++ (name, j) :: after)) :
    ∃ others, Scan.TellsMembers others (before ++ after) ∧
      ∀ slots filled, fields.readMembers others slots = .ok filled →
        (cons name decode absence fields).readMembers ss (none, slots) = .ok (some a, filled) := by
  induction before generalizing ss with
  | nil =>
    cases tells with
    | @cons ps behind s _ _ ss _ named first rest =>
      refine ⟨ss, rest, fun slots filled whole => ?_⟩
      have title : Decoder.memberName (.string ps none behind) = .ok name :=
        Decoder.reads_string name _ (.string named behind)
      simp only [readMembers, title, bind, Except.bind, fill?, if_true, reads s first, Except.map]
      rw [readMembers_cons rest apart, whole]
      rfl
  | cons m before ih =>
    cases tells with
    | @cons ps behind s title k ss _ named first rest =>
      obtain ⟨others, told, later⟩ := ih (fun m mem => apart m (List.mem_cons_of_mem _ mem)) rest
      refine ⟨(.string ps none behind, s) :: others, .cons named first told, fun slots filled whole => ?_⟩
      have read : Decoder.memberName (.string ps none behind) = .ok title :=
        Decoder.reads_string title _ (.string named behind)
      have other : name ≠ title := apart (title, k) List.mem_cons_self
      simp only [readMembers, read, bind, Except.bind] at whole
      simp only [readMembers, read, bind, Except.bind, fill?, if_neg other]
      cases slot : fields.fill? (.string ps none behind) s title slots with
      | none =>
        rw [slot] at whole
        simp only [first.flaw] at whole
        simp only [Option.map_none, first.flaw]
        exact later slots filled whole
      | some result =>
        rw [slot] at whole
        cases result with
        | error fault => cases whole
        | ok slots' => exact later slots' filled whole

/-- **The order of the members and what is among them make no difference.** -/
theorem Written.readMembers_shuffled (written : fields.Written left b) (distinct : fields.names.Nodup)
    (unknown : ∀ m ∈ more, m.1 ∉ fields.names) (shuffled : ms.Perm (left ++ more))
    (tells : Scan.TellsMembers ss ms) :
    ∃ slots, fields.readMembers ss fields.start = .ok slots ∧ fields.finish slots = .ok b := by
  induction written generalizing ms ss with
  | nil => exact ⟨(), readMembers_nil tells, rfl⟩
  | @member α σ β name decode absence rest j left a b reads others ih =>
    obtain ⟨fresh, distinct⟩ := List.nodup_cons.1 distinct
    have unknown' : ∀ m ∈ more, m.1 ∉ rest.names := fun m mem known =>
      unknown m mem (List.mem_cons_of_mem name known)
    have there : (name, j) ∈ ms := shuffled.mem_iff.2 List.mem_cons_self
    obtain ⟨before, after, rfl⟩ := List.append_of_mem there
    have shuffled' : (before ++ after).Perm (left ++ more) :=
      (List.perm_middle.symm.trans shuffled).cons_inv
    have apart : ∀ m ∈ before ++ after, name ≠ m.1 := by
      intro m mem same
      rcases List.mem_append.1 (shuffled'.mem_iff.1 mem) with known | new
      · exact fresh (same ▸ others.mem_names known)
      · exact unknown m new (same ▸ List.mem_cons_self)
    obtain ⟨ss', told, whole⟩ := readMembers_amid rest absence reads apart tells
    obtain ⟨slots, filled, finished⟩ := ih distinct unknown' shuffled' told
    refine ⟨(some a, slots), whole _ _ filled, ?_⟩
    simp only [finish, finished, bind, Except.bind]
    rfl
  | @leftOut α σ β name decode absence rest left a b stands others ih =>
    obtain ⟨fresh, distinct⟩ := List.nodup_cons.1 distinct
    have unknown' : ∀ m ∈ more, m.1 ∉ rest.names := fun m mem known =>
      unknown m mem (List.mem_cons_of_mem name known)
    have apart : ∀ m ∈ ms, name ≠ m.1 := by
      intro m mem same
      rcases List.mem_append.1 (shuffled.mem_iff.1 mem) with known | new
      · exact fresh (same ▸ others.mem_names known)
      · exact unknown m new (same ▸ List.mem_cons_self)
    obtain ⟨slots, filled, finished⟩ := ih distinct unknown' shuffled tells
    refine ⟨(none, slots), ?_, ?_⟩
    · rw [start, readMembers_cons tells apart, filled]
      rfl
    · cases absence with
      | required => cases stands
      | optional value | default value =>
        obtain rfl := Option.some.inj stands
        simp only [finish, finished, bind, Except.bind]
        rfl

end Fields

/-! ### Decoders that endure edits -/

/-- What is left of a JSON value is read as what the choice leaves of a value. -/
def Decoder.Endures {α : Type} (decode : Decoder α) (o : Outline) (j : Json) (a : Choice → α) : Prop :=
  ∀ c j', Edited c o j j' → decode.Reads j' (a c)

/-- Every field of a record endures edits and has a standard value. -/
inductive Fields.Endure : {σ β : Type} → Fields σ β → List (String × Outline) → List (String × Json) →
    (Choice → β) → Prop
  | nil : Endure .nil [] [] fun _ => ()
  | cons {α σ β : Type} {name : String} {decode : Decoder α} {absence : Absence α} {rest : Fields σ β}
      {o : Outline} {j : Json} {parts : List (String × Outline)} {ms : List (String × Json)} {standard : α}
      {a : Choice → α} {b : Choice → β} (endures : decode.Endures o j a)
      (stands : absence.value? = some standard) (others : Endure rest parts ms b) :
      Endure (.cons name decode absence rest) ((name, o) :: parts) ((name, j) :: ms)
        fun c => (c.pick name standard a, b c)

theorem Decoder.Reads.endures {α : Type} {decode : Decoder α} {j : Json} {a : α} (reads : decode.Reads j a) :
    decode.Endures .value j fun _ => a := by
  rintro c _ ⟨⟩
  exact reads

namespace Fields

variable {σ β : Type} {fields : Fields σ β} {parts : List (String × Outline)} {ms left : List (String × Json)}
  {b : Choice → β} {c : Choice}

theorem Endure.names_eq (endure : fields.Endure parts ms b) : fields.names = parts.map Prod.fst := by
  induction endure with
  | nil => rfl
  | @cons _ _ _ name _ _ _ _ _ _ _ _ _ _ _ _ _ ih => exact congrArg (name :: ·) ih

theorem Endure.written (endure : fields.Endure parts ms b) (edited : EditedMembers c parts ms left) :
    fields.Written left (b c) := by
  induction endure generalizing left with
  | nil =>
    cases edited
    exact .nil
  | @cons α σ β name decode absence fields o j parts ms standard a b endures stands others ih =>
    show (Fields.cons name decode absence fields).Written left (c.pick name standard a, b c)
    cases edited with
    | gone chosen rest =>
      rw [show c.pick name standard a = standard from if_pos chosen]
      exact .leftOut stands (ih rest)
    | kept spared inside rest =>
      rw [show c.pick name standard a = a (c.inside name) from if_neg (Bool.eq_false_iff.1 spared)]
      exact .member (endures _ _ inside) (ih rest)

end Fields

/-- **A record endures edits if its fields do.** -/
theorem Decoder.endures_record {σ β γ : Type} {fields : Fields σ β} {parts : List (String × Outline)}
    {ms : List (String × Json)} {b : Choice → β} (title : String) (build : β → γ) (distinct : fields.names.Nodup)
    (endure : fields.Endure parts ms b) :
    (record title fields build).Endures (.record parts) (.object ms) fun c => build (b c) := by
  rintro c _ (⟨⟩ | ⟨more, members, unknown, shuffled⟩) s tells
  rw [← endure.names_eq] at unknown
  cases tells with
  | object told after =>
    obtain ⟨slots, filled, finished⟩ := (endure.written members).readMembers_shuffled distinct unknown shuffled told
    simp only [record, filled, bind, Except.bind, finished]
    rfl

/-! ### What is left of settings -/

def Bands.outline : Outline := .record [("moderate", .value), ("high", .value)]

def Tuning.outline : Outline :=
  .record [("warmup_samples", .value), ("snooze_cooldown", .value), ("thresholds", Bands.outline),
    ("smoothing_alpha", .value), ("std_dev_floor", .value)]

def CallBudget.outline : Outline :=
  .record [("call_timeout_ms", .value), ("max_retries", .value), ("retry_delay_ms", .value)]

def RedeliveryBudget.outline : Outline := .record [("max_attempts", .value), ("redelivery_delay_ms", .value)]

def Settings.outline : Outline :=
  .record [("engine", Tuning.outline), ("persist_granularities", .value), ("parallelism", .value),
    ("grouping", .value), ("channel_capacity", .value), ("sink", CallBudget.outline),
    ("redelivery", RedeliveryBudget.outline)]

def Bands.reset (standard b : Bands) (c : Choice) : Bands where
  moderate := c.pick "moderate" standard.moderate fun _ => b.moderate
  high := c.pick "high" standard.high fun _ => b.high

def Tuning.reset (standard t : Tuning) (c : Choice) : Tuning where
  warmup := c.pick "warmup_samples" standard.warmup fun _ => t.warmup
  cooldown := c.pick "snooze_cooldown" standard.cooldown fun _ => t.cooldown
  bands := c.pick "thresholds" standard.bands (Bands.reset standard.bands t.bands)
  smoothing := c.pick "smoothing_alpha" standard.smoothing fun _ => t.smoothing
  floor := c.pick "std_dev_floor" standard.floor fun _ => t.floor

def CallBudget.reset (standard b : CallBudget) (c : Choice) : CallBudget where
  timeout := c.pick "call_timeout_ms" standard.timeout fun _ => b.timeout
  retries := c.pick "max_retries" standard.retries fun _ => b.retries
  delay := c.pick "retry_delay_ms" standard.delay fun _ => b.delay

def RedeliveryBudget.reset (standard b : RedeliveryBudget) (c : Choice) : RedeliveryBudget where
  attempts := c.pick "max_attempts" standard.attempts fun _ => b.attempts
  delay := c.pick "redelivery_delay_ms" standard.delay fun _ => b.delay

/-- Settings with the fields that were chosen, at any depth, at their values in other settings. -/
def Settings.reset (standard s : Settings) (c : Choice) : Settings where
  tuning := c.pick "engine" standard.tuning (Tuning.reset standard.tuning s.tuning)
  stored := c.pick "persist_granularities" standard.stored fun _ => s.stored
  workers := c.pick "parallelism" standard.workers fun _ => s.workers
  grouping := c.pick "grouping" standard.grouping fun _ => s.grouping
  capacity := c.pick "channel_capacity" standard.capacity fun _ => s.capacity
  calls := c.pick "sink" standard.calls (CallBudget.reset standard.calls s.calls)
  redelivery := c.pick "redelivery" standard.redelivery (RedeliveryBudget.reset standard.redelivery s.redelivery)

/-! The standard values that the fields of a part have on their own are those it has in the whole. -/

theorem Bands.endures {b : Bands} (moderate : ReadsBack b.moderate) (high : ReadsBack b.high) :
    Bands.decoder.Endures Bands.outline b.json (Bands.reset Settings.standard.tuning.bands b) :=
  Decoder.endures_record _ _ (by decide)
    (.cons (Decoder.reads_float moderate).endures rfl <| .cons (Decoder.reads_float high).endures rfl .nil)

theorem Tuning.endures {t : Tuning} (fits : t.Fits) (back : ∀ y ∈ t.reals, ReadsBack y) :
    Tuning.decoder.Endures Tuning.outline t.json (Tuning.reset Settings.standard.tuning t) := by
  simp only [Tuning.reals, List.forall_mem_cons, Option.mem_toList] at back
  obtain ⟨moderate, high, floor, smoothing⟩ := back
  exact Decoder.endures_record _ _ (by decide)
    (.cons (Decoder.reads_natural le_rfl fits.warmup).endures rfl <|
      .cons (Decoder.reads_natural (by decide) fits.cooldown).endures rfl <|
      .cons (Bands.endures moderate high) rfl <| .cons (reads_optionalFloat smoothing).endures rfl <|
      .cons (Decoder.reads_float floor).endures rfl .nil)

theorem CallBudget.endures {b : CallBudget} (fits : b.Fits) :
    CallBudget.decoder.Endures CallBudget.outline b.json (CallBudget.reset Settings.standard.calls b) :=
  Decoder.endures_record _ _ (by decide)
    (.cons (Decoder.reads_natural le_rfl fits.timeout).endures rfl <|
      .cons (Decoder.reads_natural (by decide) fits.retries).endures rfl <|
      .cons (Decoder.reads_natural le_rfl fits.delay).endures rfl .nil)

theorem RedeliveryBudget.endures {b : RedeliveryBudget} (fits : b.Fits) :
    RedeliveryBudget.decoder.Endures RedeliveryBudget.outline b.json
      (RedeliveryBudget.reset Settings.standard.redelivery b) :=
  Decoder.endures_record _ _ (by decide)
    (.cons (Decoder.reads_natural (by decide) fits.attempts).endures rfl <|
      .cons (Decoder.reads_natural le_rfl fits.delay).endures rfl .nil)

theorem Settings.endures {s : Settings} (fits : s.Fits) (back : ∀ y ∈ s.tuning.reals, ReadsBack y) :
    Settings.decoder.Endures Settings.outline s.json (Settings.reset Settings.standard s) := by
  have workers := fun t n mem => Decoder.reads_natural le_rfl (fits.workers t n mem)
  exact Decoder.endures_record _ _ (by decide)
    (.cons (Tuning.endures fits.tuning back) rfl <| .cons (reads_tierSet _).endures rfl <|
      .cons (reads_tierMap workers).endures rfl <| .cons (reads_tierMap fun _ g _ => g.reads).endures rfl <|
      .cons (Decoder.reads_natural le_rfl fits.capacity).endures rfl <|
      .cons (CallBudget.endures fits.calls) rfl <| .cons (RedeliveryBudget.endures fits.redelivery) rfl .nil)

/-- **What is left out of settings is standard, and nothing else changes.** Of the object that settings are
written as, take away the members for any choice of fields, at the top and in the records within; put the
others into any order and any members with other names among them. The text of what comes of it is read as
the settings with just the chosen fields at their standard values. -/
theorem partial_settings {s : Settings} (fits : s.Fits) (finite : ∀ y ∈ s.tuning.reals, y.isFinite = true)
    (printed : ∀ y ∈ s.tuning.reals, y.isFinite = true → ReadsBack y) {c : Choice} {j : Json}
    (edited : Edited c Settings.outline s.json j) :
    decodeText Settings.decoder j.compact.toList = .ok (Settings.reset .standard s c) := by
  have back : ∀ y ∈ s.tuning.reals, ReadsBack y := fun y mem => printed y mem (finite y mem)
  have reads : Settings.decoder.Reads j (Settings.reset .standard s c) := Settings.endures fits back c j edited
  rw [Json.compact, String.toList_ofList]
  exact reads.decodeText

namespace Trial

def custom : Settings where
  tuning := ⟨30, 5, ⟨1.5, 2.5⟩, some 0.25, 0.5⟩
  stored := .all true
  workers := (PerTier.all none).set .hour (some 3)
  grouping := (PerTier.all none).set .raw (some .metric)
  capacity := 16
  calls := ⟨1, 2, 3⟩
  redelivery := ⟨7, 8⟩

def chosen : Choice := fun path => path ∈
  [["engine", "snooze_cooldown"], ["engine", "thresholds", "high"], ["grouping"], ["sink"],
    ["redelivery", "max_attempts"]]

def brief : Json :=
  .object [("comment", .object [("engine", .null), ("engine", .bool true)]),
    ("redelivery", .object [("capacity", .null), ("redelivery_delay_ms", .nat 8)]), ("channel_capacity", .nat 16),
    ("parallelism", tierMapJson .nat custom.workers), ("persist_granularities", tierSetJson custom.stored),
    ("engine", .object [("thresholds", .object [("moderate", .float 1.5)]), ("warmup_samples", .nat 30),
      ("smoothing_alpha", .option .float (some 0.25)), ("std_dev_floor", .float 0.5)])]

theorem edited_brief : Edited chosen Settings.outline custom.json brief := by
  have bands : Edited ((chosen.inside "engine").inside "thresholds") Bands.outline custom.tuning.bands.json
      (.object [("moderate", .float 1.5)]) :=
    .record [] (.kept rfl .value <| .gone rfl .nil) (by decide) (.refl _)
  have tuning : Edited (chosen.inside "engine") Tuning.outline custom.tuning.json (.object
      [("thresholds", .object [("moderate", .float 1.5)]), ("warmup_samples", .nat 30),
        ("smoothing_alpha", .option .float (some 0.25)), ("std_dev_floor", .float 0.5)]) :=
    .record [] (.kept rfl .value <| .gone rfl <| .kept rfl bands <| .kept rfl .value <| .kept rfl .value .nil)
      (by decide) (.swap ..)
  have redelivery : Edited (chosen.inside "redelivery") RedeliveryBudget.outline custom.redelivery.json
      (.object [("capacity", .null), ("redelivery_delay_ms", .nat 8)]) :=
    .record [("capacity", .null)] (.gone rfl <| .kept rfl .value .nil) (by decide) (.swap ..)
  -- All members stand the other way round.
  exact .record [("comment", .object [("engine", .null), ("engine", .bool true)])]
    (.kept rfl tuning <| .kept rfl .value <| .kept rfl .value <| .gone rfl <| .kept rfl .value <|
      .gone rfl <| .kept rfl redelivery .nil) (by decide) (List.reverse_perm'.1 (.refl _))

end Trial

/-- Fields at three depths are missing, and there are members that mean nothing. -/
theorem partial_settings_trial :
    decodeText Settings.decoder Trial.brief.compact.toList = .ok
      { Trial.custom with
        tuning := ⟨30, Tuning.standard.cooldown, ⟨1.5, Bands.standard.high⟩, some 0.25, 0.5⟩
        grouping := .all none
        calls := .standard
        redelivery := ⟨RedeliveryBudget.standard.attempts, 8⟩ } := by
  have workers : ∀ t, ∀ n ∈ Trial.custom.workers.get t, n < 2 ^ 64 := by
    intro t
    cases t <;> decide
  have fits : Trial.custom.Fits :=
    ⟨⟨by decide, by decide⟩, workers, by decide, ⟨by decide, by decide, by decide⟩, ⟨by decide, by decide⟩⟩
  exact partial_settings fits (by decide +kernel) (by decide +kernel) Trial.edited_brief

end TierCascade
