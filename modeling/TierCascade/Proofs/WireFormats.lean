import TierCascade.Proofs.Decoding
import TierCascade.Wire.Report
import TierCascade.Wire.Settings
/-!
# Wire formats

Each type that goes over the wire has a writer and a decoder, described apart from each other. Here they
are put together, with the words that the integers of a value have to fit into and the doubles in it
(`WireFormat`), and the text of every such value is read back as that value.

Of the text of doubles nothing is used but that the one of a finite double is read as that double.
-/

namespace TierCascade

/-! ### Values for each tier -/

/-- Going through all tiers and putting right the value of each, one gets the values as they are. -/
theorem PerTier.foldl_all {α : Type} {p : PerTier α} {blank : α} {put : PerTier α → Tier → PerTier α}
    (own : ∀ q t, q.get t = blank ∨ q.get t = p.get t → (put q t).get t = p.get t)
    (others : ∀ q {t r}, r ≠ t → (put q t).get r = q.get r) : Tier.all.foldl put (.all blank) = p := by
  -- A tier that occurs once more is right already and stays so.
  have through : ∀ (ts : List Tier) (q : PerTier α), (∀ r, q.get r = blank ∨ q.get r = p.get r) →
      ∀ r, (ts.foldl put q).get r = if r ∈ ts then p.get r else q.get r := by
    intro ts
    induction ts with
    | nil => exact fun q _ r => rfl
    | cons t ts ih =>
      intro q either r
      have still : ∀ r, (put q t).get r = blank ∨ (put q t).get r = p.get r := fun r => by
        by_cases same : r = t
        · exact .inr (same ▸ own q t (either t))
        · exact others q same ▸ either r
      rw [List.foldl_cons, ih (put q t) still r]
      by_cases later : r ∈ ts
      · rw [if_pos later, if_pos (List.mem_cons_of_mem t later)]
      · by_cases same : r = t
        · rw [if_neg later, if_pos (same ▸ List.mem_cons_self), same, own q t (either t)]
        · rw [if_neg later, if_neg (List.not_mem_cons_of_ne_of_not_mem same later), others q same]
  refine PerTier.ext fun r => ?_
  have start : ∀ r, (PerTier.all blank).get r = blank := fun r => PerTier.get_of _ r
  rw [through _ _ (fun r => .inl (start r)) r, if_pos r.mem_all]

theorem Tier.named_name (t : Tier) : Tier.named? t.name = some t := by
  cases t <;> decide

theorem Tier.reads (t : Tier) : Tier.decoder.Reads t.json t := Decoder.reads_variant t.named_name

theorem reads_tierSet (p : PerTier Bool) : tierSetDecoder.Reads (tierSetJson p) p := by
  have written : tierSetJson p = .array ((Tier.all.filter p.get).map Tier.json) := by
    simp [tierSetJson, PerTier.entries, List.filter_map, Function.comp_def]
  intro s tells
  rw [written] at tells
  rw [tierSetDecoder, Decoder.reads_list (fun t _ => t.reads) s tells, Except.map, List.foldl_filter]
  refine congrArg Except.ok (PerTier.foldl_all (fun q t either => ?_) fun q {t r} apart => ?_)
  · cases here : p.get t with
    | true => rw [if_pos rfl, PerTier.get_set_self]
    | false => simpa [here] using either
  · cases p.get t with
    | true => rw [if_pos rfl, PerTier.get_set_of_ne q true apart]
    | false => rfl

theorem reads_tierMap {α : Type} {decode : Decoder α} {write : α → Json} {p : PerTier (Option α)}
    (reads : ∀ t, ∀ a ∈ p.get t, decode.Reads (write a) a) :
    (tierMapDecoder decode).Reads (tierMapJson write p) p := by
  have written : tierMapJson write p
      = .object ((Tier.all.filterMap fun t => (p.get t).map fun a => (t, a)).map
          fun e => (e.1.name, write e.2)) := by
    simp [tierMapJson, PerTier.entries, List.filterMap_map, List.map_filterMap, Function.comp_def]
  have keys : ∀ (node : Scan) (t : Tier), tierKey node t.name = .ok t := fun node t => by
    rw [tierKey, t.named_name]
  intro s tells
  rw [written] at tells
  rw [tierMapDecoder, Decoder.reads_members keys ?_ s tells, Except.map, List.foldl_filterMap]
  · refine congrArg Except.ok (PerTier.foldl_all (fun q t either => ?_) fun q {t r} apart => ?_)
    · cases here : p.get t with
      | some a => exact PerTier.get_set_self q t (some a)
      | none => simpa [here] using either
    · cases p.get t with
      | some a => exact PerTier.get_set_of_ne q (some a) apart
      | none => rfl
  · intro e mem
    obtain ⟨t, -, there⟩ := List.mem_filterMap.1 mem
    obtain ⟨a, found, rfl⟩ := Option.map_eq_some_iff.1 there
    exact reads t a found

/-! ### Formats -/

/-- How the values of a type go over the wire: their writer and decoder, whether their integers fit into the
words they have there, and the doubles in them. -/
structure WireFormat (α : Type) where
  json : α → Json
  decoder : Decoder α
  Fits : α → Prop
  reals : α → List Float

namespace WireFormat

variable {α : Type} {f : WireFormat α}

/-- The text of a value whose integers fit and whose doubles are finite is read back as that value, provided
that the text of each of these doubles is. -/
def RoundTrips (f : WireFormat α) : Prop :=
  ∀ x, f.Fits x → (∀ y ∈ f.reals x, y.isFinite = true) →
    (∀ y ∈ f.reals x, y.isFinite = true → ReadsBack y) →
    decodeText f.decoder (f.json x).compact.toList = .ok x

theorem roundTrips_of_reads
    (reads : ∀ x, f.Fits x → (∀ y ∈ f.reals x, ReadsBack y) → f.decoder.Reads (f.json x) x) : f.RoundTrips := by
  intro x fits finite printed
  rw [Json.compact, String.toList_ofList]
  exact (reads x fits fun y mem => printed y mem (finite y mem)).decodeText

end WireFormat

theorem IsWord.reads {i : Int} (word : IsWord i) : Decoder.timestamp.Reads (.int i) i :=
  Decoder.reads_timestamp word.1 word.2

/-! ### Series, samples and aggregates -/

theorem SampleKind.reads (k : SampleKind) : SampleKind.decoder.Reads k.json k :=
  Decoder.reads_variant (by cases k <;> decide)

theorem Severity.reads (v : Severity) : Severity.decoder.Reads v.json v :=
  Decoder.reads_variant (by cases v <;> decide)

theorem reads_textMap (m : OrderedMap String String) : textMapDecoder.Reads (textMapJson m) m :=
  Decoder.reads_map m fun e _ => Decoder.reads_string e.2

theorem written_optionalText {σ β : Type} {rest : Fields σ β} {ms : List (String × Json)} {b : β}
    {name : String} {absence : Absence (Option String)} (stands : absence.value? = some none) (text : Option String)
    (others : rest.Written ms b) :
    (Fields.cons name (.option .string) absence rest).Written (Json.optionalMember name .string text ++ ms)
      (text, b) :=
  .optionalMember stands text (fun a _ => ⟨Decoder.reads_string a, nofun⟩) others

theorem written_lastText {name : String} {absence : Absence (Option String)}
    (stands : absence.value? = some none) (text : Option String) :
    (Fields.cons name (.option .string) absence .nil).Written (Json.optionalMember name .string text)
      (text, ()) := by
  have written := @written_optionalText _ _ _ _ _ name absence stands text .nil
  rwa [List.append_nil] at written

theorem Series.reads (x : Series) : Series.decoder.Reads x.json x :=
  Decoder.reads_record _ _ (by decide)
    (.member (Decoder.reads_string _) <| .member (Decoder.reads_string _) <|
      .member (reads_textMap _) .nil)

theorem Sample.reads {x : Sample} (timestamp : IsWord x.timestamp) (value : ReadsBack x.value) :
    Sample.decoder.Reads x.json x :=
  Decoder.reads_record _ _ (by decide)
    (.member x.series.reads <| .member x.kind.reads <| .member timestamp.reads <|
      .member (Decoder.reads_float value) <| written_lastText rfl x.label)

theorem FlatSample.reads {x : FlatSample} (timestamp : IsWord x.timestamp) (value : ReadsBack x.value) :
    FlatSample.decoder.Reads x.json x :=
  Decoder.reads_record _ _ (by decide)
    (.member (Decoder.reads_string _) <| .member (Decoder.reads_string _) <| .member x.kind.reads <|
      .member timestamp.reads <| .member (Decoder.reads_float value) <| .member (reads_textMap _) <|
      written_lastText rfl x.label)

def Aggregate.reals (a : Aggregate) : List Float :=
  [a.value, a.mean, a.deviation, a.difference, a.min, a.max, a.score]

theorem Aggregate.reads {a : Aggregate} (count : a.count < 2 ^ 64) (timestamp : IsWord a.timestamp)
    (back : ∀ y ∈ a.reals, ReadsBack y) : Aggregate.decoder.Reads a.json a := by
  have floats : ∀ y ∈ a.reals, Decoder.float.Reads (.float y) y := fun y mem => Decoder.reads_float (back y mem)
  simp only [Aggregate.reals, List.forall_mem_cons] at floats
  obtain ⟨value, mean, deviation, difference, min, max, score, -⟩ := floats
  exact Decoder.reads_record _ _ (by decide)
    (.member a.series.reads <| .member a.tier.reads <| .member a.kind.reads <| .member value <|
      .member mean <| .member deviation <| .member difference <| .member min <| .member max <|
      .member (Decoder.reads_bool _) <| .member a.severity.reads <| .member score <|
      .member (Decoder.reads_natural le_rfl count) <| .member timestamp.reads .nil)

def Series.format : WireFormat Series := ⟨Series.json, Series.decoder, fun _ => True, fun _ => []⟩

def Sample.format : WireFormat Sample :=
  ⟨Sample.json, Sample.decoder, fun x => IsWord x.timestamp, fun x => [x.value]⟩

def FlatSample.format : WireFormat FlatSample :=
  ⟨FlatSample.json, FlatSample.decoder, fun x => IsWord x.timestamp, fun x => [x.value]⟩

def Aggregate.format : WireFormat Aggregate :=
  ⟨Aggregate.json, Aggregate.decoder, fun a => a.count < 2 ^ 64 ∧ IsWord a.timestamp, Aggregate.reals⟩

theorem Series.roundTrips : Series.format.RoundTrips :=
  WireFormat.roundTrips_of_reads fun x _ _ => x.reads

theorem Sample.roundTrips : Sample.format.RoundTrips :=
  WireFormat.roundTrips_of_reads fun _ fits back => Sample.reads fits (back _ List.mem_cons_self)

theorem FlatSample.roundTrips : FlatSample.format.RoundTrips :=
  WireFormat.roundTrips_of_reads fun _ fits back => FlatSample.reads fits (back _ List.mem_cons_self)

theorem Aggregate.roundTrips : Aggregate.format.RoundTrips :=
  WireFormat.roundTrips_of_reads fun _ fits back => Aggregate.reads fits.1 fits.2 back

/-! ### Settings -/

theorem Grouping.reads (g : Grouping) : Grouping.decoder.Reads g.json g :=
  Decoder.reads_variant (by cases g <;> decide)

/-- A double that may be missing is written as null then. -/
theorem reads_optionalFloat {o : Option Float} (back : ∀ y ∈ o, ReadsBack y) :
    (Decoder.option .float).Reads (Json.option .float o) o := by
  cases o with
  | none => exact Decoder.reads_option_none _
  | some y =>
    have printed := back y rfl
    refine Decoder.reads_option_some (Decoder.reads_float printed) fun null => ?_
    obtain ⟨n, spelled, -⟩ := Option.bind_eq_some_iff.1 printed
    rw [Json.option, Json.float, spelled] at null
    cases null

theorem Bands.reads {b : Bands} (moderate : ReadsBack b.moderate) (high : ReadsBack b.high) :
    Bands.decoder.Reads b.json b :=
  Decoder.reads_record _ _ (by decide)
    (.member (Decoder.reads_float moderate) <| .member (Decoder.reads_float high) .nil)

structure Tuning.Fits (t : Tuning) : Prop where
  warmup : t.warmup < 2 ^ 64
  cooldown : t.cooldown < 2 ^ 32

def Tuning.reals (t : Tuning) : List Float := t.bands.moderate :: t.bands.high :: t.floor :: t.smoothing.toList

theorem Tuning.reads {t : Tuning} (fits : t.Fits) (back : ∀ y ∈ t.reals, ReadsBack y) :
    Tuning.decoder.Reads t.json t := by
  simp only [Tuning.reals, List.forall_mem_cons, Option.mem_toList] at back
  obtain ⟨moderate, high, floor, smoothing⟩ := back
  exact Decoder.reads_record _ _ (by decide)
    (.member (Decoder.reads_natural le_rfl fits.warmup) <|
      .member (Decoder.reads_natural (by decide) fits.cooldown) <| .member (Bands.reads moderate high) <|
      .member (reads_optionalFloat smoothing) <| .member (Decoder.reads_float floor) .nil)

structure CallBudget.Fits (b : CallBudget) : Prop where
  timeout : b.timeout < 2 ^ 64
  retries : b.retries < 2 ^ 32
  delay : b.delay < 2 ^ 64

theorem CallBudget.reads {b : CallBudget} (fits : b.Fits) : CallBudget.decoder.Reads b.json b :=
  Decoder.reads_record _ _ (by decide)
    (.member (Decoder.reads_natural le_rfl fits.timeout) <|
      .member (Decoder.reads_natural (by decide) fits.retries) <|
      .member (Decoder.reads_natural le_rfl fits.delay) .nil)

structure RedeliveryBudget.Fits (b : RedeliveryBudget) : Prop where
  attempts : b.attempts < 2 ^ 32
  delay : b.delay < 2 ^ 64

theorem RedeliveryBudget.reads {b : RedeliveryBudget} (fits : b.Fits) :
    RedeliveryBudget.decoder.Reads b.json b :=
  Decoder.reads_record _ _ (by decide)
    (.member (Decoder.reads_natural (by decide) fits.attempts) <|
      .member (Decoder.reads_natural le_rfl fits.delay) .nil)

def Bands.format : WireFormat Bands :=
  ⟨Bands.json, Bands.decoder, fun _ => True, fun b => [b.moderate, b.high]⟩

def Tuning.format : WireFormat Tuning := ⟨Tuning.json, Tuning.decoder, Tuning.Fits, Tuning.reals⟩

def CallBudget.format : WireFormat CallBudget :=
  ⟨CallBudget.json, CallBudget.decoder, CallBudget.Fits, fun _ => []⟩

def RedeliveryBudget.format : WireFormat RedeliveryBudget :=
  ⟨RedeliveryBudget.json, RedeliveryBudget.decoder, RedeliveryBudget.Fits, fun _ => []⟩

theorem Bands.roundTrips : Bands.format.RoundTrips :=
  WireFormat.roundTrips_of_reads fun _ _ back =>
    Bands.reads (back _ List.mem_cons_self) (back _ (List.mem_cons_of_mem _ List.mem_cons_self))

theorem Tuning.roundTrips : Tuning.format.RoundTrips :=
  WireFormat.roundTrips_of_reads fun _ => Tuning.reads

theorem CallBudget.roundTrips : CallBudget.format.RoundTrips :=
  WireFormat.roundTrips_of_reads fun _ fits _ => CallBudget.reads fits

theorem RedeliveryBudget.roundTrips : RedeliveryBudget.format.RoundTrips :=
  WireFormat.roundTrips_of_reads fun _ fits _ => RedeliveryBudget.reads fits

structure Settings.Fits (s : Settings) : Prop where
  tuning : s.tuning.Fits
  workers : ∀ t, ∀ n ∈ s.workers.get t, n < 2 ^ 64
  capacity : s.capacity < 2 ^ 64
  calls : s.calls.Fits
  redelivery : s.redelivery.Fits

theorem Settings.reads {s : Settings} (fits : s.Fits) (back : ∀ y ∈ s.tuning.reals, ReadsBack y) :
    Settings.decoder.Reads s.json s := by
  have workers := fun t n mem => Decoder.reads_natural le_rfl (fits.workers t n mem)
  exact Decoder.reads_record _ _ (by decide)
    (.member (Tuning.reads fits.tuning back) <| .member (reads_tierSet _) <| .member (reads_tierMap workers) <|
      .member (reads_tierMap fun _ g _ => g.reads) <| .member (Decoder.reads_natural le_rfl fits.capacity) <|
      .member (CallBudget.reads fits.calls) <| .member (RedeliveryBudget.reads fits.redelivery) .nil)

def Settings.format : WireFormat Settings :=
  ⟨Settings.json, Settings.decoder, Settings.Fits, fun s => s.tuning.reals⟩

theorem Settings.roundTrips : Settings.format.RoundTrips :=
  WireFormat.roundTrips_of_reads fun _ => Settings.reads

/-! ### Reports -/

structure Tally.Fits (t : Tally) : Prop where
  emitted : t.emitted < 2 ^ 64
  acked : t.acked < 2 ^ 64
  failed : t.failed < 2 ^ 64
  redelivered : t.redelivered < 2 ^ 64
  deadLettered : t.deadLettered < 2 ^ 64
  inFlight : t.inFlight < 2 ^ 64

theorem Tally.reads {t : Tally} (fits : t.Fits) : Tally.decoder.Reads t.json t :=
  Decoder.reads_record _ _ (by decide)
    (.member (Decoder.reads_natural le_rfl fits.emitted) <|
      .member (Decoder.reads_natural le_rfl fits.acked) <|
      .member (Decoder.reads_natural le_rfl fits.failed) <|
      .member (Decoder.reads_natural le_rfl fits.redelivered) <|
      .member (Decoder.reads_natural le_rfl fits.deadLettered) <|
      .member (Decoder.reads_natural le_rfl fits.inFlight) .nil)

def Tally.format : WireFormat Tally := ⟨Tally.json, Tally.decoder, Tally.Fits, fun _ => []⟩

theorem Tally.roundTrips : Tally.format.RoundTrips :=
  WireFormat.roundTrips_of_reads fun _ fits _ => Tally.reads fits

theorem TierCensus.reads {c : TierCensus} (workers : c.workers < 2 ^ 64) (states : c.states < 2 ^ 64) :
    TierCensus.decoder.Reads c.json c :=
  Decoder.reads_record _ _ (by decide)
    (.member c.tier.reads <| .member (Decoder.reads_natural le_rfl workers) <|
      .member (Decoder.reads_natural le_rfl states) .nil)

def TierCensus.format : WireFormat TierCensus :=
  ⟨TierCensus.json, TierCensus.decoder, fun c => c.workers < 2 ^ 64 ∧ c.states < 2 ^ 64, fun _ => []⟩

theorem TierCensus.roundTrips : TierCensus.format.RoundTrips :=
  WireFormat.roundTrips_of_reads fun _ fits _ => TierCensus.reads fits.1 fits.2

def StatsReport.format : WireFormat StatsReport :=
  ⟨StatsReport.json, StatsReport.decoder, fun r => r.tally.Fits ∧ ∀ c ∈ r.census, TierCensus.format.Fits c,
    fun _ => []⟩

theorem StatsReport.roundTrips : StatsReport.format.RoundTrips :=
  WireFormat.roundTrips_of_reads fun r fits _ => Decoder.reads_record _ _ (by decide)
    (.member (Decoder.reads_string r.name) <| .member (Tally.reads fits.1) <|
      .member (Decoder.reads_list fun c mem => TierCensus.reads (fits.2 c mem).1 (fits.2 c mem).2) .nil)

theorem Status.reads (v : Status) : Status.decoder.Reads v.json v :=
  Decoder.reads_variant (by cases v <;> decide)

theorem Condition.reads {c : Condition} (fits : IsWord c.checkedAt) : Condition.decoder.Reads c.json c :=
  Decoder.reads_record _ _ (by decide)
    (.member c.status.reads <| written_optionalText rfl c.message <| .member fits.reads .nil)

def Condition.format : WireFormat Condition :=
  ⟨Condition.json, Condition.decoder, fun c => IsWord c.checkedAt, fun _ => []⟩

def HealthReport.format : WireFormat HealthReport :=
  ⟨HealthReport.json, HealthReport.decoder, fun r => ∀ e ∈ r.parts.entries, IsWord e.2.checkedAt, fun _ => []⟩

def Readiness.format : WireFormat Readiness := ⟨Readiness.json, Readiness.decoder, fun _ => True, fun _ => []⟩

theorem Condition.roundTrips : Condition.format.RoundTrips :=
  WireFormat.roundTrips_of_reads fun _ fits _ => Condition.reads fits

theorem HealthReport.roundTrips : HealthReport.format.RoundTrips :=
  WireFormat.roundTrips_of_reads fun r fits _ => Decoder.reads_record _ _ (by decide)
    (.member r.status.reads <|
      .member (Decoder.reads_map r.parts fun e mem => Condition.reads (fits e mem)) .nil)

theorem Readiness.roundTrips : Readiness.format.RoundTrips :=
  WireFormat.roundTrips_of_reads fun r _ _ => Decoder.reads_record _ _ (by decide)
    (.member (Decoder.reads_bool _) <| written_lastText rfl r.reason)

/-! ### All of them -/

/-- **What goes over the wire comes back.** The text of every value of these types whose integers fit into
their words and whose doubles are finite is read back as that value, whatever texts and maps there are in
it; of the text of doubles it is assumed only that that of a finite double is read as that double. And a flat
sample that is taken apart keeps every field. -/
theorem wire_round_trips :
    (Series.format.RoundTrips ∧ Sample.format.RoundTrips ∧ FlatSample.format.RoundTrips ∧
      Aggregate.format.RoundTrips) ∧
    (Settings.format.RoundTrips ∧ Tuning.format.RoundTrips ∧ Bands.format.RoundTrips ∧
      CallBudget.format.RoundTrips ∧ RedeliveryBudget.format.RoundTrips) ∧
    (Tally.format.RoundTrips ∧ TierCensus.format.RoundTrips ∧ Condition.format.RoundTrips ∧
      HealthReport.format.RoundTrips ∧ Readiness.format.RoundTrips) ∧
    ∀ x : FlatSample, x.toSample.series.account = x.account ∧ x.toSample.series.metric = x.metric ∧
      x.toSample.series.criteria = x.criteria ∧ x.toSample.kind = x.kind ∧
      x.toSample.timestamp = x.timestamp ∧ x.toSample.value = x.value ∧ x.toSample.label = x.label :=
  ⟨⟨Series.roundTrips, Sample.roundTrips, FlatSample.roundTrips, Aggregate.roundTrips⟩,
    ⟨Settings.roundTrips, Tuning.roundTrips, Bands.roundTrips, CallBudget.roundTrips,
      RedeliveryBudget.roundTrips⟩,
    ⟨Tally.roundTrips, TierCensus.roundTrips, Condition.roundTrips, HealthReport.roundTrips,
      Readiness.roundTrips⟩,
    fun _ => ⟨rfl, rfl, rfl, rfl, rfl, rfl, rfl⟩⟩

namespace Trial

def escaped : FlatSample :=
  ⟨"shop \"1\"", "visits\\day\n", .delta, lowestInt, 0.1, OrderedMap.empty.insert "clef \x01" "𝄞", some "\x7f"⟩

def mixed : Settings :=
  { Settings.standard with
    tuning := { Tuning.standard with smoothing := some 0.25 }
    workers := (PerTier.all none).set .hour (some 3)
    grouping := (PerTier.all none).set .raw (some .metric) }

end Trial

/-- The text of a flat sample with escapes, and that of settings with doubles, are read back. -/
theorem wire_round_trips_trial :
    decodeText FlatSample.decoder Trial.escaped.json.compact.toList = .ok Trial.escaped ∧
      decodeText Settings.decoder Trial.mixed.json.compact.toList = .ok Trial.mixed := by
  obtain ⟨⟨-, -, flat, -⟩, ⟨settings, -⟩, -⟩ := wire_round_trips
  have workers : ∀ t, ∀ n ∈ Trial.mixed.workers.get t, n < 2 ^ 64 := by
    intro t
    cases t <;> decide
  have fits : Trial.mixed.Fits :=
    ⟨⟨by decide, by decide⟩, workers, by decide, ⟨by decide, by decide, by decide⟩, ⟨by decide, by decide⟩⟩
  exact ⟨flat Trial.escaped ⟨by decide, by decide⟩ (by decide +kernel) (by decide +kernel),
    settings Trial.mixed fits (by decide +kernel) (by decide +kernel)⟩

end TierCascade
