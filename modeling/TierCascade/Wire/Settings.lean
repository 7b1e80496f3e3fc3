import TierCascade.Settings
import TierCascade.Wire.Sample
/-!
# Settings on the wire

The wire form of settings. What is missing keeps its standard value, at every level on its own.
-/

namespace TierCascade

def tierSetJson (p : PerTier Bool) : Json :=
  .array ((p.entries.filter (·.2)).map fun e => e.1.json)

def tierSetDecoder : Decoder (PerTier Bool) := fun s =>
  (Decoder.list Tier.decoder s).map fun ts => ts.foldl (fun p t => p.set t true) (.all false)

def tierMapJson {α : Type} (write : α → Json) (p : PerTier (Option α)) : Json :=
  .object (p.entries.filterMap fun e => e.2.map fun a => (e.1.name, write a))

def tierKey (name : Scan) (text : String) : Except Fault Tier :=
  match Tier.named? text with
  | some t => .ok t
  | none => .error ⟨.unknownVariant text, name.after⟩

/-- What is set for some tiers. Of members for one tier the last counts. -/
def tierMapDecoder {α : Type} (decode : Decoder α) : Decoder (PerTier (Option α)) := fun s =>
  (Decoder.members tierKey decode s).map fun es =>
    es.foldl (fun p e => p.set e.1 (some e.2)) (.all none)

def Grouping.json (g : Grouping) : Json := .string g.name

def Grouping.decoder : Decoder Grouping := .variant Grouping.named?

def Bands.json (b : Bands) : Json :=
  .object [("moderate", .float b.moderate), ("high", .float b.high)]

def Bands.decoder : Decoder Bands :=
  .record "Bands"
    (.cons "moderate" .float (.default Bands.standard.moderate) <|
      .cons "high" .float (.default Bands.standard.high) .nil)
    fun (moderate, high, ()) => ⟨moderate, high⟩

def Tuning.json (t : Tuning) : Json :=
  .object [("warmup_samples", .nat t.warmup), ("snooze_cooldown", .nat t.cooldown),
    ("thresholds", t.bands.json), ("smoothing_alpha", .option .float t.smoothing),
    ("std_dev_floor", .float t.floor)]

def Tuning.decoder : Decoder Tuning :=
  let standard := Tuning.standard
  .record "Tuning"
    (.cons "warmup_samples" (.natural 64) (.default standard.warmup) <|
      .cons "snooze_cooldown" (.natural 32) (.default standard.cooldown) <|
      .cons "thresholds" Bands.decoder (.default standard.bands) <|
      .cons "smoothing_alpha" (.option .float) (.default standard.smoothing) <|
      .cons "std_dev_floor" .float (.default standard.floor) .nil)
    fun (warmup, cooldown, bands, smoothing, floor, ()) => ⟨warmup, cooldown, bands, smoothing, floor⟩

def CallBudget.json (b : CallBudget) : Json :=
  .object [("call_timeout_ms", .nat b.timeout), ("max_retries", .nat b.retries),
    ("retry_delay_ms", .nat b.delay)]

def CallBudget.decoder : Decoder CallBudget :=
  let standard := CallBudget.standard
  .record "CallBudget"
    (.cons "call_timeout_ms" (.natural 64) (.default standard.timeout) <|
      .cons "max_retries" (.natural 32) (.default standard.retries) <|
      .cons "retry_delay_ms" (.natural 64) (.default standard.delay) .nil)
    fun (timeout, retries, delay, ()) => ⟨timeout, retries, delay⟩

def RedeliveryBudget.json (b : RedeliveryBudget) : Json :=
  .object [("max_attempts", .nat b.attempts), ("redelivery_delay_ms", .nat b.delay)]

def RedeliveryBudget.decoder : Decoder RedeliveryBudget :=
  let standard := RedeliveryBudget.standard
  .record "RedeliveryBudget"
    (.cons "max_attempts" (.natural 32) (.default standard.attempts) <|
      .cons "redelivery_delay_ms" (.natural 64) (.default standard.delay) .nil)
    fun (attempts, delay, ()) => ⟨attempts, delay⟩

def Settings.json (s : Settings) : Json :=
  .object [("engine", s.tuning.json), ("persist_granularities", tierSetJson s.stored),
    ("parallelism", tierMapJson .nat s.workers), ("grouping", tierMapJson Grouping.json s.grouping),
    ("channel_capacity", .nat s.capacity), ("sink", s.calls.json), ("redelivery", s.redelivery.json)]

def Settings.decoder : Decoder Settings :=
  let standard := Settings.standard
  .record "Settings"
    (.cons "engine" Tuning.decoder (.default standard.tuning) <|
      .cons "persist_granularities" tierSetDecoder (.default standard.stored) <|
      .cons "parallelism" (tierMapDecoder (.natural 64)) (.default standard.workers) <|
      .cons "grouping" (tierMapDecoder Grouping.decoder) (.default standard.grouping) <|
      .cons "channel_capacity" (.natural 64) (.default standard.capacity) <|
      .cons "sink" CallBudget.decoder (.default standard.calls) <|
      .cons "redelivery" RedeliveryBudget.decoder (.default standard.redelivery) .nil)
    fun (tuning, stored, workers, grouping, capacity, calls, redelivery, ()) =>
      ⟨tuning, stored, workers, grouping, capacity, calls, redelivery⟩

end TierCascade
