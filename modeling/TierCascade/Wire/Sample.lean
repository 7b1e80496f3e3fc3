import TierCascade.Json.Fields
import TierCascade.Sample
/-!
# Samples on the wire

The wire form of series, samples and aggregates. Each type has a writer into JSON and a decoder that
takes back what the writer gives.
-/

namespace TierCascade

def textMapJson (m : OrderedMap String String) : Json :=
  .object (m.entries.map fun e => (e.1, .string e.2))

def textMapDecoder : Decoder (OrderedMap String String) := .map .string

def Tier.json (t : Tier) : Json := .string t.name

def Tier.decoder : Decoder Tier := .variant Tier.named?

def Severity.json (s : Severity) : Json := .string s.name

def Severity.decoder : Decoder Severity := .variant Severity.named?

def SampleKind.json (k : SampleKind) : Json := .string k.name

def SampleKind.decoder : Decoder SampleKind := .variant SampleKind.named?

def Series.json (s : Series) : Json :=
  .object [("accountId", .string s.account), ("metricName", .string s.metric),
    ("criteria", textMapJson s.criteria)]

def Series.decoder : Decoder Series :=
  .record "Series"
    (.cons "accountId" .string .required <| .cons "metricName" .string .required <|
      .cons "criteria" textMapDecoder .required .nil)
    fun (account, metric, criteria, ()) => ⟨account, metric, criteria⟩

def Sample.json (x : Sample) : Json :=
  .object <| [("key", x.series.json), ("metricType", x.kind.json), ("timestamp", .int x.timestamp),
    ("value", .float x.value)] ++ Json.optionalMember "debugLabel" .string x.label

def Sample.decoder : Decoder Sample :=
  .record "Sample"
    (.cons "key" Series.decoder .required <| .cons "metricType" SampleKind.decoder .required <|
      .cons "timestamp" .timestamp .required <| .cons "value" .float .required <|
      .cons "debugLabel" (.option .string) (.default none) .nil)
    fun (series, kind, timestamp, value, label, ()) => ⟨series, kind, timestamp, value, label⟩

def FlatSample.json (x : FlatSample) : Json :=
  .object <| [("accountId", .string x.account), ("metricName", .string x.metric),
    ("metricType", x.kind.json), ("timestamp", .int x.timestamp), ("value", .float x.value),
    ("criteria", textMapJson x.criteria)] ++ Json.optionalMember "debugLabel" .string x.label

/-- A flat sample. The kind, the criteria and the label may be missing. -/
def FlatSample.decoder : Decoder FlatSample :=
  .record "SampleRecord"
    (.cons "accountId" .string .required <| .cons "metricName" .string .required <|
      .cons "metricType" SampleKind.decoder (.default .absolute) <|
      .cons "timestamp" .timestamp .required <| .cons "value" .float .required <|
      .cons "criteria" textMapDecoder (.default .empty) <|
      .cons "debugLabel" (.option .string) (.default none) .nil)
    fun (account, metric, kind, timestamp, value, criteria, label, ()) =>
      ⟨account, metric, kind, timestamp, value, criteria, label⟩

/-- What an aggregate says of its series; `real` writes its numbers. -/
def Aggregate.members (real : Float → Json) (a : Aggregate) : List (String × Json) :=
  [("granularity", a.tier.json), ("metricType", a.kind.json), ("value", real a.value),
    ("mean", real a.mean), ("stdDev", real a.deviation), ("diff", real a.difference),
    ("min", real a.min), ("max", real a.max), ("isAnomaly", .bool a.isAnomaly),
    ("severity", a.severity.json), ("zScore", real a.score), ("sampleCount", .nat a.count),
    ("timestamp", .int a.timestamp)]

def Aggregate.json (a : Aggregate) : Json := .object (("key", a.series.json) :: a.members .float)

def Aggregate.decoder : Decoder Aggregate :=
  .record "Aggregate"
    (.cons "key" Series.decoder .required <| .cons "granularity" Tier.decoder .required <|
      .cons "metricType" SampleKind.decoder .required <| .cons "value" .float .required <|
      .cons "mean" .float .required <| .cons "stdDev" .float .required <|
      .cons "diff" .float .required <| .cons "min" .float .required <|
      .cons "max" .float .required <| .cons "isAnomaly" .bool .required <|
      .cons "severity" Severity.decoder .required <| .cons "zScore" .float .required <|
      .cons "sampleCount" (.natural 64) .required <| .cons "timestamp" .timestamp .required .nil)
    fun (series, tier, kind, value, mean, deviation, difference, min, max, isAnomaly, severity, score,
        count, timestamp, ()) =>
      { series, tier, kind, value, mean, deviation, difference, min, max, isAnomaly, severity, score,
        count, timestamp }

end TierCascade
