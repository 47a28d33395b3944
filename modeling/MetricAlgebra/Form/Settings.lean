import MetricAlgebra.Form.Choice
import MetricAlgebra.Settings

/-!
# Settings in JSON

Settings are a record in which every field may be left out. Settings that are read have to be valid.
-/

namespace MetricAlgebra.Settings

/-- Reads settings, which need not be valid. -/
def ofJson? (j : Json) : Option Settings := do
  let default : Settings := {}
  let r ← j.toRecord?
    ["lookback_miss_policy", "histogram_bound_label", "histogram_time_unit", "regex_cache_size"]
  let missPolicy ← r.withDefault "lookback_miss_policy" MissPolicy.ofJson? default.missPolicy
  let boundLabel ← r.withDefault "histogram_bound_label" Json.toString? default.boundLabel
  let timeUnit ← r.withDefault "histogram_time_unit" TimeUnit.ofJson? default.timeUnit
  let cacheSize ← r.withDefault "regex_cache_size" Json.toUInt64? default.cacheSize
  pure ⟨missPolicy, boundLabel, timeUnit, cacheSize⟩

/-- Settings as an object. -/
def toJson (s : Settings) : Json :=
  .ofFields [("lookback_miss_policy", s.missPolicy.toJson),
    ("histogram_bound_label", .ofString s.boundLabel),
    ("histogram_time_unit", s.timeUnit.toJson),
    ("regex_cache_size", .integer s.cacheSize.toNat)]

/-- Reads a JSON text of valid settings. -/
def read (T : JsonCodec) (text : String) : Except Error Settings :=
  match (T.read? text).bind ofJson? with
  | some s => do s.validate; pure s
  | none => .error (.configuration (.unreadable (T.report text)))

end MetricAlgebra.Settings
