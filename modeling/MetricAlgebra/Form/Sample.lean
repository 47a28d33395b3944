import MetricAlgebra.Json.Decode
import MetricAlgebra.Lookback

/-!
# Samples in JSON

Label sets are objects of texts. The value of a sample is a number, or a word where no digits write
it; the value of a recorded point is always a number, and `null` where no digits write it.
-/

namespace MetricAlgebra

namespace LabelSet

/-- Reads an object of texts as a map; of two with one name the later one stands. -/
def ofJson? (j : Json) : Option LabelSet := do
  let fields ← j.toFields?
  let pairs ← fields.mapM fun (name, j) => j.toString?.map fun value => (name, value)
  pure (ofMap (.ofPairs pairs))

/-- The names and values as an object. -/
def toJson (s : LabelSet) : Json :=
  .ofFields (s.toMap.entries.map fun (name, value) => (name, .ofString value))

end LabelSet

namespace Sample

/-- Reads a number, or a word for a value that is not a finite number. -/
def valueOfJson? (j : Json) : Option Float :=
  match j with
  | .string (some "NaN") => some (0.0 / 0.0)
  | .string (some "+Inf") | .string (some "Inf") => some (1.0 / 0.0)
  | .string (some "-Inf") => some (-1.0 / 0.0)
  | j => j.toFloat?

/-- A value as a number, or as a word if it is not a finite number. -/
def valueToJson (x : Float) : Json :=
  if x.isNaN then .ofString "NaN"
  else if x.isFinite then .real x
  else .ofString (if 0.0 < x then "+Inf" else "-Inf")

/-- Reads a sample. -/
def ofJson? (j : Json) : Option Sample := do
  let r ← j.toRecord? ["timestamp", "value", "labels"]
  let timestamp ← r.required "timestamp" Json.toInt64?
  let value ← r.required "value" valueOfJson?
  let labels ← r.required "labels" LabelSet.ofJson?
  pure ⟨labels, timestamp, value⟩

/-- A sample as an object. -/
def toJson (s : Sample) : Json :=
  .ofFields [("timestamp", .integer s.timestamp.toInt), ("value", valueToJson s.value),
    ("labels", s.labels.toJson)]

end Sample

namespace Point

/-- Reads a recorded point. -/
def ofJson? (j : Json) : Option Point := do
  let r ← j.toRecord? ["timestamp", "value"]
  let timestamp ← r.required "timestamp" Json.toInt64?
  let value ← r.required "value" Json.toFloat?
  pure ⟨timestamp, value⟩

/-- A recorded point as an object. -/
def toJson (p : Point) : Json :=
  .ofFields [("timestamp", .integer p.timestamp.toInt),
    ("value", if p.value.isFinite then .real p.value else .null)]

end Point

end MetricAlgebra
