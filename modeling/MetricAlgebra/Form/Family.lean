import MetricAlgebra.Form.Choice
import MetricAlgebra.Form.Sample

/-!
# Families in JSON

A family is written as its kind, and a batch beside it if there are samples. A batch without samples
is not read.
-/

namespace MetricAlgebra

namespace Context

/-- Reads a context. -/
def ofJson? (j : Json) : Option Context := do
  let r ← j.toRecord? ["is_histogram", "percentiles", "downsampling"]
  let isHistogram ← r.required "is_histogram" Json.toBool?
  let percentiles ← r.nullable "percentiles" (Json.toList? Json.toInt32?)
  let downsampling ← r.required "downsampling" Downsampling.ofJson?
  pure ⟨isHistogram, percentiles, downsampling⟩

/-- The percentile ranks as a list, and `null` if there is none. -/
def percentilesToJson : Option (List Int32) → Json
  | some ranks => .array (ranks.map fun rank => .integer rank.toInt)
  | none => .null

/-- A context as an object. -/
def toJson (c : Context) : Json :=
  .ofFields [("is_histogram", .bool c.isHistogram),
    ("percentiles", percentilesToJson c.percentiles), ("downsampling", c.downsampling.toJson)]

end Context

namespace Batch

/-- Reads a batch of samples, of which there has to be one. -/
def ofJson? (j : Json) : Option Batch := do
  let r ← j.toRecord? ["samples", "context"]
  let samples ← r.required "samples" (Json.toList? Sample.ofJson?)
  let context ← r.withDefault "context" Context.ofJson? {}
  if h : samples = [] then none else some ⟨samples, context, h⟩

/-- A batch as an object. -/
def toJson (b : Batch) : Json :=
  .ofFields [("samples", .array (b.samples.map Sample.toJson)), ("context", b.context.toJson)]

end Batch

/-- Whether a family has samples, as its JSON form says it. -/
inductive FamilyKind where
  | empty | populated
  deriving DecidableEq, Repr

namespace FamilyKind

/-- The name of the kind. -/
def name : FamilyKind → String
  | empty => "empty"
  | populated => "populated"

/-- Reads the name of a kind. -/
def ofJson? : Json → Option FamilyKind := Json.toChoice? [empty, populated] name

/-- Reads what a family of the kind has beside its kind: a batch, or nothing. -/
def family? : FamilyKind → Json → Option Family
  | empty, .null => some .empty
  | empty, _ => none
  | populated, j => (Batch.ofJson? j).map .populated

end FamilyKind

namespace Family

/-- Reads a family: its kind and its batch, by name or in order. The batch may come first and is put
aside then; that there is no batch need not be said. -/
def ofJson? : Json → Option Family
  | .array [kind, content] => (FamilyKind.ofJson? kind).bind fun kind => kind.family? content
  | .object fields =>
    (Json.object fields).toFields?.bind fun fields =>
      match fields.filter fun field => field.1 == "kind" || field.1 == "family" with
      | [("kind", kind)] => (FamilyKind.ofJson? kind).bind fun kind => kind.family? .null
      | [("kind", kind), ("family", content)] =>
        (FamilyKind.ofJson? kind).bind fun kind => kind.family? content
      | [("family", content), ("kind", kind)] =>
        (content.putAside? (Json.maxDepth - 1)).bind fun content =>
          (FamilyKind.ofJson? kind).bind fun kind => kind.family? content
      | _ => none
  | _ => none

/-- A family as an object. -/
def toJson : Family → Json
  | empty => .ofFields [("kind", .ofString FamilyKind.empty.name)]
  | populated batch =>
    .ofFields [("kind", .ofString FamilyKind.populated.name), ("family", batch.toJson)]

end Family

end MetricAlgebra
