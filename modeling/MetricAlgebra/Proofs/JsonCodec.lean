import Mathlib.Data.Nat.Notation
import MetricAlgebra.Json.Value

/-!
# What a JSON codec promises

Nothing is known of a codec but what its documentation promises: a value that JSON can say
(`Json.Sayable`) is read from its text as it was, apart from its numbers. A number that is not an
integer is written by digits, and what is read of these need not be the number to its last bit.
Which number it is, is left open: `JsonCodec.Spec` has it as a function, on which a theorem can set
conditions of its own.
-/

namespace MetricAlgebra

namespace Json

/-- A value that JSON can say: texts are not broken, integers fit 64 bits, with a sign or without,
and other numbers are finite. -/
inductive Sayable : Json → Prop
  | null : Sayable null
  | bool (b : Bool) : Sayable (bool b)
  | integer {n : Int} : Int64.minValue.toInt ≤ n → n < UInt64.size → Sayable (integer n)
  | real {x : Float} : x.isFinite = true → Sayable (real x)
  | string (s : String) : Sayable (ofString s)
  | array {items : List Json} : (∀ item ∈ items, Sayable item) → Sayable (array items)
  | object {fields : List (String × Json)} : (∀ field ∈ fields, Sayable field.2) →
      Sayable (ofFields fields)

mutual

/-- A value with each of its numbers that are not integers replaced by another one. -/
def mapReals (g : Float → Float) : Json → Json
  | null => null
  | bool b => bool b
  | integer n => integer n
  | real x => real (g x)
  | string s => string s
  | array items => array (mapRealsItems g items)
  | object fields => object (mapRealsFields g fields)

/-- The values of a list with their numbers replaced. -/
def mapRealsItems (g : Float → Float) : List Json → List Json
  | [] => []
  | item :: items => mapReals g item :: mapRealsItems g items

/-- The fields of an object with their numbers replaced. -/
def mapRealsFields (g : Float → Float) : List (Option String × Json) → List (Option String × Json)
  | [] => []
  | (name, value) :: fields => (name, mapReals g value) :: mapRealsFields g fields

end

variable {g : Float → Float}

/-- The numbers of a list are replaced value by value. -/
@[simp] theorem mapReals_array (items : List Json) :
    (array items).mapReals g = array (items.map (mapReals g)) := by
  have hitems : mapRealsItems g items = items.map (mapReals g) := by
    induction items with
    | nil => rfl
    | cons item items ih => rw [mapRealsItems, ih, List.map_cons]
  rw [mapReals, hitems]

/-- The numbers of an object are replaced field by field. -/
@[simp] theorem mapReals_ofFields (fields : List (String × Json)) :
    (ofFields fields).mapReals g =
      ofFields (fields.map fun (name, value) => (name, value.mapReals g)) := by
  unfold ofFields
  rw [mapReals, List.map_map]
  congr 1
  induction fields with
  | nil => rfl
  | cons field fields ih =>
    rw [List.map_cons, mapRealsFields, ih]
    rfl

/-- A text has no numbers. -/
@[simp] theorem mapReals_ofString (s : String) : (ofString s).mapReals g = ofString s := by
  rw [ofString, mapReals]

end Json

/-- What a codec promises, where `numeral x` is the number that is read of the digits of a finite
number `x`. -/
structure JsonCodec.Spec (T : JsonCodec) (numeral : Float → Float) : Prop where
  /-- The text of a value that JSON can say is read as the value, its numbers by their digits. -/
  read?_write : ∀ v : Json, v.Sayable → T.read? (T.write v) = some (v.mapReals numeral)

end MetricAlgebra
