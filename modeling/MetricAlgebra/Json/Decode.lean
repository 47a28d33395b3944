import MetricAlgebra.Json.Value

/-!
# Reading from JSON values

How values of other types are read from JSON values. A record is an object that has its fields by
name, or a list that has them in order. In an object, no field of the record may come twice, and
other fields do not count.
-/

namespace MetricAlgebra.Json

/-! ## Plain values -/

/-- A truth value. -/
def toBool? : Json → Option Bool
  | bool b => some b
  | _ => none

/-- A text that is not broken. -/
def toString? : Json → Option String
  | string s => s
  | _ => none

/-- A signed number of 64 bits. -/
def toInt64? : Json → Option Int64
  | integer n =>
    if Int64.minValue.toInt ≤ n ∧ n ≤ Int64.maxValue.toInt then some (Int64.ofInt n) else none
  | _ => none

/-- A signed number of 32 bits. -/
def toInt32? : Json → Option Int32
  | integer n =>
    if Int32.minValue.toInt ≤ n ∧ n ≤ Int32.maxValue.toInt then some (Int32.ofInt n) else none
  | _ => none

/-- An unsigned number of 64 bits. -/
def toUInt64? : Json → Option UInt64
  | integer n => if 0 ≤ n ∧ n < UInt64.size then some (UInt64.ofNat n.toNat) else none
  | _ => none

/-- A finite number, be it written as an integer or not. -/
def toFloat? : Json → Option Float
  | integer n => some (Float.ofInt n)
  | real x => if x.isFinite then some x else none
  | _ => none

/-- A list of values, each read in the same way. -/
def toList? {α : Type} (decode : Json → Option α) : Json → Option (List α)
  | array items => items.mapM decode
  | _ => none

/-- One of several values by its name, which may also be the name of an only field that is
`null`. -/
def toChoice? {α : Type} (all : List α) (name : α → String) : Json → Option α
  | string (some s) | object [(some s, null)] => all.find? fun a => name a == s
  | _ => none

/-- The names and values of an object, if no name is broken. -/
def toFields? : Json → Option (List (String × Json))
  | object fields => fields.mapM fun (name, value) => name.map fun name => (name, value)
  | _ => none

/-! ## Records -/

/-- The fields that a record has. -/
structure Record where
  /-- Whether fields go by their names, not by their order. -/
  isNamed : Bool
  /-- The fields that are there, with their names. -/
  fields : List (String × Json)

/-- The record of fields with the given names. -/
def toRecord? (names : List String) (j : Json) : Option Record :=
  match j with
  | array items =>
    if items.length ≤ names.length then some ⟨false, names.zip items⟩ else none
  | j =>
    j.toFields?.bind fun fields =>
      let known := fields.filter fun field => names.contains field.1
      if (known.map Prod.fst).Nodup then some ⟨true, known⟩ else none

/-- A list is a record in order if it has no more values than there are names. -/
theorem toRecord?_array (names : List String) (items : List Json) :
    (array items).toRecord? names =
      if items.length ≤ names.length then some ⟨false, names.zip items⟩ else none := rfl

/-- An object is a record of its fields of the given names if none of them comes twice. -/
theorem toRecord?_object (names : List String) (fields : List (Option String × Json)) :
    (object fields).toRecord? names = (object fields).toFields?.bind fun fields =>
      if ((fields.filter fun field => names.contains field.1).map Prod.fst).Nodup then
        some ⟨true, fields.filter fun field => names.contains field.1⟩
      else none := rfl

namespace Record

/-- Reads a field that has to be there. -/
def required {α : Type} (r : Record) (name : String) (decode : Json → Option α) : Option α :=
  (r.fields.lookup name).bind decode

/-- Reads a field that may be `null`, and that counts as `null` where fields go by name and it is
not there. -/
def nullable {α : Type} (r : Record) (name : String) (decode : Json → Option α) :
    Option (Option α) :=
  match r.fields.lookup name with
  | some null => some none
  | some j => (decode j).map some
  | none => if r.isNamed then some none else none

/-- Reads a field that has a default value for where it is not there. -/
def withDefault {α : Type} (r : Record) (name : String) (decode : Json → Option α)
    (default : α) : Option α :=
  match r.fields.lookup name with
  | some j => decode j
  | none => some default

end Record

/-! ## Values put aside

A value whose type is not known when it is met is put aside until it is. What it says is looked at
then, and therefore it may not be broken, nor nested too deeply.
-/

mutual

/-- The value as it is put aside, nested at most `depth` levels deep. Here also an empty object says
`null` where it is the only field of another one. -/
def putAside? : Nat → Json → Option Json
  | _, null => some null
  | _, bool b => some (bool b)
  | _, integer n => some (integer n)
  | _, real x => if x.isFinite then some (real x) else none
  | _, string s => s.map ofString
  | 0, array _ | 0, object _ => none
  | depth + 1, array items => (putItemsAside? depth items).map array
  | depth + 1, object fields =>
    (putFieldsAside? depth fields).map fun
      | [(name, object [])] => object [(name, null)]
      | fields => object fields

/-- The values of a list as they are put aside. -/
def putItemsAside? : Nat → List Json → Option (List Json)
  | _, [] => some []
  | depth, item :: items =>
    (putAside? depth item).bind fun item =>
      (putItemsAside? depth items).map fun items => item :: items

/-- The fields of an object as they are put aside. -/
def putFieldsAside? : Nat → List (Option String × Json) → Option (List (Option String × Json))
  | _, [] => some []
  | _, (none, _) :: _ => none
  | depth, (some name, value) :: fields =>
    (putAside? depth value).bind fun value =>
      (putFieldsAside? depth fields).map fun fields => (some name, value) :: fields

end

/-- How many levels of lists and objects a text may have around and in values that are looked at. -/
def maxDepth : Nat := 127

end MetricAlgebra.Json
