/-!
# JSON values

What a JSON text says. Objects keep the order of their fields and also fields of one name, because a
record may not have a field twice, while of a map the last one counts. A text in which escapes do
not make up characters is kept as one that is broken, because it does no harm where it is not
looked at.
-/

namespace MetricAlgebra

/-- A JSON value. -/
inductive Json where
  /-- The value `null`. -/
  | null
  /-- A truth value. -/
  | bool (b : Bool)
  /-- A number without point and exponent that fits 64 bits, with or without a sign. -/
  | integer (n : Int)
  /-- Another number, infinite if it is too large. -/
  | real (x : Float)
  /-- A text, unless it is broken. -/
  | string (s : Option String)
  /-- A list of values. -/
  | array (items : List Json)
  /-- Names and values; a name can be broken too. -/
  | object (fields : List (Option String × Json))
  deriving Inhabited

namespace Json

/-- A text that is not broken. -/
def ofString (s : String) : Json := string (some s)

/-- An object of fields whose names are not broken. -/
def ofFields (fields : List (String × Json)) : Json :=
  object (fields.map fun (name, value) => (some name, value))

end Json

/-- How JSON texts are written and read. Nothing more is known of it here. -/
structure JsonCodec where
  /-- The text of a value. -/
  write : Json → String
  /-- The value of a text, if it is the text of one. -/
  read? : String → Option Json
  /-- What is reported of a text that is not read as what it should say. -/
  report : String → String

end MetricAlgebra
