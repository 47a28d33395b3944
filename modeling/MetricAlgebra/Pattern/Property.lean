import MetricAlgebra.Unicode.Property
import MetricAlgebra.Unicode.Script
import MetricAlgebra.Unicode.Age

/-!
# Named classes

The names by which a pattern asks for a property of characters: a property, a general category or a
script by its own name, or a value of one of several properties. Names are folded before they are
looked up, so that `Is_Greek`, `greek` and `GREEK` are one.
-/

namespace MetricAlgebra.Pattern

open Unicode

/-- Drops a leading `is` in any case, and tells whether there was one. -/
def dropIs : List Char → Bool × List Char
  | c :: d :: rest =>
    if c.toLower = 'i' ∧ d.toLower = 's' then (true, rest) else (false, c :: d :: rest)
  | name => (false, name)

/-- A name in folded form: ASCII letters in lower case, without spaces, underscores, hyphens, other
scripts and a leading `is`. The name `isc` stays what it is. -/
def foldName (name : List Char) : String :=
  let (hadIs, rest) := dropIs name
  let folded := (rest.filter fun c => c != ' ' && c != '_' && c != '-' && c.toNat < 128).map
    Char.toLower
  if hadIs && folded == ['c'] then "isc" else String.ofList folded

/-- Names of properties that also name a general category, which they stand for. -/
def categoryFirst : List String := ["cf", "sc", "lc"]

/-- A general category by its folded name, with the whole range and its named parts. -/
def categoryClass? (name : String) : Option RangeTable :=
  match name with
  | "any" => some (.ofList [(0, maxCodePoint)])
  | "ascii" => some (.ofList [(0, 0x7F)])
  | "assigned" => some (ofCategories ["Cn"]).compl
  | name => category? name

/-- The characters of a property, general category or script by its name. -/
def namedClass? (name : List Char) : Option RangeTable :=
  let name := foldName name
  (if categoryFirst.contains name then none else property? name)
    <|> categoryClass? name
    <|> (scriptCode? name).map ofScript

/-- The characters at which a property has a value, both given by name. -/
def valueClass? (property value : List Char) : Option RangeTable :=
  let value := foldName value
  match foldName property with
  | "gc" | "generalcategory" => categoryClass? value
  | "sc" | "script" => (scriptCode? value).map ofScript
  | "scx" | "scriptextensions" => (scriptCode? value).map ofScriptExtension
  | "age" => age? value
  | _ => none

/-- Cuts a name at the first place where a separator stands. -/
def cutAt? (separator : List Char) : List Char → Option (List Char × List Char)
  | [] => none
  | c :: rest =>
    if separator.isPrefixOf (c :: rest) then some ([], (c :: rest).drop separator.length)
    else (cutAt? separator rest).map fun (before, after) => (c :: before, after)

/-- The characters that the text between the braces of a class stands for: the name of a class, or
a property and a value with `!=`, `:` or `=` between. -/
def braceClass? (text : List Char) : Option RangeTable :=
  match cutAt? ['!', '='] text <|> cutAt? [':'] text <|> cutAt? ['='] text with
  | some (property, value) => valueClass? property value
  | none => namedClass? text

end MetricAlgebra.Pattern
