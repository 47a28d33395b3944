import MetricAlgebra.Json.Reader
import MetricAlgebra.Decimal.Shortest

/-!
# Writing JSON

The compact JSON text of a value. With the reader it makes a codec (`Json.codec`).
-/

namespace MetricAlgebra.Json

/-- A character as it is written inside quotes. -/
def writtenChar (c : Char) : List Char :=
  match c with
  | '"' => ['\\', '"']
  | '\\' => ['\\', '\\']
  | '\x08' => ['\\', 'b']
  | '\x0c' => ['\\', 'f']
  | '\n' => ['\\', 'n']
  | '\r' => ['\\', 'r']
  | '\t' => ['\\', 't']
  | c =>
    if c.toNat < 0x20 then
      ['\\', 'u', '0', '0', Nat.digitChar (c.toNat / 16), Nat.digitChar (c.toNat % 16)]
    else [c]

/-- A text between quotes. -/
def writtenText (s : String) : List Char := '"' :: s.toList.flatMap writtenChar ++ ['"']

/-- A number that is not an integer; what no digits write is `null`. -/
def writtenReal (x : Float) : List Char :=
  if x.isFinite then (Decimal.shortest x).toList else "null".toList

mutual

/-- The characters of a value. A broken text is written as an empty one. -/
def written : Json → List Char
  | null => "null".toList
  | bool b => (if b then "true" else "false").toList
  | integer n => (Int.repr n).toList
  | real x => writtenReal x
  | string s => writtenText (s.getD "")
  | array items => '[' :: writtenItems items ++ [']']
  | object fields => '{' :: writtenFields fields ++ ['}']

/-- The characters of values with commas between them. -/
def writtenItems : List Json → List Char
  | [] => []
  | [item] => written item
  | item :: items => written item ++ ',' :: writtenItems items

/-- The characters of fields with commas between them. -/
def writtenFields : List (Option String × Json) → List Char
  | [] => []
  | [(name, value)] => writtenText (name.getD "") ++ ':' :: written value
  | (name, value) :: fields =>
    writtenText (name.getD "") ++ ':' :: written value ++ ',' :: writtenFields fields

end

/-- The text of a value. -/
def write (value : Json) : String := String.ofList value.written

/-- The codec of compact texts. What is reported of a text that is not read is the text. -/
def codec : JsonCodec where
  write := write
  read? := read?
  report text := text

end MetricAlgebra.Json
