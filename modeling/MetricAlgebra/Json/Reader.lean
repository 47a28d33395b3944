import MetricAlgebra.Json.Value
import MetricAlgebra.Decimal.Literal
import MetricAlgebra.Unicode.RangeTable

/-!
# Reading JSON

The strict grammar of JSON: one value with white space around it and nothing else.
-/

namespace MetricAlgebra.Json

/-- Whether a character is white space between the signs of a JSON text. -/
def isSpace (c : Char) : Bool := c == ' ' || c == '\t' || c == '\n' || c == '\r'

/-- Drops white space. -/
def skipSpace (text : List Char) : List Char := text.dropWhile isSpace

/-! ## Texts -/

/-- A piece of a text: a character, or a sixteen-bit unit given by an escape. -/
inductive Piece where
  | char (c : Char)
  | unit (n : Nat)

/-- The character that four hexadecimal digits and no other unit stand for, unless they are one
half of a pair. -/
def unitChar? (n : Nat) : Option Char :=
  if h : n.isValidChar then some (Char.ofNatAux n h) else none

/-- The character that two units stand for, the first of them a high half and the second a low
one. -/
def pairChar? (high low : Nat) : Option Char :=
  if 0xD800 ≤ high ∧ high < 0xDC00 ∧ 0xDC00 ≤ low ∧ low < 0xE000 then
    unitChar? (0x10000 + (high - 0xD800) * 0x400 + (low - 0xDC00))
  else none

/-- The characters that pieces stand for, if every half of a pair has the other half beside it. -/
def joinPieces? : List Piece → Option (List Char)
  | [] => some []
  | .char c :: rest => (joinPieces? rest).map (c :: ·)
  | .unit n :: rest =>
    match unitChar? n, rest with
    | some c, rest => (joinPieces? rest).map (c :: ·)
    | none, .unit m :: rest =>
      match pairChar? n m with
      | some c => (joinPieces? rest).map (c :: ·)
      | none => none
    | none, _ => none

/-- The character of an escape with a single letter or sign. -/
def escapedChar? : Char → Option Char
  | '"' => some '"'
  | '\\' => some '\\'
  | '/' => some '/'
  | 'b' => some '\x08'
  | 'f' => some '\x0c'
  | 'n' => some '\n'
  | 'r' => some '\r'
  | 't' => some '\t'
  | _ => none

/-- Reads the pieces of a text up to its closing quote, given what is behind the opening one.
Control characters have to be escaped. -/
def pieces? : List Char → Option (List Piece × List Char)
  | [] => none
  | '"' :: rest => some ([], rest)
  | '\\' :: 'u' :: a :: b :: c :: d :: rest =>
    if [a, b, c, d].all Unicode.isHexDigit then
      (pieces? rest).map fun (pieces, rest) =>
        (.unit (Unicode.hexValue [a, b, c, d]) :: pieces, rest)
    else none
  | '\\' :: c :: rest =>
    match escapedChar? c with
    | some c => (pieces? rest).map fun (pieces, rest) => (.char c :: pieces, rest)
    | none => none
  | c :: rest =>
    if c.toNat < 0x20 ∨ c = '\\' then none
    else (pieces? rest).map fun (pieces, rest) => (.char c :: pieces, rest)

/-- Reads a text, given what is behind its opening quote. -/
def string? (text : List Char) : Option (Option String × List Char) :=
  (pieces? text).map fun (pieces, rest) => ((joinPieces? pieces).map String.ofList, rest)

/-! ## Numbers -/

/-- Reads the digits behind a point, if there is a point. -/
def fraction? : List Char → Option (Option (List Char) × List Char)
  | '.' :: rest =>
    let (digits, rest) := Decimal.spanDigits rest
    if digits.isEmpty then none else some (some digits, rest)
  | rest => some (none, rest)

/-- Reads an exponent, if there is one. -/
def exponent? : List Char → Option (Option Int × List Char)
  | [] => some (none, [])
  | mark :: rest =>
    if mark = 'e' ∨ mark = 'E' then
      let (negative, rest) := match rest with
        | '-' :: rest => (true, rest)
        | '+' :: rest => (false, rest)
        | rest => (false, rest)
      let (digits, rest) := Decimal.spanDigits rest
      let n : Int := Decimal.natValue digits
      if digits.isEmpty then none else some (some (if negative then -n else n), rest)
    else some (none, mark :: rest)

/-- Digits put behind a number as long as it then fits 64 bits without a sign: the number that comes
of it, and how many of the digits are left. -/
def appendDigits : Nat → List Char → Nat × Nat
  | n, [] => (n, 0)
  | n, c :: digits =>
    let m := 10 * n + Decimal.digitValue c
    if m < UInt64.size then appendDigits m digits else (n, digits.length + 1)

/-- A power of ten, of which that of 308 is the greatest one. -/
def powerOfTen (k : Nat) : Float := Decimal.scaled 1 k

/-- A number of 64 bits times a power of ten, infinite if it is too large. The number, the power and
each product or quotient are rounded, so that this is not always the value nearest to what a literal
says. -/
def timesPowerOfTen (n : Nat) (e : Int) : Float :=
  let x := n.toUInt64.toFloat
  if 308 < e then if n = 0 then x else 1.0 / 0.0
  else if 0 ≤ e then x * powerOfTen e.toNat
  else if -308 ≤ e then x / powerOfTen (-e).toNat
  -- The quotient by a smaller power would be zero after two steps, whatever the number is.
  else if -616 ≤ e then x / powerOfTen 308 / powerOfTen (-e - 308).toNat
  else 0.0

/-- The number of digits before and behind a point and an exponent. Of the digits those count that
fit 64 bits together. -/
def magnitude (whole fraction : List Char) (exponent : Int) : Float :=
  let (n, wholeLeft) := appendDigits 0 whole
  let (n, fractionLeft) := appendDigits n fraction
  let places : Int := fraction.length - fractionLeft
  timesPowerOfTen n (wholeLeft - places + exponent)

/-- The number that its parts make. A whole number is an integer if it fits 64 bits, and zero with a
sign is not one. -/
def numberValue (negative : Bool) (whole : List Char) (fraction : Option (List Char))
    (exponent : Option Int) : Json :=
  let n := Decimal.natValue whole
  let isWhole := fraction.isNone && exponent.isNone
  if isWhole && !negative && n < UInt64.size then integer n
  else if isWhole && negative && n != 0 && Int64.minValue.toInt ≤ -(n : Int) then integer (-n)
  else
    let x := magnitude whole (fraction.getD []) (exponent.getD 0)
    real (if negative then -x else x)

/-- Reads a number; digits before the point have no needless zero in front. -/
def number? (text : List Char) : Option (Json × List Char) :=
  let (negative, text) := match text with
    | '-' :: rest => (true, rest)
    | _ => (false, text)
  let (whole, rest) := Decimal.spanDigits text
  if whole.isEmpty || (whole.head? == some '0' && 1 < whole.length) then none
  else
    (fraction? rest).bind fun (fraction, rest) =>
      (exponent? rest).map fun (exponent, rest) =>
        (numberValue negative whole fraction exponent, rest)

/-! ## Values -/

mutual

/-- Reads a value at the start of a text without white space in front. -/
def value? : Nat → List Char → Option (Json × List Char)
  | 0, _ => none
  | fuel + 1, text =>
    match text with
    | 'n' :: 'u' :: 'l' :: 'l' :: rest => some (null, rest)
    | 't' :: 'r' :: 'u' :: 'e' :: rest => some (bool true, rest)
    | 'f' :: 'a' :: 'l' :: 's' :: 'e' :: rest => some (bool false, rest)
    | '"' :: rest => (string? rest).map fun (s, rest) => (string s, rest)
    | '[' :: rest =>
      match skipSpace rest with
      | ']' :: rest => some (array [], rest)
      | rest => (items? fuel rest).map fun (items, rest) => (array items, rest)
    | '{' :: rest =>
      match skipSpace rest with
      | '}' :: rest => some (object [], rest)
      | rest => (fields? fuel rest).map fun (fields, rest) => (object fields, rest)
    | text => number? text

/-- Reads the values of a list, of which there is one at least, and the closing bracket. -/
def items? : Nat → List Char → Option (List Json × List Char)
  | 0, _ => none
  | fuel + 1, text =>
    (value? fuel text).bind fun (item, rest) =>
      match skipSpace rest with
      | ']' :: rest => some ([item], rest)
      | ',' :: rest =>
        (items? fuel (skipSpace rest)).map fun (items, rest) => (item :: items, rest)
      | _ => none

/-- Reads the fields of an object, of which there is one at least, and the closing brace. -/
def fields? : Nat → List Char → Option (List (Option String × Json) × List Char)
  | 0, _ => none
  | fuel + 1, text =>
    match text with
    | '"' :: rest =>
      (string? rest).bind fun (name, rest) =>
        match skipSpace rest with
        | ':' :: rest =>
          (value? fuel (skipSpace rest)).bind fun (value, rest) =>
            match skipSpace rest with
            | '}' :: rest => some ([(name, value)], rest)
            | ',' :: rest =>
              (fields? fuel (skipSpace rest)).map fun (fields, rest) =>
                ((name, value) :: fields, rest)
            | _ => none
        | _ => none
    | _ => none

end

/-- Reads a JSON text. Every step but one between brackets takes a character, so that twice the
length is limit enough. -/
def read? (text : String) : Option Json :=
  let chars := text.toList
  (value? (2 * chars.length + 2) (skipSpace chars)).bind fun (value, rest) =>
    if (skipSpace rest).isEmpty then some value else none

end MetricAlgebra.Json
