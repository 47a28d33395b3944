/-!
# Decimal literals

Texts of decimal digits and the numbers that they write. A number with a point or an exponent is
the floating-point value nearest to what it says.
-/

namespace MetricAlgebra.Decimal

/-- The value of a decimal digit. -/
def digitValue (c : Char) : Nat :=
  c.toNat - '0'.toNat

/-- The natural number that decimal digits write. -/
def natValue (digits : List Char) : Nat :=
  digits.foldl (fun n c => 10 * n + digitValue c) 0

/-- The leading decimal digits of a text, and the rest. -/
def spanDigits (text : List Char) : List Char × List Char :=
  (text.takeWhile Char.isDigit, text.dropWhile Char.isDigit)

/-- A text is the digits at its start and the rest. -/
theorem spanDigits_fst_append_snd (text : List Char) :
    (spanDigits text).1 ++ (spanDigits text).2 = text :=
  List.takeWhile_append_dropWhile

/-- Nothing is read where no digit is. -/
theorem spanDigits_eq_nil {text : List Char} (h : ∀ c ∈ text.head?, c.isDigit = false) :
    spanDigits text = ([], text) := by
  unfold spanDigits
  cases text with
  | nil => rfl
  | cons c text =>
    have hc : ¬ c.isDigit = true := by simp [h c rfl]
    rw [List.takeWhile_cons_of_neg hc, List.dropWhile_cons_of_neg hc]

/-- Digits are read up to where they end. -/
theorem spanDigits_append {digits rest : List Char} (h : ∀ c ∈ digits, c.isDigit = true)
    (hrest : ∀ c ∈ rest.head?, c.isDigit = false) :
    spanDigits (digits ++ rest) = (digits, rest) := by
  have hnil := spanDigits_eq_nil hrest
  unfold spanDigits at *
  obtain ⟨htake, hdrop⟩ := Prod.mk.inj hnil
  rw [List.takeWhile_append_of_pos h, List.dropWhile_append_of_pos h, htake, hdrop,
    List.append_nil]

/-- The value nearest to `m * 10 ^ e`. -/
def scaled (m : Nat) (e : Int) : Float :=
  Float.ofScientific m (e < 0) e.natAbs

/-- The value nearest to the number that digits before and after a point write. -/
def pointValue (whole fraction : List Char) : Float :=
  scaled (natValue (whole ++ fraction)) (-fraction.length)

/-- Whether the sign of a text is a minus, and what is behind the sign; a text need not have one. -/
def splitSign : List Char → Bool × List Char
  | '-' :: rest => (true, rest)
  | '+' :: rest => (false, rest)
  | rest => (false, rest)

/-- The integer of a sign and a magnitude. -/
def signed (negative : Bool) (n : Nat) : Int :=
  if negative then -n else n

/-- Digits with an optional sign, read as an integer; there has to be a digit and nothing else. -/
def intValue? (text : List Char) : Option Int :=
  let (negative, digits) := splitSign text
  if digits.isEmpty || !digits.all Char.isDigit then none
  else some (signed negative (natValue digits))

/-- Digits with an optional plus sign, read as a natural number; there has to be a digit and nothing
else. -/
def natValue? (text : List Char) : Option Nat :=
  let digits :=
    match text with
    | '+' :: rest => rest
    | _ => text
  if digits.isEmpty || !digits.all Char.isDigit then none else some (natValue digits)

/-- The exponent of a literal and nothing behind it: none at all, or the mark `e`, an optional sign
and digits. -/
def exponent? : List Char → Option Int
  | [] => some 0
  | mark :: rest => if mark = 'e' ∨ mark = 'E' then intValue? rest else none

/-- A decimal number without a sign: digits with an optional point among or around them, and an
optional exponent. -/
def magnitude? (text : List Char) : Option Float :=
  let (whole, rest) := spanDigits text
  let (fraction, rest) :=
    match rest with
    | '.' :: rest => spanDigits rest
    | _ => ([], rest)
  if whole.isEmpty && fraction.isEmpty then none
  else (exponent? rest).map fun e => scaled (natValue (whole ++ fraction)) (e - fraction.length)

/-- The words, in any case, for values that no digits write. -/
def wordValue? (text : List Char) : Option Float :=
  match String.ofList (text.map Char.toLower) with
  | "nan" => some (0.0 / 0.0)
  | "inf" | "infinity" => some (1.0 / 0.0)
  | _ => none

/-- A decimal number or a word for one, with an optional sign. -/
def float? (text : String) : Option Float :=
  match text.toList with
  | '-' :: rest => (wordValue? rest <|> magnitude? rest).map (-·)
  | '+' :: rest => wordValue? rest <|> magnitude? rest
  | rest => wordValue? rest <|> magnitude? rest

end MetricAlgebra.Decimal
