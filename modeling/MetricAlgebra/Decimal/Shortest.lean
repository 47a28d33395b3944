import MetricAlgebra.Decimal.Literal

/-!
# Shortest decimals

The decimal number with the fewest digits that reads back as a given floating-point value.
-/

namespace MetricAlgebra.Decimal

open Float.Model (UnpackedFloat)

/-- A decimal number `digits * 10 ^ exponent`. -/
structure Short where
  /-- The digits, as a number. -/
  digits : Nat
  /-- The power of ten. -/
  exponent : Int
  deriving DecidableEq, Repr

/-- The value nearest to a decimal number. -/
def Short.value (d : Short) : Float :=
  scaled d.digits d.exponent

/-- The power of a base, and one for a negative exponent. -/
def power (base : Nat) (e : Int) : Nat := Nat.pow base e.toNat

/-- The floor of `m * 2 ^ q * 10 ^ p`. -/
def floorScaled (m : Nat) (q p : Int) : Nat :=
  (m * power 2 q * power 10 p) / (power 2 (-q) * power 10 (-p))

/-- Twice the distance, in units of the last place, from the floor of `m * 2 ^ q * 10 ^ p` is at
most one. -/
def floorIsNearest (m : Nat) (q p : Int) : Bool :=
  let scale := power 2 (-q) * power 10 (-p)
  2 * ((m * power 2 q * power 10 p) % scale) ≤ scale

/-- The two decimal numbers with `p` places after the point next to `m * 2 ^ q`, the nearer one
first. -/
def neighbours (m : Nat) (q p : Int) : List Short :=
  let low := floorScaled m q p
  if floorIsNearest m q p then [⟨low, -p⟩, ⟨low + 1, -p⟩] else [⟨low + 1, -p⟩, ⟨low, -p⟩]

/-- A number of decimal places, possibly negative, that leaves no digit of `m * 2 ^ q`, by the
bound `0.30103` for the decimal logarithm of two. -/
def noPlaces (m : Nat) (q : Int) : Int :=
  -Int.fdiv ((m.log2 + 1 + q) * 30103) 100000 - 1

/-- The decimal number with the fewest places that reads back as `x`, for `x = m * 2 ^ q`. -/
def shortestOf (x : Float) (m : Nat) (q : Int) : Short :=
  let tries := (List.range 20).flatMap fun (n : Nat) => neighbours m q (noPlaces m q + n)
  (tries.find? fun d => d.value == x).getD
    ⟨m * power 2 q * power 5 (-q), -((-q).toNat : Int)⟩

/-- Drops zeros at the end of the digits, at most `limit` of them. -/
def Short.trimmed (d : Short) : Nat → Short
  | 0 => d
  | limit + 1 =>
    if d.digits ≠ 0 ∧ d.digits % 10 = 0 then
      Short.trimmed ⟨d.digits / 10, d.exponent + 1⟩ limit
    else d

/-- Digits with a point behind the first of them, if there are more. -/
def pointed (digits : List Char) : List Char :=
  match digits with
  | first :: second :: rest => first :: '.' :: second :: rest
  | digits => digits

/-- Writes a positive decimal number: in full with up to sixteen places before the point or up to
four zeros behind it, and with an exponent otherwise. -/
def Short.text (d : Short) : String :=
  let digits := (Nat.repr d.digits).toList
  let point : Int := digits.length + d.exponent
  let zeros (n : Int) : List Char := List.replicate n.toNat '0'
  String.ofList
    (if 0 ≤ d.exponent ∧ point ≤ 16 then digits ++ zeros d.exponent ++ ['.', '0']
    else if 0 < point ∧ point ≤ 16 then
      digits.take point.toNat ++ '.' :: digits.drop point.toNat
    else if -5 < point ∧ point ≤ 0 then '0' :: '.' :: (zeros (-point) ++ digits)
    else pointed digits ++ 'e' :: (Int.repr (point - 1)).toList)

/-- Writes a finite value as the shortest decimal number that reads back as it. -/
def shortest (x : Float) : String :=
  match x.toModel.unpack with
  | .finite .positive m q _ => ((shortestOf x m q).trimmed 400).text
  | .finite .negative m q _ => "-" ++ ((shortestOf (-x) m q).trimmed 400).text
  | .zero .negative => "-0.0"
  | _ => "0.0"

end MetricAlgebra.Decimal
