/-!
# Integers from floating point

The passage from 64-bit floating point to 64-bit integers, which saturates and sends what is not a
number to zero, and the total order of all floating-point values.
-/

namespace MetricAlgebra.Binary64

open Float.Model (UnpackedFloat)

/-- The integer part: the fraction is dropped, and what does not fit saturates. -/
def truncate (x : Float) : Int64 :=
  x.toModel.toInt64

/-- The natural number nearest to `m * 2 ^ e`, where a half goes up. -/
def roundHalfUp (m : Nat) (e : Int) : Nat :=
  if 0 ≤ e then m * Nat.pow 2 e.toNat
  else (m + Nat.pow 2 ((-e).toNat - 1)) / Nat.pow 2 (-e).toNat

/-- The nearest integer, where a half goes away from zero; what does not fit saturates. -/
def round (x : Float) : Int64 :=
  match x.toModel.unpack with
  | .notANumber => 0
  | .infinity .positive => Int64.maxValue
  | .infinity .negative => Int64.minValue
  | .zero _ => 0
  | .finite sign m e _ => Int64.ofIntClamp (sign.apply (roundHalfUp m e))

/-- The bit of the sign, as a number. -/
def signBit : Nat := 0x8000000000000000

/-- The place of a value in the total order: negative values below positive ones, and the negative
zero just below the positive one. -/
def orderKey (x : Float) : Int :=
  let bits := x.toBits.toNat
  if bits < signBit then bits else signBit - 1 - bits

end MetricAlgebra.Binary64
