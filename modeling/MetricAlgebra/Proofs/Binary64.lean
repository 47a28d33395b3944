import MetricAlgebra.Binary64
import MetricAlgebra.Proofs.Rounding

/-!
# Finite values and values with a positive sign

A finite value is a rational number. Rounding it gives the nearest integer, with a half away from
zero (`Binary64.round_eq_halfAway`), and truncating it gives its integer part
(`Binary64.toInt_truncate`); what does not fit is saturated.

Values with a positive sign are closed under sums, and under products with and quotients by positive
numbers; decimal literals are such values. Zero is neutral to them on both sides of a sum
(`Binary64.IsPlus.zero_add`, `Binary64.IsPlus.add_zero`), which it is not to the negative zero.
-/

namespace MetricAlgebra.Binary64

open Float.Model Float.Model.UnpackedFloat

/-! ## Rational values and rounding -/

/-- The rational number that a finite value is. -/
def toRat? (x : Float) : Option ℚ :=
  match x.toModel.unpack with
  | .zero _ => some 0
  | .finite sign m e _ => some (sign.apply m * 2 ^ e)
  | _ => none

/-- The nearest integer, where a half goes away from zero. -/
def halfAway (q : ℚ) : ℤ :=
  if 0 ≤ q then ⌊q + 1 / 2⌋ else ⌈q - 1 / 2⌉

/-- The finite values are the rational ones. -/
theorem isFinite_iff (x : Float) : x.isFinite = true ↔ ∃ q, toRat? x = some q := by
  unfold Float.isFinite Float.Model.isFinite toRat?
  cases x.toModel.unpack <;> simp [UnpackedFloat.isFinite]

/-- A half goes away from zero on both sides. -/
theorem halfAway_neg {q : ℚ} (hq : 0 < q) : halfAway (-q) = -halfAway q := by
  unfold halfAway
  rw [if_neg (by linarith), if_pos hq.le, ← Int.ceil_neg]
  congr 1
  ring

/-- An integer is its own nearest one. -/
theorem halfAway_intCast (n : ℤ) : halfAway n = n := by
  unfold halfAway
  split
  · rw [Int.floor_intCast_add, show ⌊(1 / 2 : ℚ)⌋ = 0 by norm_num, add_zero]
  · rw [sub_eq_add_neg, Int.ceil_intCast_add, show ⌈(-(1 / 2) : ℚ)⌉ = 0 by norm_num, add_zero]

/-- Rounding half up, as the integer part of a half more. -/
theorem halfAway_eq_roundHalfUp (m : ℕ) (e : ℤ) :
    halfAway (m * 2 ^ e) = roundHalfUp m e := by
  have hq : (0 : ℚ) ≤ m * 2 ^ e := by positivity
  unfold halfAway roundHalfUp
  rw [if_pos hq]
  by_cases he : 0 ≤ e
  · rw [if_pos he]
    obtain ⟨k, rfl⟩ := Int.eq_ofNat_of_zero_le he
    have hint : (m : ℚ) * 2 ^ (k : ℤ) = ((m * Nat.pow 2 k : ℕ) : ℤ) := by
      push_cast
      simp
    rw [hint, Int.floor_intCast_add, show ⌊(1 / 2 : ℚ)⌋ = 0 by norm_num]
    simp
  · rw [if_neg he]
    -- Below the point, adding a half is adding half of the divisor before dividing.
    obtain ⟨k, rfl⟩ : ∃ k : ℕ, e = -(k + 1 : ℕ) := ⟨(-e).toNat - 1, by omega⟩
    have hhalf : (m : ℚ) * 2 ^ (-((k + 1 : ℕ) : ℤ)) + 1 / 2 =
        ((m + 2 ^ k : ℕ) : ℤ) / ((2 ^ (k + 1) : ℕ) : ℚ) := by
      push_cast
      rw [zpow_neg, ← Nat.cast_succ, zpow_natCast, pow_succ]
      field_simp
    rw [hhalf, Rat.floor_intCast_div_natCast]
    simp

/-- Rounding a finite value goes to the nearest integer, with a half away from zero, and
saturates. -/
theorem round_eq_halfAway {x : Float} {q : ℚ} (h : toRat? x = some q) :
    round x = Int64.ofIntClamp (halfAway q) := by
  unfold toRat? at h
  unfold round
  split at h
  · rename_i hx
    rw [hx]
    obtain rfl := Option.some.inj h
    have hzero : halfAway 0 = 0 := by
      unfold halfAway
      norm_num
    rw [hzero]
    rfl
  · rename_i sign m e hm hx
    rw [hx]
    obtain rfl := Option.some.inj h
    show Int64.ofIntClamp (sign.apply (roundHalfUp m e)) = _
    congr 1
    cases sign with
    | positive => exact (halfAway_eq_roundHalfUp m e).symm
    | negative =>
      have hq : (0 : ℚ) < m * 2 ^ e := by positivity
      show -(roundHalfUp m e : ℤ) = halfAway ((-m : ℤ) * 2 ^ e)
      rw [← halfAway_eq_roundHalfUp, ← halfAway_neg hq]
      congr 1
      push_cast
      ring
  · cases h

/-! ## Integer parts -/

/-- A number without what is behind the point. -/
def intPart (q : ℚ) : ℤ := if 0 ≤ q then ⌊q⌋ else ⌈q⌉

/-- The mantissa is shifted until its last bit is that before the point. -/
theorem exists_roundToInt_eq (s : Sign) (m : ℕ) (e : ℤ) :
    ∃ n : ℕ, ⌊(m : ℚ) * 2 ^ e⌋ = n ∧ roundToInt s m e = s.apply n := by
  let k := e.toNat
  let n := (0 - (e - k)).toNat
  have hlocates : Locates (ExtendedMantissa.ofMantissaAndAccuracy (m <<< k) .exact >>> n)
      ((m <<< k : ℕ) / 2 ^ n) := (locates_exact (m <<< k)).shiftRight n
  have hv : ((m <<< k : ℕ) : ℚ) / 2 ^ n = m * 2 ^ e := by
    have hn : e - k = -n := by omega
    rw [← mul_zpow_shiftLeft m k e, hn, zpow_neg, zpow_natCast]
    rfl
  rw [hv] at hlocates
  refine ⟨_, hlocates.floor_eq, ?_⟩
  show s.apply (ExtendedMantissa.ofMantissaAndAccuracy (m <<< (e - 0).toNat) .exact >>>
    (0 - (e - ((e - 0).toNat : ℤ))).toNat).mantissa = _
  rw [sub_zero]

/-- The integer part of a finite value. -/
theorem roundToInt_eq_intPart (s : Sign) (m : ℕ) (e : ℤ) :
    roundToInt s m e = intPart (s.apply m * 2 ^ e) := by
  obtain ⟨n, hfloor, hround⟩ := exists_roundToInt_eq s m e
  have hq : (0 : ℚ) ≤ m * 2 ^ e := by positivity
  rw [hround]
  cases s with
  | positive =>
    show (n : ℤ) = intPart (((m : ℤ) : ℚ) * 2 ^ e)
    rw [Int.cast_natCast, intPart, if_pos hq, hfloor]
  | negative =>
    show -(n : ℤ) = intPart (((-(m : ℤ) : ℤ) : ℚ) * 2 ^ e)
    have hneg : ((-(m : ℤ) : ℤ) : ℚ) * 2 ^ e = -(m * 2 ^ e) := by
      push_cast
      ring
    rw [hneg, ← hfloor, ← Int.ceil_neg, intPart]
    split
    · -- Only zero is neither above nor below zero.
      rename_i hnonneg
      have hzero : (m : ℚ) * 2 ^ e = 0 := by linarith
      rw [hzero]
      norm_num
    · rfl

/-- Clamping to 64 bits. -/
theorem toInt_ofIntClamp (z : ℤ) :
    (Int64.ofIntClamp z).toInt = max (-2 ^ 63) (min z (2 ^ 63 - 1)) := by
  by_cases hmin : Int64.minValue.toInt ≤ z
  · by_cases hmax : z ≤ Int64.maxValue.toInt
    · rw [Int64.toInt_ofIntClamp hmin hmax]
      change -2 ^ 63 ≤ z at hmin
      change z ≤ 2 ^ 63 - 1 at hmax
      omega
    · rw [Int64.ofIntClamp, dif_pos hmin, dif_neg hmax]
      change ¬ z ≤ 2 ^ 63 - 1 at hmax
      show (2 ^ 63 - 1 : ℤ) = _
      omega
  · rw [Int64.ofIntClamp, dif_neg hmin]
    change ¬ -2 ^ 63 ≤ z at hmin
    show (-2 ^ 63 : ℤ) = _
    omega

/-- The integer part of a value, held between the least and the greatest integer of 64 bits, which
are those of the infinite values; zero for what is not a number. -/
def saturated (x : Float) : ℤ :=
  match toRat? x with
  | some q => max (-2 ^ 63) (min (intPart q) (2 ^ 63 - 1))
  | none => if 0.0 < x then 2 ^ 63 - 1 else if x < 0.0 then -2 ^ 63 else 0

/-- Truncating gives the integer part, saturated. -/
theorem toInt_truncate (x : Float) : (truncate x).toInt = saturated x := by
  have hself : x = .ofModel (.pack x.toModel.unpack) := (Float.ofBits_toBits x).symm
  show (Int64.ofIntClamp (toInt Int64.minValue.toInt Int64.maxValue.toInt x.toModel.unpack)).toInt =
    saturated x
  cases hx : x.toModel.unpack with
  | notANumber =>
    rw [hx] at hself
    rw [hself]
    decide +kernel
  | infinity s =>
    rw [hx] at hself
    rw [hself]
    cases s <;> decide +kernel
  | zero s =>
    have hzero : toRat? x = some 0 := by rw [toRat?, hx]
    have hpart : intPart 0 = 0 := by
      unfold intPart
      norm_num
    rw [saturated, hzero]
    dsimp only
    rw [hpart]
    rfl
  | finite s m e hm =>
    have hvalue : toRat? x = some ((s.apply m : ℤ) * (2 : ℚ) ^ e) := by rw [toRat?, hx]
    show (Int64.ofIntClamp (roundToInt s m e)).toInt = _
    rw [saturated, hvalue, toInt_ofIntClamp, roundToInt_eq_intPart]

/-! ## Signs -/

/-- The sign of a number, of a zero too. -/
def sign? : UnpackedFloat → Option Sign
  | .notANumber => none
  | .infinity s => some s
  | .zero s => some s
  | .finite s _ _ _ => some s

/-- A number with a positive sign. -/
def IsPlus (x : Float) : Prop := sign? x.toModel.unpack = some .positive

/-- The sign of parts whose exponent is not the greatest one. -/
theorem sign?_unpack_packComponents (s : Sign) {e : BitVec 11} (m : BitVec 52) (he : e ≠ -1#11) :
    sign? (unpack .binary64 (packComponents .binary64 s e m)) = some s := by
  unfold UnpackedFloat.unpack
  simp only [unpackExponent_packComponents, unpackMantissa_packComponents,
    unpackSign_packComponents, Sign.ofBitVec_toBitVec]
  rw [if_neg he]
  split
  · split <;> rfl
  · rfl

/-- Packing keeps the sign. -/
theorem sign?_unpack_pack (u : UnpackedFloat) : sign? (Float.Model.pack u).unpack = sign? u := by
  have hinf (s : Sign) : sign? (unpack .binary64 (packedInfinity .binary64 s)) = some s := by
    cases s <;> rfl
  show sign? (unpack .binary64 (UnpackedFloat.pack .binary64 u)) = sign? u
  cases u with
  | notANumber => rfl
  | infinity s => exact hinf s
  | zero s => cases s <;> rfl
  | finite s m e hm =>
    unfold UnpackedFloat.pack
    dsimp only
    -- What is too great becomes infinite; below that, the greatest exponent is not reached, so that
    -- the parts are those of a number.
    split
    · exact hinf s
    · rename_i hsmall
      split
      · refine sign?_unpack_packComponents s _ fun h => hsmall ?_
        have hn := congrArg BitVec.toNat h
        rw [BitVec.toNat_ofNat, Nat.mod_eq_of_lt (by omega)] at hn
        rw [hn]
        decide
      · exact sign?_unpack_packComponents s _ (by decide)

/-- Rounding keeps the sign. -/
theorem sign?_roundWithAccuracy (spec : Format) (s : Sign) (m : Nat) (e : Int) (a : Accuracy) :
    sign? (roundWithAccuracy spec s m e a) = some s := by
  unfold roundWithAccuracy
  dsimp only
  split <;> rfl

/-- Normalizing a number that is not negative keeps it so. -/
theorem sign?_normalize (spec : Format) {m : Int} (hm : 0 ≤ m) (e : Int) :
    sign? (UnpackedFloat.normalize spec m e .positive) = some .positive := by
  unfold UnpackedFloat.normalize UnpackedFloat.round
  rcases Int.lt_or_eq_of_le hm with h | h
  · rw [Int.compare_eq_gt.2 h]
    exact sign?_roundWithAccuracy spec .positive _ _ _
  · rw [← h]
    rfl

/-- Whether a value is finite, with a positive sign, and not zero. -/
def isPositive (x : Float) : Bool :=
  match x.toModel.unpack with
  | .finite .positive _ _ _ => true
  | _ => false

/-- A value with a positive sign is infinite, zero or positive. -/
theorem IsPlus.eq_or {x : Float} (hx : IsPlus x) :
    x.toModel.unpack = .infinity .positive ∨ x.toModel.unpack = .zero .positive ∨
      ∃ m e hm, x.toModel.unpack = .finite .positive m e hm := by
  unfold IsPlus at hx
  cases h : x.toModel.unpack with
  | notANumber => rw [h] at hx; cases hx
  | infinity s => rw [h] at hx; cases hx; exact .inl rfl
  | zero s => rw [h] at hx; cases hx; exact .inr (.inl rfl)
  | finite s m e hm => rw [h] at hx; cases hx; exact .inr (.inr ⟨m, e, hm, rfl⟩)

/-- A positive value is finite. -/
theorem exists_eq_finite {x : Float} (hx : isPositive x = true) :
    ∃ m e hm, x.toModel.unpack = .finite .positive m e hm := by
  unfold isPositive at hx
  split at hx
  · rename_i m e hm h
    exact ⟨m, e, hm, h⟩
  · cases hx

/-- A product with a positive number keeps a positive sign. -/
theorem IsPlus.mul {x y : Float} (hx : IsPlus x) (hy : isPositive y = true) : IsPlus (x * y) := by
  obtain ⟨m, e, hm, hy⟩ := exists_eq_finite hy
  show sign? (Float.Model.pack (UnpackedFloat.mul .binary64 _ _)).unpack = _
  rw [sign?_unpack_pack, hy]
  rcases hx.eq_or with h | h | ⟨m', e', hm', h⟩
  · rw [h]
    rfl
  · rw [h]
    rfl
  · rw [h]
    exact sign?_roundWithAccuracy _ _ _ _ _

/-- A quotient by a positive number keeps a positive sign. -/
theorem IsPlus.div {x y : Float} (hx : IsPlus x) (hy : isPositive y = true) : IsPlus (x / y) := by
  obtain ⟨m, e, hm, hy⟩ := exists_eq_finite hy
  show sign? (Float.Model.pack (UnpackedFloat.div .binary64 _ _)).unpack = _
  rw [sign?_unpack_pack, hy]
  rcases hx.eq_or with h | h | ⟨m', e', hm', h⟩
  · rw [h]
    rfl
  · rw [h]
    rfl
  · rw [h]
    exact sign?_roundWithAccuracy _ _ _ _ _

/-- The powers of ten that scale short literals are positive. -/
theorem isPositive_powerOfTen :
    ∀ (e : Nat) (he : e < Float.exactlyRepresentablePowersOfTen.size),
      isPositive (Float.exactlyRepresentablePowersOfTen[e]) = true := by
  decide +kernel

/-- What decimal digits write has a positive sign. -/
theorem isPlus_ofScientific (m : Nat) (negative : Bool) (e : Nat) :
    IsPlus (Float.ofScientific m negative e) := by
  unfold Float.ofScientific
  split
  · rename_i hsmall
    -- Short literals are scaled by a power of ten that is known exactly.
    have hm : IsPlus m.toUInt64.toFloat := by
      show sign? (Float.Model.pack (UnpackedFloat.normalize _ _ _ _)).unpack = _
      rw [sign?_unpack_pack]
      exact sign?_normalize _ (by omega) _
    dsimp only
    split
    · exact hm.div (isPositive_powerOfTen e _)
    · exact hm.mul (isPositive_powerOfTen e _)
  · show sign? (Float.Model.pack (UnpackedFloat.ofScientific _ _ _)).unpack = _
    rw [sign?_unpack_pack]
    generalize (if negative then Int.negOfNat e else Int.ofNat e) = exponent
    unfold UnpackedFloat.ofScientific
    split_ifs
    · rfl
    · rfl
    · rfl
    · exact sign?_roundWithAccuracy _ _ _ _ _
    · exact sign?_roundWithAccuracy _ _ _ _ _

/-- A sum of values with a positive sign has one. -/
theorem IsPlus.add {x y : Float} (hx : IsPlus x) (hy : IsPlus y) : IsPlus (x + y) := by
  show sign? (Float.Model.pack (UnpackedFloat.add .binary64 _ _)).unpack = _
  rw [sign?_unpack_pack]
  -- Only two positive numbers are rounded; every other sum is one of the summands.
  rcases hx.eq_or with h | h | ⟨m, e, hm, h⟩ <;>
    rcases hy.eq_or with h' | h' | ⟨m', e', hm', h'⟩ <;> rw [h, h'] <;> try rfl
  exact sign?_normalize _ (Int.add_nonneg (Int.natCast_nonneg _) (Int.natCast_nonneg _)) _

/-- The zero that the sums start from. -/
theorem zero_eq : (0.0 : Float) = .ofModel (Float.Model.pack (.zero .positive)) := by
  decide +kernel

/-- Nothing is added in front of a value with a positive sign. -/
theorem IsPlus.zero_add {x : Float} (hx : IsPlus x) : 0.0 + x = x := by
  have hsum :
      UnpackedFloat.add .binary64 (.zero .positive) x.toModel.unpack = x.toModel.unpack := by
    rcases hx.eq_or with h | h | ⟨m, e, hm, h⟩ <;> rw [h] <;> rfl
  calc 0.0 + x
      = .ofModel (.pack (UnpackedFloat.add .binary64 (.zero .positive) x.toModel.unpack)) := by
        rw [zero_eq]
        rfl
    _ = x := by
        rw [hsum]
        exact Float.ofBits_toBits x

/-- Nothing is added behind a value with a positive sign. -/
theorem IsPlus.add_zero {x : Float} (hx : IsPlus x) : x + 0.0 = x := by
  have hsum :
      UnpackedFloat.add .binary64 x.toModel.unpack (.zero .positive) = x.toModel.unpack := by
    rcases hx.eq_or with h | h | ⟨m, e, hm, h⟩ <;> rw [h] <;> rfl
  calc x + 0.0
      = .ofModel (.pack (UnpackedFloat.add .binary64 x.toModel.unpack (.zero .positive))) := by
        rw [zero_eq]
        rfl
    _ = x := by
        rw [hsum]
        exact Float.ofBits_toBits x

end MetricAlgebra.Binary64
