import MetricAlgebra.Proofs.Rounding
import MetricAlgebra.Decimal.Literal

/-!
# Decimal literals of one number have one value

The value nearest to `m * 10 ^ e` depends on that number alone, not on the digits and the exponent
that it is given by (`Decimal.scaled_congr`), and it is the number itself where that is a value
(`Decimal.scaled_eq`).
-/

namespace MetricAlgebra.Decimal

open Binary64 Float.Model Float.Model.UnpackedFloat

/-! ## Literals -/

/-- A literal is evaluated by rounding its number. -/
theorem rounds_ofScientific {m : ℕ} {e : ℤ} (hm : 0 < m) (hle : e ≤ 2048)
    (hge : -(2048 + (m.log2 : ℤ)) ≤ e) :
    Rounds (m * 10 ^ e) (UnpackedFloat.ofScientific .binary64 m e) := by
  have hm' : (1 : ℚ) ≤ m := by exact_mod_cast hm
  unfold UnpackedFloat.ofScientific
  rw [dif_neg hm.ne', if_neg (by change ¬ (2048 < e); omega),
    if_neg (by change ¬ (e < -(2048 + (m.log2 : ℤ))); omega)]
  split
  · rename_i hpos
    obtain ⟨n, rfl⟩ := Int.eq_ofNat_of_zero_le hpos
    have hv : (m : ℚ) * (10 : ℚ) ^ (n : ℤ) =
        ((m <<< 53 : ℕ) : ℚ) * 2 ^ (-53 : ℤ) * (((10 ^ n : ℕ) : ℚ) * 2 ^ (0 : ℤ)) := by
      rw [Nat.shiftLeft_eq, zpow_natCast, zpow_neg, zpow_zero, mul_one]
      push_cast
      field_simp
    rw [hv]
    refine rounds_mul _ _ ?_
    -- The number is at least one, so that the places cut off are behind the point.
    have hlog : 0 ≤ Int.log 2 ((m : ℚ) * 10 ^ (n : ℤ)) := by
      refine (Int.zpow_le_iff_le_log (by norm_num) (by positivity)).1 ?_
      rw [zpow_zero, zpow_natCast]
      have : (1 : ℚ) ≤ 10 ^ n := one_le_pow₀ (by norm_num)
      nlinarith
    rw [← hv]
    unfold targetOf
    rw [targetExponent_eq]
    omega
  · rename_i hneg
    obtain ⟨n, rfl⟩ : ∃ n : ℕ, e = -n := ⟨(-e).toNat, by omega⟩
    have hv : (m : ℚ) * 10 ^ (-n : ℤ) =
        m * 2 ^ (0 : ℤ) / (((10 ^ (- -(n : ℤ)).toNat : ℕ) : ℚ) * 2 ^ (0 : ℤ)) := by
      rw [neg_neg, Int.toNat_natCast, zpow_neg, zpow_natCast]
      push_cast
      field_simp
    rw [hv]
    exact rounds_div _ _

/-- Whether a value is a power of ten. -/
def isPowerOfTen (x : Float) (e : ℕ) : Bool :=
  match x.toModel.unpack with
  | .finite .positive m q _ => m * 2 ^ q.toNat == 10 ^ e * 2 ^ (-q).toNat
  | _ => false

/-- The powers of ten that scale short literals are exact. -/
theorem isPowerOfTen_powersOfTen :
    ∀ (e : ℕ) (he : e < Float.exactlyRepresentablePowersOfTen.size),
      isPowerOfTen Float.exactlyRepresentablePowersOfTen[e] e = true := by
  decide +kernel

/-- The parts of a power of ten. -/
theorem exists_unpack_powersOfTen (e : ℕ) (he : e < Float.exactlyRepresentablePowersOfTen.size) :
    ∃ m q hm, Float.exactlyRepresentablePowersOfTen[e].toModel.unpack = .finite .positive m q hm ∧
      (m : ℚ) * 2 ^ q = 10 ^ e := by
  have h := isPowerOfTen_powersOfTen e he
  unfold isPowerOfTen at h
  split at h
  · rename_i m q hm hx
    have hv : (m : ℚ) * 2 ^ q.toNat = 10 ^ e * 2 ^ (-q).toNat := by
      exact_mod_cast (by simpa using h : m * 2 ^ q.toNat = 10 ^ e * 2 ^ (-q).toNat)
    have hq : (2 : ℚ) ^ q = 2 ^ q.toNat / 2 ^ (-q).toNat := by
      rw [← zpow_natCast, ← zpow_natCast, ← zpow_sub₀ two_ne_zero]
      congr 1
      omega
    refine ⟨m, q, hm, hx, ?_⟩
    rw [hq]
    field_simp
    linarith
  · cases h

/-- An integer of few bits is a value, whose mantissa has all its bits. -/
theorem exists_unpack_toFloat {n : ℕ} (hn : 0 < n) (hlt : n < 2 ^ 53) :
    ∃ m q hm, n.toUInt64.toFloat.toModel.unpack = .finite .positive m q hm ∧
      (m : ℚ) * 2 ^ q = n ∧ m.log2 = 52 := by
  have hlog := (Nat.log2_lt hn.ne').2 hlt
  obtain ⟨k, hk⟩ : ∃ k, n.log2 + k = 52 := ⟨52 - n.log2, by omega⟩
  have hm : 0 < n * 2 ^ k := by positivity
  have hlow : 2 ^ 52 ≤ n * 2 ^ k := by
    rw [← hk, pow_add]
    exact Nat.mul_le_mul_right _ (Nat.log2_self_le hn.ne')
  have hhigh : n * 2 ^ k < 2 ^ 53 := by
    rw [show 53 = n.log2 + 1 + k by omega, pow_add _ (n.log2 + 1)]
    exact Nat.mul_lt_mul_of_pos_right Nat.lt_log2_self (by positivity)
  have hcanonical : Canonical (n * 2 ^ k) (-k) := ⟨hm, by rw [log2_eq hlow hhigh]; omega⟩
  refine ⟨n * 2 ^ k, -k, hm, ?_, ?_, log2_eq hlow hhigh⟩
  · have hround : UnpackedFloat.ofUInt64 .binary64 n.toUInt64 =
        .finite .positive (n * 2 ^ k) (-k) hm := by
      have htoNat : n.toUInt64.toNat = n := by
        exact UInt64.toNat_ofNat_of_lt' (by change n < 2 ^ 64; omega)
      have hself : UnpackedFloat.ofUInt64 .binary64 n.toUInt64 =
          UnpackedFloat.round .binary64 .positive n 0 := by
        unfold UnpackedFloat.ofUInt64 UnpackedFloat.ofNat UnpackedFloat.ofInt
          UnpackedFloat.normalize
        rw [htoNat, Int.compare_eq_gt.2 (by omega)]
        rfl
      -- The integer with all its bits is in canonical form, so that there is nothing to round.
      have hv : ((n * 2 ^ k : ℕ) : ℚ) * 2 ^ (-(k : ℤ)) = n * 2 ^ (0 : ℤ) := by
        push_cast
        rw [zpow_neg, zpow_natCast]
        field_simp
      have hpos : (0 : ℚ) < n * 2 ^ (0 : ℤ) := by
        have : (0 : ℚ) < n := by exact_mod_cast hn
        positivity
      rw [hself]
      exact (rounds_round hn 0).unique hpos (hv ▸ hcanonical.rounds)
    show (Float.Model.pack (UnpackedFloat.ofUInt64 .binary64 n.toUInt64)).unpack = _
    rw [hround]
    exact hcanonical.unpack_pack (by omega) .positive
  · push_cast
    rw [zpow_neg, zpow_natCast]
    field_simp

/-- The parts of a product are long enough to round it if one of them has all its bits. -/
theorem le_targetOf_mul {m₁ m₂ : ℕ} (e₁ e₂ : ℤ) (h₁ : 0 < m₁) (hlog : m₁.log2 = 52)
    (h₂ : 0 < m₂) : e₁ + e₂ ≤ targetOf (m₁ * 2 ^ e₁ * (m₂ * 2 ^ e₂)) := by
  have hm₂ : (1 : ℚ) ≤ m₂ := by exact_mod_cast h₂
  have hm₁ : (2 : ℚ) ^ 52 ≤ m₁ := by
    have := Nat.log2_self_le h₁.ne'
    rw [hlog] at this
    exact_mod_cast this
  have hle : ((2 : ℕ) : ℚ) ^ (52 + (e₁ + e₂)) ≤ m₁ * 2 ^ e₁ * (m₂ * 2 ^ e₂) := by
    push_cast
    calc (2 : ℚ) ^ (52 + (e₁ + e₂)) = 2 ^ 52 * 2 ^ e₁ * (1 * 2 ^ e₂) := by
          rw [zpow_add₀ two_ne_zero, zpow_add₀ two_ne_zero]
          norm_num
          ring
      _ ≤ m₁ * 2 ^ e₁ * (m₂ * 2 ^ e₂) := by gcongr
  have hv : (0 : ℚ) < m₁ * 2 ^ e₁ * (m₂ * 2 ^ e₂) := lt_of_lt_of_le (by positivity) hle
  have := (Int.zpow_le_iff_le_log (by norm_num) hv).1 hle
  unfold targetOf
  rw [targetExponent_eq]
  omega

/-- The value nearest to a number that is not too large or too small is what it is rounded to. -/
theorem exists_scaled_eq {m : ℕ} {e : ℤ} (hm : 0 < m) (hle : e ≤ 2048)
    (hge : -(2048 + (m.log2 : ℤ)) ≤ e) :
    ∃ u, Rounds (m * 10 ^ e) u ∧ scaled m e = .ofModel (.pack u) := by
  unfold scaled Float.ofScientific
  split
  · rename_i hshort
    obtain ⟨m₁, e₁, hm₁, hx₁, hv₁, hlog₁⟩ := exists_unpack_toFloat hm hshort.1
    have hlt : e.natAbs < Float.exactlyRepresentablePowersOfTen.size := by
      change e.natAbs < 23
      omega
    obtain ⟨m₂, e₂, hm₂, hx₂, hv₂⟩ := exists_unpack_powersOfTen e.natAbs hlt
    dsimp only
    split
    · rename_i hneg
      have hv : (m : ℚ) * 10 ^ e = m₁ * 2 ^ e₁ / (m₂ * 2 ^ e₂) := by
        rw [hv₁, hv₂, ← zpow_natCast, Int.natCast_natAbs, abs_of_neg (by simpa using hneg),
          zpow_neg, div_inv_eq_mul]
      refine ⟨UnpackedFloat.div .binary64 (.finite .positive m₁ e₁ hm₁)
        (.finite .positive m₂ e₂ hm₂), ?_, ?_⟩
      · rw [hv]
        exact rounds_div hm₁ hm₂
      · show Float.ofModel (.pack (UnpackedFloat.div .binary64 _ _)) = _
        rw [hx₁, hx₂]
    · rename_i hpos
      have hv : (m : ℚ) * 10 ^ e = m₁ * 2 ^ e₁ * (m₂ * 2 ^ e₂) := by
        rw [hv₁, hv₂, ← zpow_natCast, Int.natCast_natAbs, abs_of_nonneg (by simpa using hpos)]
      refine ⟨UnpackedFloat.mul .binary64 (.finite .positive m₁ e₁ hm₁)
        (.finite .positive m₂ e₂ hm₂), ?_, ?_⟩
      · rw [hv]
        exact rounds_mul hm₁ hm₂ (le_targetOf_mul e₁ e₂ hm₁ hlog₁ hm₂)
      · show Float.ofModel (.pack (UnpackedFloat.mul .binary64 _ _)) = _
        rw [hx₁, hx₂]
  · have hexponent :
        (if decide (e < 0) = true then Int.negOfNat e.natAbs else Int.ofNat e.natAbs) = e := by
      split
      · rename_i hneg
        have := of_decide_eq_true hneg
        rw [Int.negOfNat_eq]
        show -(e.natAbs : ℤ) = e
        omega
      · rename_i hpos
        have : ¬ e < 0 := by simpa using hpos
        show (e.natAbs : ℤ) = e
        omega
    refine ⟨_, rounds_ofScientific hm hle hge, ?_⟩
    dsimp only
    rw [hexponent]
    rfl

/-- Literals of one number have one value. -/
theorem scaled_congr {m m' : ℕ} {e e' : ℤ} (hm : 0 < m) (he : e.natAbs ≤ 2048)
    (he' : e'.natAbs ≤ 2048) (h : (m : ℚ) * 10 ^ e = m' * 10 ^ e') : scaled m e = scaled m' e' := by
  have hv : (0 : ℚ) < m * 10 ^ e := by
    have : (0 : ℚ) < m := by exact_mod_cast hm
    positivity
  have hm' : 0 < m' := by
    by_contra hzero
    obtain rfl : m' = 0 := by omega
    rw [h] at hv
    simp at hv
  obtain ⟨u, hu, heq⟩ := exists_scaled_eq (e := e) hm (by omega) (by omega)
  obtain ⟨u', hu', heq'⟩ := exists_scaled_eq (e := e') hm' (by omega) (by omega)
  rw [← h] at hu'
  rw [heq, heq', hu.unique hv hu']

/-- Unpacking a value and packing it gives the value. -/
theorem ofModel_pack_unpack (x : Float) : Float.ofModel (.pack x.toModel.unpack) = x :=
  Float.ofBits_toBits x

/-- A literal of a value is that value. -/
theorem scaled_eq {x : Float} {m m' : ℕ} {q e : ℤ} {hm : 0 < m}
    (hx : x.toModel.unpack = .finite .positive m q hm) (he : e.natAbs ≤ 2048)
    (h : (m' : ℚ) * 10 ^ e = m * 2 ^ q) : scaled m' e = x := by
  have hv : (0 : ℚ) < m * 2 ^ q := by
    have : (0 : ℚ) < m := by exact_mod_cast hm
    positivity
  have hm' : 0 < m' := by
    by_contra hzero
    obtain rfl : m' = 0 := by omega
    rw [← h] at hv
    simp at hv
  obtain ⟨u, hu, heq⟩ := exists_scaled_eq (e := e) hm' (by omega) (by omega)
  rw [h] at hu
  rw [heq, hu.unique hv (canonical_of_unpack hx).1.rounds, ← hx, ofModel_pack_unpack]

/-- Zero is packed and unpacked again. -/
theorem unpack_pack_zero : (Float.Model.pack (.zero .positive)).unpack = .zero .positive := by
  show UnpackedFloat.unpack .binary64 (packComponents .binary64 .positive 0#11 0#52) = _
  unfold UnpackedFloat.unpack
  simp only [unpackMantissa_packComponents, unpackExponent_packComponents,
    unpackSign_packComponents, Sign.ofBitVec_toBitVec]
  rfl

/-- A literal whose digits are all zero is zero. -/
theorem scaled_zero (e : ℤ) : scaled 0 e = .ofModel (.pack (.zero .positive)) := by
  unfold scaled Float.ofScientific
  split
  · rename_i hshort
    have hlt : e.natAbs < Float.exactlyRepresentablePowersOfTen.size := by
      change e.natAbs < 23
      omega
    obtain ⟨m, q, hm, hx, -⟩ := exists_unpack_powersOfTen e.natAbs hlt
    have hzero : (0 : ℕ).toUInt64.toFloat = .ofModel (.pack (.zero .positive)) := by
      decide +kernel
    dsimp only
    rw [hzero]
    split
    · show Float.ofModel (.pack (UnpackedFloat.div .binary64 (Float.Model.pack _).unpack _)) = _
      rw [hx, unpack_pack_zero]
      rfl
    · show Float.ofModel (.pack (UnpackedFloat.mul .binary64 (Float.Model.pack _).unpack _)) = _
      rw [hx, unpack_pack_zero]
      rfl
  · rfl

end MetricAlgebra.Decimal
