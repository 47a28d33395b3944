import MetricAlgebra.Proofs.Decimal
import MetricAlgebra.Proofs.FloatOrder
import MetricAlgebra.Proofs.Nearest

/-!
# Exact results, rounded once

A sum, a difference and a product of finite values are what the exact result is rounded to
(`Binary64.toRat?_add`, `Binary64.toRat?_sub`, `Binary64.toRat?_mul`), as long as that is not too
large; and so are the value of a decimal literal (`Decimal.toRat?_scaled`) and that of an integer
(`Decimal.toRat?_ofInt`). Therefore a result that is a value is exact, such as a sum of integers
that has few bits. Finite values are compared as the numbers that they are
(`Binary64.le_iff_of_toRat?`).
-/

namespace MetricAlgebra.Binary64

open Float.Model Float.Model.UnpackedFloat

/-! ## Operations -/

/-- A bound below which every number is rounded to a finite value. -/
def finiteBound : ℚ := 2 ^ (1023 : ℤ)

/-- The numbers of 64 bits are far below the bound. -/
theorem lt_finiteBound {v : ℚ} (hv : v ≤ 2 ^ 64) : v < finiteBound := by
  have h : (2 : ℚ) ^ (64 : ℤ) < 2 ^ (1023 : ℤ) :=
    zpow_lt_zpow_right₀ (by norm_num) (by norm_num)
  exact lt_of_le_of_lt hv h

/-- The parts of a product are long enough to round it. -/
theorem Canonical.add_le_targetOf {m₁ m₂ : ℕ} {e₁ e₂ : ℤ} (h₁ : Canonical m₁ e₁)
    (h₂ : Canonical m₂ e₂) : e₁ + e₂ ≤ targetOf (m₁ * 2 ^ e₁ * (m₂ * 2 ^ e₂)) := by
  have he₁ := h₁.exponent_eq
  have he₂ := h₂.exponent_eq
  -- One of the mantissas has all its bits, or both exponents are the least one.
  rcases (by omega : m₁.log2 = 52 ∨ m₂.log2 = 52 ∨ (e₁ = -1074 ∧ e₂ = -1074)) with
    hlog | hlog | ⟨rfl, rfl⟩
  · exact Decimal.le_targetOf_mul e₁ e₂ h₁.pos hlog h₂.pos
  · rw [add_comm, mul_comm ((m₁ : ℚ) * 2 ^ e₁)]
    exact Decimal.le_targetOf_mul e₂ e₁ h₂.pos hlog h₁.pos
  · exact le_trans (by norm_num) (le_targetOf _)

/-- Zero is packed and unpacked again. -/
theorem toRat?_zero (s : Sign) : toRat? (.ofModel (.pack (.zero s))) = some 0 := by
  cases s <;> decide +kernel

/-- A value in canonical form that is not too large is packed and unpacked again. -/
theorem Canonical.toRat?_eq {m : ℕ} {e : ℤ} (h : Canonical m e) (he : e ≤ 971) (s : Sign) :
    toRat? (.ofModel (.pack (.finite s m e h.pos))) = some ((s.apply m : ℚ) * 2 ^ e) := by
  have hunpack : (Float.ofModel (.pack (.finite s m e h.pos))).toModel.unpack =
      .finite s m e h.pos := h.unpack_pack he s
  unfold toRat?
  rw [hunpack]

/-- After rounding, a mantissa of one bit too many is shifted once more, where nothing is lost. -/
theorem exists_carry_eq {r : ℕ} {t : ℤ} (hr : r ≤ 2 ^ 53) (ht : -1074 ≤ t)
    (hlong : t = -1074 ∨ 2 ^ 52 ≤ r) :
    ∃ m e, shiftToTargetExponent .binary64 r t .exact = (⟨m, false, false⟩, e) ∧
      (m : ℚ) * 2 ^ e = r * 2 ^ t ∧ e ≤ t + 1 ∧ (0 < m → Canonical m e) := by
  rcases hr.lt_or_eq with hlt | rfl
  · have hlog : r.log2 ≤ 52 := by
      rcases eq_or_ne r 0 with rfl | hne
      · decide
      · have := (Nat.log2_lt hne).2 hlt
        omega
    have hstay : (Format.binary64.targetExponent (totalExponent r t) - t).toNat = 0 := by
      unfold totalExponent
      rw [targetExponent_eq]
      omega
    refine ⟨r, t, ?_, rfl, by omega, fun hpos => ⟨hpos, ?_⟩⟩
    · unfold shiftToTargetExponent shiftToExponent
      dsimp only
      rw [hstay, Nat.cast_zero, add_zero]
      rfl
    · rcases hlong with hleast | hlow
      · omega
      · rw [log2_eq hlow hlt]
        omega
  · have hlog : (2 ^ 53 : ℕ).log2 = 53 := Nat.log2_two_pow
    have hshift : (Format.binary64.targetExponent (totalExponent (2 ^ 53) t) - t).toNat = 1 := by
      unfold totalExponent
      rw [targetExponent_eq, hlog]
      omega
    refine ⟨2 ^ 52, t + 1, ?_, ?_, le_rfl, fun hpos => ⟨hpos, ?_⟩⟩
    · unfold shiftToTargetExponent shiftToExponent
      dsimp only
      rw [hshift]
      rfl
    · rw [zpow_add_one₀ two_ne_zero]
      push_cast
      ring
    · rw [Nat.log2_two_pow]
      omega

/-- The nearest value to a number with a sign. -/
theorem nearest_apply_one (s : Sign) (v : ℚ) :
    nearest ((s.apply 1 : ℤ) * v) = (s.apply 1 : ℤ) * nearest v := by
  cases s with
  | positive =>
    show nearest (((1 : ℤ) : ℚ) * v) = ((1 : ℤ) : ℚ) * nearest v
    rw [Int.cast_one, one_mul, one_mul]
  | negative =>
    show nearest (((-1 : ℤ) : ℚ) * v) = ((-1 : ℤ) : ℚ) * nearest v
    rw [Int.cast_neg, Int.cast_one, neg_one_mul, neg_one_mul, nearest_neg]

/-- A number with a sign is one with the sign, times the number. -/
theorem cast_apply (s : Sign) (n : ℕ) : ((s.apply n : ℤ) : ℚ) = (s.apply 1 : ℤ) * n := by
  cases s with
  | positive =>
    show ((n : ℤ) : ℚ) = ((1 : ℤ) : ℚ) * n
    rw [Int.cast_one, one_mul, Int.cast_natCast]
  | negative =>
    show ((-(n : ℤ) : ℤ) : ℚ) = ((-1 : ℤ) : ℚ) * n
    push_cast
    ring

/-- The magnitude of one with a sign. -/
theorem abs_apply_one (s : Sign) : |((s.apply 1 : ℤ) : ℚ)| = 1 := by
  cases s with
  | positive =>
    show |((1 : ℤ) : ℚ)| = 1
    rw [Int.cast_one, abs_one]
  | negative =>
    show |((-1 : ℤ) : ℚ)| = 1
    rw [Int.cast_neg, Int.cast_one, abs_neg, abs_one]

/-- The sign of a product. -/
theorem cast_apply_mul_one (s t : Sign) :
    (((s * t).apply 1 : ℤ) : ℚ) = (s.apply 1 : ℤ) * (t.apply 1 : ℤ) := by
  have h : (s * t).apply 1 = s.apply 1 * t.apply 1 := by cases s <;> cases t <;> rfl
  rw [h, Int.cast_mul]

/-- Rounding gives the nearest value, from whatever integer part of a number, if that is not cut off
too far left and the number is not too large. -/
theorem toRat?_roundWithAccuracy (s : Sign) {m : ℕ} {e : ℤ} {a : Accuracy} {v : ℚ} (hv : 0 < v)
    (hlt : v < finiteBound) (hloc : Locates (.ofMantissaAndAccuracy m a) (v / 2 ^ e))
    (he : e ≤ targetOf v) :
    toRat? (.ofModel (.pack (roundWithAccuracy .binary64 s m e a))) =
      some (nearest ((s.apply 1 : ℤ) * v)) := by
  obtain ⟨em, hem, hshift⟩ := exists_shiftToTargetExponent_eq hv hloc he
  obtain ⟨hfew, hmany⟩ := targetOf_spec hv
  have hround := hem.roundedMantissa_eq
  have hr : em.roundedMantissa ≤ 2 ^ 53 := by
    have hle : halfEven (v / 2 ^ targetOf v) ≤ 2 ^ 53 := halfEven_le (by push_cast; linarith)
    omega
  have hlong : targetOf v = -1074 ∨ 2 ^ 52 ≤ em.roundedMantissa := by
    refine hmany.imp_right fun hmany => ?_
    have hle : 2 ^ 52 ≤ halfEven (v / 2 ^ targetOf v) := le_halfEven (by push_cast; linarith)
    omega
  obtain ⟨m', e', hcarry, hvalue, hle, hcanonical⟩ := exists_carry_eq hr (le_targetOf v) hlong
  have hnearest : nearest v = (m' : ℚ) * 2 ^ e' := by
    rw [hvalue, nearest_of_pos hv, ← hround]
    push_cast
    rfl
  have hsmall : e' ≤ 971 := by
    have htarget : targetOf v ≤ 1023 - 53 := targetOf_le_of_lt hv (by norm_num) hlt
    omega
  rw [nearest_apply_one, hnearest]
  unfold roundWithAccuracy
  simp only [hshift, hcarry]
  by_cases hzero : m' = 0
  · rw [dif_pos hzero, toRat?_zero, hzero, Nat.cast_zero, zero_mul, mul_zero]
  · rw [dif_neg hzero, (hcanonical (Nat.pos_of_ne_zero hzero)).toRat?_eq hsmall, cast_apply,
      mul_assoc]

/-- What a number is rounded to is the nearest value. -/
theorem Rounds.toRat?_eq {v : ℚ} {u : UnpackedFloat} (h : Rounds v u) (hv : 0 < v)
    (hlt : v < finiteBound) : toRat? (.ofModel (.pack u)) = some (nearest v) := by
  obtain ⟨m, e, a, hloc, he, rfl⟩ := h
  have hround := toRat?_roundWithAccuracy .positive hv hlt hloc he
  rwa [show ((Sign.apply .positive 1 : ℤ) : ℚ) = 1 from Int.cast_one, one_mul] at hround

/-- Rounding an integer number of units gives the nearest value. -/
theorem toRat?_normalize {n e : ℤ} (hlt : |(n : ℚ) * 2 ^ e| < finiteBound) :
    toRat? (.ofModel (.pack (UnpackedFloat.normalize .binary64 n e .positive))) =
      some (nearest (n * 2 ^ e)) := by
  -- A number that is not zero is rounded by its magnitude.
  have hmagnitude {m : ℕ} (s : Sign) (hm : 0 < m) (hn : n = s.apply m) :
      toRat? (.ofModel (.pack (UnpackedFloat.round .binary64 s m e))) =
        some (nearest (n * 2 ^ e)) := by
    have hm' : (0 : ℚ) < m := by exact_mod_cast hm
    have hv : (0 : ℚ) < m * 2 ^ e := by positivity
    have hsigned : (n : ℚ) * 2 ^ e = (s.apply 1 : ℤ) * (m * 2 ^ e) := by
      rw [hn, cast_apply, mul_assoc]
    have habs : |(n : ℚ) * 2 ^ e| = m * 2 ^ e := by
      rw [hsigned, abs_mul, abs_of_pos hv, abs_apply_one, one_mul]
    obtain ⟨m', e', hloc, he', hround⟩ := exists_round_eq hm e
    rw [hround, hsigned]
    exact toRat?_roundWithAccuracy s hv (habs ▸ hlt) hloc he'
  unfold UnpackedFloat.normalize
  rcases Int.lt_trichotomy n 0 with hneg | rfl | hpos
  · rw [Int.compare_eq_lt.2 hneg]
    exact hmagnitude .negative (by omega) (by show n = -(((-n).toNat : ℕ) : ℤ); omega)
  · rw [Int.compare_eq_eq.2 rfl, Int.cast_zero, zero_mul, nearest_zero]
    exact toRat?_zero .positive
  · rw [Int.compare_eq_gt.2 hpos]
    exact hmagnitude .positive (by omega) (by show n = ((n.toNat : ℕ) : ℤ); omega)

/-- Whether unpacked parts are those of a value that is a number. -/
inductive HasParts : UnpackedFloat → ℚ → Prop
  /-- A zero of either sign. -/
  | zero (s : Sign) : HasParts (.zero s) 0
  /-- A sign, and a mantissa and an exponent in canonical form. -/
  | finite (s : Sign) {m : ℕ} {e : ℤ} (h : Canonical m e) (he : e ≤ 971) :
    HasParts (.finite s m e h.pos) ((s.apply m : ℤ) * 2 ^ e)

/-- A finite value is unpacked to its parts. -/
theorem hasParts_unpack {x : Float} {p : ℚ} (h : toRat? x = some p) :
    HasParts x.toModel.unpack p := by
  unfold toRat? at h
  split at h
  · rename_i s hx
    rw [hx, ← Option.some.inj h]
    exact .zero s
  · rename_i s m e hm hx
    obtain ⟨hcanonical, he⟩ := canonical_of_unpack hx
    rw [hx, ← Option.some.inj h]
    exact .finite s hcanonical he
  · cases h

namespace HasParts

variable {u v : UnpackedFloat} {p q : ℚ}

/-- The parts of a value are packed to it. -/
theorem toRat?_eq (h : HasParts u p) : toRat? (.ofModel (.pack u)) = some p := by
  cases h with
  | zero s => exact toRat?_zero s
  | finite s h he => exact h.toRat?_eq he s

/-- The number of a value is its own nearest one. -/
theorem nearest_eq (h : HasParts u p) : nearest p = p := nearest_toRat h.toRat?_eq

/-- The parts of the opposite value. -/
theorem neg (h : HasParts u p) : HasParts u.neg (-p) := by
  cases h with
  | zero s =>
    rw [neg_zero]
    exact .zero (-s)
  | @finite s m e h he =>
    have hopposite : -((s.apply m : ℤ) * 2 ^ e : ℚ) = ((-s).apply m : ℤ) * 2 ^ e := by
      rw [← neg_mul, ← Int.cast_neg]
      cases s with
      | positive => rfl
      | negative =>
        show (((- -(m : ℤ)) : ℤ) : ℚ) * 2 ^ e = ((m : ℤ) : ℚ) * 2 ^ e
        rw [neg_neg]
    rw [hopposite]
    exact .finite (-s) h he

/-- A sum is the value nearest to the sum of the numbers. -/
theorem toRat?_add (hu : HasParts u p) (hv : HasParts v q) (hlt : |p + q| < finiteBound) :
    toRat? (.ofModel (.pack (UnpackedFloat.add .binary64 u v))) = some (nearest (p + q)) := by
  cases hu with
  | zero s =>
    rw [zero_add, hv.nearest_eq, ← hv.toRat?_eq]
    cases hv with
    | zero t => cases s <;> cases t <;> rfl
    | finite t h he => rfl
  | @finite s m₁ e₁ h₁ he₁ =>
    cases hv with
    | zero t =>
      have hu : HasParts (.finite s m₁ e₁ h₁.pos) _ := .finite s h₁ he₁
      rw [add_zero, hu.nearest_eq, ← hu.toRat?_eq]
      rfl
    | @finite t m₂ e₂ h₂ he₂ =>
      -- The mantissas are added at the lesser exponent, where both numbers are multiples.
      let e := min e₁ e₂
      let k₁ := (e₁ - e).toNat
      let k₂ := (e₂ - e).toNat
      have hk₁ : e = e₁ - k₁ := by omega
      have hk₂ : e = e₂ - k₂ := by omega
      have hv₁ : ((m₁ <<< k₁ : ℕ) : ℚ) * 2 ^ e = m₁ * 2 ^ e₁ := by rw [hk₁, mul_zpow_shiftLeft]
      have hv₂ : ((m₂ <<< k₂ : ℕ) : ℚ) * 2 ^ e = m₂ * 2 ^ e₂ := by rw [hk₂, mul_zpow_shiftLeft]
      have hsum : ((s.apply m₁ : ℤ) : ℚ) * 2 ^ e₁ + (t.apply m₂ : ℤ) * 2 ^ e₂ =
          ((s.apply (m₁ <<< k₁ : ℕ) + t.apply (m₂ <<< k₂ : ℕ) : ℤ) : ℚ) * 2 ^ e := by
        rw [Int.cast_add, cast_apply s, cast_apply t, cast_apply s, cast_apply t, add_mul,
          mul_assoc, mul_assoc, mul_assoc, mul_assoc, hv₁, hv₂]
      rw [hsum] at hlt ⊢
      exact toRat?_normalize hlt

/-- Subtracting is adding the opposite. -/
theorem sub_eq_add_neg (u v : UnpackedFloat) :
    UnpackedFloat.sub .binary64 u v = UnpackedFloat.add .binary64 u v.neg := by
  have hdiff (s t : Sign) (m n : ℕ) : s.apply m - t.apply n = s.apply m + (-t).apply n := by
    cases t with
    | positive => rfl
    | negative => exact sub_neg_eq_add _ _
  cases u with
  | finite s m₁ e₁ h₁ =>
    cases v with
    | finite t m₂ e₂ h₂ =>
      show UnpackedFloat.normalize _ (s.apply _ - t.apply _) _ _ = _
      rw [hdiff]
      rfl
    | _ => rfl
  | _ => cases v <;> rfl

/-- A product is the value nearest to the product of the numbers. -/
theorem toRat?_mul (hu : HasParts u p) (hv : HasParts v q) (hlt : |p * q| < finiteBound) :
    toRat? (.ofModel (.pack (UnpackedFloat.mul .binary64 u v))) = some (nearest (p * q)) := by
  cases hu with
  | zero s =>
    rw [zero_mul, nearest_zero]
    cases hv <;> exact toRat?_zero _
  | @finite s m₁ e₁ h₁ he₁ =>
    cases hv with
    | zero t =>
      rw [mul_zero, nearest_zero]
      exact toRat?_zero _
    | @finite t m₂ e₂ h₂ he₂ =>
      have hv : (0 : ℚ) < m₁ * 2 ^ e₁ * (m₂ * 2 ^ e₂) := mul_pos h₁.value_pos h₂.value_pos
      have hproduct : ((s.apply m₁ : ℤ) : ℚ) * 2 ^ e₁ * ((t.apply m₂ : ℤ) * 2 ^ e₂) =
          ((s * t).apply 1 : ℤ) * (m₁ * 2 ^ e₁ * (m₂ * 2 ^ e₂)) := by
        rw [cast_apply_mul_one, cast_apply s, cast_apply t]
        ring
      have habs : |((s.apply m₁ : ℤ) : ℚ) * 2 ^ e₁ * ((t.apply m₂ : ℤ) * 2 ^ e₂)| =
          m₁ * 2 ^ e₁ * (m₂ * 2 ^ e₂) := by
        rw [hproduct, abs_mul, abs_of_pos hv, abs_apply_one, one_mul]
      have hloc : Locates (.ofMantissaAndAccuracy (m₁ * m₂) .exact)
          (m₁ * 2 ^ e₁ * (m₂ * 2 ^ e₂) / 2 ^ (e₁ + e₂)) := by
        have hmantissa : (m₁ : ℚ) * 2 ^ e₁ * (m₂ * 2 ^ e₂) / 2 ^ (e₁ + e₂) = (m₁ * m₂ : ℕ) := by
          rw [zpow_add₀ two_ne_zero]
          push_cast
          field_simp
        rw [hmantissa]
        exact locates_exact _
      rw [habs] at hlt
      rw [hproduct]
      exact toRat?_roundWithAccuracy (s * t) hv hlt hloc (h₁.add_le_targetOf h₂)

end HasParts

variable {x y : Float} {p q : ℚ}

/-- A sum of finite values is the value nearest to the sum of the numbers. -/
theorem toRat?_add (hx : toRat? x = some p) (hy : toRat? y = some q)
    (hlt : |p + q| < finiteBound) : toRat? (x + y) = some (nearest (p + q)) :=
  (hasParts_unpack hx).toRat?_add (hasParts_unpack hy) hlt

/-- A difference of finite values is the value nearest to the difference of the numbers. -/
theorem toRat?_sub (hx : toRat? x = some p) (hy : toRat? y = some q)
    (hlt : |p - q| < finiteBound) : toRat? (x - y) = some (nearest (p - q)) := by
  rw [sub_eq_add_neg] at hlt ⊢
  have hsum := (hasParts_unpack hx).toRat?_add (hasParts_unpack hy).neg hlt
  rwa [← HasParts.sub_eq_add_neg] at hsum

/-- A product of finite values is the value nearest to the product of the numbers. -/
theorem toRat?_mul (hx : toRat? x = some p) (hy : toRat? y = some q)
    (hlt : |p * q| < finiteBound) : toRat? (x * y) = some (nearest (p * q)) :=
  (hasParts_unpack hx).toRat?_mul (hasParts_unpack hy) hlt

/-- The opposite of a finite value. -/
theorem toRat?_neg {x : Float} {q : ℚ} (h : toRat? x = some q) : toRat? (-x) = some (-q) :=
  (hasParts_unpack h).neg.toRat?_eq

/-! ## Comparisons -/

section Comparisons

variable {m₁ m₂ : ℕ} {e₁ e₂ : ℤ}

/-- Of two values in canonical form, that with the greater exponent is greater. -/
theorem Canonical.lt_of_exponent_lt (h₁ : Canonical m₁ e₁) (h₂ : Canonical m₂ e₂) (h : e₁ < e₂) :
    (m₁ : ℚ) * 2 ^ e₁ < m₂ * 2 ^ e₂ := by
  have he₁ := h₁.exponent_eq
  have he₂ := h₂.exponent_eq
  have hlog : m₂.log2 = 52 := by omega
  have hlow : 2 ^ 52 ≤ m₂ := hlog ▸ Nat.log2_self_le h₂.pos.ne'
  have hlow' : (2 : ℚ) ^ 52 ≤ m₂ := by exact_mod_cast hlow
  have hhigh : (m₁ : ℚ) < 2 ^ 53 := by exact_mod_cast h₁.bounds.1
  calc (m₁ : ℚ) * 2 ^ e₁ < 2 ^ 53 * 2 ^ e₁ := by gcongr
    _ = 2 ^ (53 + e₁) := by rw [zpow_add₀ two_ne_zero]; rfl
    _ ≤ 2 ^ (52 + e₂) := zpow_le_zpow_right₀ (by norm_num) (by omega)
    _ = 2 ^ 52 * 2 ^ e₂ := by rw [zpow_add₀ two_ne_zero]; rfl
    _ ≤ m₂ * 2 ^ e₂ := by gcongr

/-- Values in canonical form are compared by their exponents and then by their mantissas. -/
theorem Canonical.value_le_iff (h₁ : Canonical m₁ e₁) (h₂ : Canonical m₂ e₂) :
    (m₁ : ℚ) * 2 ^ e₁ ≤ m₂ * 2 ^ e₂ ↔ toLex (e₁, (m₁ : ℤ)) ≤ toLex (e₂, (m₂ : ℤ)) := by
  rw [Prod.Lex.toLex_le_toLex]
  rcases lt_trichotomy e₁ e₂ with h | rfl | h
  · exact ⟨fun _ => .inl h, fun _ => (h₁.lt_of_exponent_lt h₂ h).le⟩
  · have hunit : (0 : ℚ) < 2 ^ e₁ := by positivity
    rw [mul_le_mul_iff_left₀ hunit, Nat.cast_le]
    simp
  · have hlt := h₂.lt_of_exponent_lt h₁ h
    refine ⟨fun hle => absurd hle (not_le.2 hlt), fun hlex => ?_⟩
    simp only at hlex
    omega

end Comparisons

/-- The rank of a positive value. -/
def positiveRank (m : ℕ) (e : ℤ) : ℤ ×ₗ ℤ ×ₗ ℤ := toLex (1, toLex (e, (m : ℤ)))

/-- The rank of a positive value is above that of zero. -/
theorem positiveRank_pos (m : ℕ) (e : ℤ) : 0 < positiveRank m e :=
  Prod.Lex.toLex_lt_toLex.2 (.inl one_pos)

/-- Positive values have the order of their ranks. -/
theorem Canonical.rank_le_iff {m₁ m₂ : ℕ} {e₁ e₂ : ℤ} (h₁ : Canonical m₁ e₁)
    (h₂ : Canonical m₂ e₂) :
    positiveRank m₁ e₁ ≤ positiveRank m₂ e₂ ↔ (m₁ : ℚ) * 2 ^ e₁ ≤ m₂ * 2 ^ e₂ := by
  rw [h₁.value_le_iff h₂, positiveRank, positiveRank, Prod.Lex.toLex_le_toLex]
  simp

/-- The rank of a value and its number are both zero, or those of a positive value, or the opposite
of these. -/
theorem HasParts.exists_rank {u : UnpackedFloat} {p : ℚ} (h : HasParts u p) :
    ∃ r, rank? u = some r ∧ ((r = 0 ∧ p = 0) ∨ ∃ m e, Canonical m e ∧
      ((r = positiveRank m e ∧ p = m * 2 ^ e) ∨ (r = -positiveRank m e ∧ p = -(m * 2 ^ e)))) := by
  cases h with
  | zero s => exact ⟨_, rfl, .inl ⟨rfl, rfl⟩⟩
  | @finite s m e h he =>
    refine ⟨_, rank?_finite s m e h.pos, .inr ⟨m, e, h, ?_⟩⟩
    cases s with
    | positive =>
      refine .inl ⟨rfl, ?_⟩
      show ((m : ℤ) : ℚ) * 2 ^ e = _
      rw [Int.cast_natCast]
    | negative =>
      refine .inr ⟨rfl, ?_⟩
      show ((-(m : ℤ) : ℤ) : ℚ) * 2 ^ e = _
      rw [Int.cast_neg, Int.cast_natCast, neg_mul]

/-- Finite values are compared as the numbers that they are. -/
theorem le_iff_of_toRat? (hx : toRat? x = some p) (hy : toRat? y = some q) : x ≤ y ↔ p ≤ q := by
  obtain ⟨a, ha, hacases⟩ := (hasParts_unpack hx).exists_rank
  obtain ⟨b, hb, hbcases⟩ := (hasParts_unpack hy).exists_rank
  have hranks : x ≤ y ↔ a ≤ b := by
    rw [le_iff]
    constructor
    · rintro ⟨a', b', ha', hb', hle⟩
      obtain rfl : a = a' := Option.some.inj (ha.symm.trans ha')
      obtain rfl : b = b' := Option.some.inj (hb.symm.trans hb')
      exact hle
    · exact fun hle => ⟨a, b, ha, hb, hle⟩
  rw [hranks]
  -- Values of different signs are apart, with zero between them.
  rcases hacases with ⟨rfl, rfl⟩ | ⟨m₁, e₁, h₁, ⟨rfl, rfl⟩ | ⟨rfl, rfl⟩⟩
  · rcases hbcases with ⟨rfl, rfl⟩ | ⟨m₂, e₂, h₂, ⟨rfl, rfl⟩ | ⟨rfl, rfl⟩⟩
    · exact iff_of_true le_rfl le_rfl
    · exact iff_of_true (positiveRank_pos m₂ e₂).le h₂.value_pos.le
    · exact iff_of_false (not_le.2 (neg_lt_zero.2 (positiveRank_pos m₂ e₂)))
        (not_le.2 (neg_lt_zero.2 h₂.value_pos))
  · rcases hbcases with ⟨rfl, rfl⟩ | ⟨m₂, e₂, h₂, ⟨rfl, rfl⟩ | ⟨rfl, rfl⟩⟩
    · exact iff_of_false (not_le.2 (positiveRank_pos m₁ e₁)) (not_le.2 h₁.value_pos)
    · exact h₁.rank_le_iff h₂
    · have hrank := (neg_lt_zero.2 (positiveRank_pos m₂ e₂)).trans (positiveRank_pos m₁ e₁)
      have hvalue := (neg_lt_zero.2 h₂.value_pos).trans h₁.value_pos
      exact iff_of_false (not_le.2 hrank) (not_le.2 hvalue)
  · rcases hbcases with ⟨rfl, rfl⟩ | ⟨m₂, e₂, h₂, ⟨rfl, rfl⟩ | ⟨rfl, rfl⟩⟩
    · exact iff_of_true (neg_lt_zero.2 (positiveRank_pos m₁ e₁)).le
        (neg_lt_zero.2 h₁.value_pos).le
    · have hrank := (neg_lt_zero.2 (positiveRank_pos m₁ e₁)).trans (positiveRank_pos m₂ e₂)
      have hvalue := (neg_lt_zero.2 h₁.value_pos).trans h₂.value_pos
      exact iff_of_true hrank.le hvalue.le
    · rw [neg_le_neg_iff, neg_le_neg_iff]
      exact h₂.rank_le_iff h₁

end MetricAlgebra.Binary64

namespace MetricAlgebra.Decimal

open Binary64

/-- A decimal literal is the value nearest to its number. -/
theorem toRat?_scaled {m : ℕ} {e : ℤ} (hle : e ≤ 2048)
    (hge : 0 < m → -(2048 + (m.log2 : ℤ)) ≤ e)
    (hlt : (m : ℚ) * 10 ^ e < finiteBound) :
    toRat? (scaled m e) = some (nearest (m * 10 ^ e)) := by
  rcases Nat.eq_zero_or_pos m with rfl | hm
  · rw [scaled_zero, Nat.cast_zero, zero_mul, nearest_zero]
    exact toRat?_zero _
  · have hm' : (0 : ℚ) < m := by exact_mod_cast hm
    obtain ⟨u, hu, hscaled⟩ := exists_scaled_eq hm hle (hge hm)
    rw [hscaled]
    exact hu.toRat?_eq (by positivity) hlt

/-- A natural number is converted to the value nearest to it. -/
theorem toRat?_ofNat_nearest {n : ℕ} (hn : (n : ℚ) < finiteBound) :
    toRat? (Float.ofNat n) = some (nearest n) := by
  have hvalue := toRat?_scaled (m := n) (e := 0) (by norm_num) (fun _ => by omega)
    (by rwa [zpow_zero, mul_one])
  rwa [zpow_zero, mul_one] at hvalue

/-- A whole number of few bits is a value. -/
theorem toRat?_ofNat {n : ℕ} (hn : n ≤ 2 ^ 53) : toRat? (Float.ofNat n) = some (n : ℚ) := by
  have hn' : (n : ℚ) ≤ 2 ^ 53 := by exact_mod_cast hn
  rw [toRat?_ofNat_nearest (lt_finiteBound (by linarith)), nearest_natCast hn]

/-- An integer is converted to the value nearest to it. -/
theorem toRat?_ofInt {n : ℤ} (hn : |(n : ℚ)| < finiteBound) :
    toRat? (Float.ofInt n) = some (nearest n) := by
  cases n with
  | ofNat k => exact toRat?_ofNat_nearest (by simpa using hn)
  | negSucc k =>
    have hcast : ((Int.negSucc k : ℤ) : ℚ) = -((k + 1 : ℕ) : ℚ) := by push_cast; ring
    rw [hcast] at hn ⊢
    rw [nearest_neg]
    exact toRat?_neg (toRat?_ofNat_nearest (by rwa [abs_neg, abs_of_nonneg (by positivity)] at hn))

/-- A plain decimal that is a whole number of parts, of which there are not too many, is the value
nearest to that number of parts. -/
theorem toRat?_pointValue {whole fraction : List Char} {m s : ℕ} (hs : 0 < s) (hs' : s ≤ 2 ^ 32)
    (hm : m ≤ 2 ^ 53) (h : natValue (whole ++ fraction) * s = m * 10 ^ fraction.length) :
    toRat? (pointValue whole fraction) = some (nearest ((m : ℚ) / s)) := by
  generalize hd : natValue (whole ++ fraction) = d at h
  have hs₀ : (0 : ℚ) < s := by exact_mod_cast hs
  have hvalue : (d : ℚ) * 10 ^ (-(fraction.length : ℤ)) = m / s := by
    have hcast : (d : ℚ) * s = m * 10 ^ fraction.length := by exact_mod_cast h
    rw [zpow_neg, zpow_natCast, eq_div_iff hs₀.ne', mul_right_comm, hcast,
      mul_inv_cancel_right₀ (by positivity)]
  -- The digits behind the point are no more than the bits of the number and of the parts.
  have hlong : 0 < d → fraction.length ≤ 2048 + d.log2 := by
    intro hpos
    have hbits : d < 2 ^ (d.log2 + 1) := Nat.lt_log2_self
    have hm₀ : 0 < m := by
      by_contra hzero
      have hprod : 0 < d * s := Nat.mul_pos hpos hs
      rw [h, Nat.eq_zero_of_not_pos hzero, Nat.zero_mul] at hprod
      omega
    have hlt : 2 ^ fraction.length < 2 ^ (d.log2 + 1 + 32) := calc
      2 ^ fraction.length ≤ 10 ^ fraction.length := Nat.pow_le_pow_left (by norm_num) _
      _ ≤ m * 10 ^ fraction.length := Nat.le_mul_of_pos_left _ hm₀
      _ = d * s := h.symm
      _ ≤ d * 2 ^ 32 := Nat.mul_le_mul_left d hs'
      _ < 2 ^ (d.log2 + 1) * 2 ^ 32 := Nat.mul_lt_mul_of_pos_right hbits (by norm_num)
      _ = 2 ^ (d.log2 + 1 + 32) := (pow_add 2 _ 32).symm
    have := (Nat.pow_lt_pow_iff_right (by norm_num)).1 hlt
    omega
  have hsmall : (d : ℚ) * 10 ^ (-(fraction.length : ℤ)) < finiteBound := by
    have hm' : (m : ℚ) ≤ 2 ^ 53 := by exact_mod_cast hm
    have hone : (1 : ℚ) ≤ s := by exact_mod_cast hs
    rw [hvalue]
    refine lt_finiteBound ?_
    calc (m : ℚ) / s ≤ m := div_le_self (by positivity) hone
      _ ≤ 2 ^ 64 := hm'.trans (by norm_num)
  unfold pointValue
  rw [hd, toRat?_scaled (by omega) (fun hpos => by have := hlong hpos; omega) hsmall, hvalue]

end MetricAlgebra.Decimal
