import MetricAlgebra.Proofs.RoundedArithmetic

/-!
# Whole numbers

A whole number is a decimal literal without a point. One of at most 53 bits is a value, and the sum
of two of these is rounded as the whole number that it is (`Decimal.ofNat_add_ofNat`). Therefore
counts can be added up in floating point without loss, while the sum has no more bits than that
(`Decimal.foldl_add_ofNat`).

Values that are integers are added, subtracted and multiplied without rounding as long as the result
has few bits (`Binary64.IsWhole.add`, `Binary64.IsWhole.sub`, `Binary64.IsWhole.mul`).
-/

namespace MetricAlgebra.Decimal

open Binary64 Float.Model Float.Model.UnpackedFloat

/-- A whole number is rounded. -/
theorem exists_ofNat_eq {n : ℕ} (hn : 0 < n) :
    ∃ u, Rounds n u ∧ Float.ofNat n = .ofModel (.pack u) := by
  obtain ⟨u, hu, heq⟩ := exists_scaled_eq (e := 0) hn (by omega) (by omega)
  rw [zpow_zero, mul_one] at hu
  exact ⟨u, hu, heq⟩

/-- A whole number of few bits is a value. -/
theorem exists_unpack_ofNat {n : ℕ} (hn : 0 < n) (hlt : n < 2 ^ 53) :
    ∃ m q hm, (Float.ofNat n).toModel.unpack = .finite .positive m q hm ∧
      (m : ℚ) * 2 ^ q = n := by
  obtain ⟨m, q, hm, hx, hv, -⟩ := exists_unpack_toFloat hn hlt
  have hself : Float.ofNat n = n.toUInt64.toFloat := by
    refine scaled_eq (e := 0) hx (by omega) ?_
    rw [zpow_zero, mul_one, hv]
  exact ⟨m, q, hm, hself ▸ hx, hv⟩

/-- The sum of whole numbers of few bits is the whole number nearest to it. -/
theorem ofNat_add_ofNat {a b : ℕ} (ha : a < 2 ^ 53) (hb : b < 2 ^ 53) :
    Float.ofNat a + Float.ofNat b = Float.ofNat (a + b) := by
  have hplus (n : ℕ) : IsPlus (Float.ofNat n) := isPlus_ofScientific n false 0
  rcases Nat.eq_zero_or_pos a with rfl | hapos
  · rw [Nat.zero_add]
    exact (hplus b).zero_add
  rcases Nat.eq_zero_or_pos b with rfl | hbpos
  · exact (hplus a).add_zero
  obtain ⟨m₁, e₁, h₁, hx₁, hv₁⟩ := exists_unpack_ofNat hapos ha
  obtain ⟨m₂, e₂, h₂, hx₂, hv₂⟩ := exists_unpack_ofNat hbpos hb
  obtain ⟨u, hu, hsum⟩ := exists_ofNat_eq (n := a + b) (by omega)
  have hrounds : Rounds (a + b : ℕ) (UnpackedFloat.add .binary64 (.finite .positive m₁ e₁ h₁)
      (.finite .positive m₂ e₂ h₂)) := by
    rw [Nat.cast_add, ← hv₁, ← hv₂]
    exact rounds_add h₁ h₂
  have hpos : (0 : ℚ) < (a + b : ℕ) := by exact_mod_cast (by omega : 0 < a + b)
  calc Float.ofNat a + Float.ofNat b
      = .ofModel (.pack (UnpackedFloat.add .binary64 (.finite .positive m₁ e₁ h₁)
          (.finite .positive m₂ e₂ h₂))) := by
        rw [← hx₁, ← hx₂]
        rfl
    _ = .ofModel (.pack u) := by rw [hrounds.unique hpos hu]
    _ = Float.ofNat (a + b) := hsum.symm

/-- Whole numbers are summed without loss as long as the sum has few bits. -/
theorem foldl_add_ofNat (ns : List ℕ) (a : ℕ) (h : a + ns.sum < 2 ^ 53) :
    (ns.map Float.ofNat).foldl (· + ·) (Float.ofNat a) = Float.ofNat (a + ns.sum) := by
  induction ns generalizing a with
  | nil => rfl
  | cons n ns ih =>
    rw [List.sum_cons] at h ⊢
    rw [List.map_cons, List.foldl_cons, ofNat_add_ofNat (by omega) (by omega),
      ih (a + n) (by omega), Nat.add_assoc]

end MetricAlgebra.Decimal

namespace MetricAlgebra.Binary64

/-! ## Integer values -/

/-- Whether a value is an integer, which it is as a zero of either sign too. -/
def IsWhole (x : Float) (n : ℤ) : Prop := toRat? x = some (n : ℚ)

instance (x : Float) (n : ℤ) : Decidable (IsWhole x n) :=
  inferInstanceAs (Decidable (toRat? x = some (n : ℚ)))

namespace IsWhole

variable {x y : Float} {m n : ℤ}

/-- An integer of few bits is far from the values that are too large. -/
theorem abs_lt_finiteBound (hn : |n| ≤ 2 ^ 53) : |(n : ℚ)| < finiteBound := by
  have hcast : |(n : ℚ)| ≤ 2 ^ 53 := by exact_mod_cast hn
  exact lt_finiteBound (by linarith)

/-- Zero is an integer. -/
theorem zero : IsWhole 0.0 0 := by
  rw [IsWhole, zero_eq, toRat?_zero, Int.cast_zero]

/-- A sum of integers that has few bits is exact. -/
theorem add (hx : IsWhole x m) (hy : IsWhole y n) (hsum : |m + n| ≤ 2 ^ 53) :
    IsWhole (x + y) (m + n) := by
  have hcast : (m : ℚ) + n = (m + n : ℤ) := by push_cast; rfl
  have hlt := abs_lt_finiteBound hsum
  rw [← hcast] at hlt
  rw [IsWhole, toRat?_add hx hy hlt, hcast, nearest_intCast hsum]

/-- A difference of integers that has few bits is exact. -/
theorem sub (hx : IsWhole x m) (hy : IsWhole y n) (hdiff : |m - n| ≤ 2 ^ 53) :
    IsWhole (x - y) (m - n) := by
  have hcast : (m : ℚ) - n = (m - n : ℤ) := by push_cast; rfl
  have hlt := abs_lt_finiteBound hdiff
  rw [← hcast] at hlt
  rw [IsWhole, toRat?_sub hx hy hlt, hcast, nearest_intCast hdiff]

/-- A product of integers that has few bits is exact. -/
theorem mul (hx : IsWhole x m) (hy : IsWhole y n) (hproduct : |m * n| ≤ 2 ^ 53) :
    IsWhole (x * y) (m * n) := by
  have hcast : (m : ℚ) * n = (m * n : ℤ) := by push_cast; rfl
  have hlt := abs_lt_finiteBound hproduct
  rw [← hcast] at hlt
  rw [IsWhole, toRat?_mul hx hy hlt, hcast, nearest_intCast hproduct]

/-- Integers are compared as such. -/
theorem le_iff (hx : IsWhole x m) (hy : IsWhole y n) : x ≤ y ↔ m ≤ n := by
  rw [le_iff_of_toRat? hx hy, Int.cast_le]

end IsWhole

end MetricAlgebra.Binary64
