import Mathlib

/-!
# Rounding depends on the number alone

A mantissa with its two residual bits locates a number between two integers (`Binary64.Locates`).
Shifting keeps this (`Locates.shiftRight`), and the number determines the mantissa and the bits
(`Locates.unique`). Therefore what a positive number is rounded to is the same from whatever integer
part it is computed, if that is not cut off too far left (`Rounds.unique`). Values in canonical form
are rounded to themselves (`Canonical.rounds`); sums, products and quotients of positive values are
rounded (`rounds_add`, `rounds_mul`, `rounds_div`); and the finite values are those in canonical
form (`canonical_of_unpack`).
-/

namespace MetricAlgebra.Binary64

open Float.Model Float.Model.UnpackedFloat

/-! ## Located numbers -/

/-- A number is where a mantissa and its residual bits say: at the mantissa or half a unit above
it, or strictly between two of these places. -/
def Locates (em : ExtendedMantissa) (x : ℚ) : Prop :=
  match em.roundBit, em.stickyBit with
  | false, false => x = em.mantissa
  | false, true => em.mantissa < x ∧ x < em.mantissa + 1 / 2
  | true, false => x = em.mantissa + 1 / 2
  | true, true => em.mantissa + 1 / 2 < x ∧ x < em.mantissa + 1

/-- The mantissa is the integer part. -/
theorem Locates.floor_eq {em : ExtendedMantissa} {x : ℚ} (h : Locates em x) :
    ⌊x⌋ = (em.mantissa : ℤ) := by
  obtain ⟨m, r, s⟩ := em
  rw [Int.floor_eq_iff]
  push_cast
  cases r <;> cases s <;> simp only [Locates] at h <;> constructor <;> linarith

/-- A number is located by one mantissa and one pair of bits. -/
theorem Locates.unique {em em' : ExtendedMantissa} {x : ℚ} (h : Locates em x)
    (h' : Locates em' x) : em = em' := by
  have hm : em.mantissa = em'.mantissa := by
    have := h.floor_eq.symm.trans h'.floor_eq
    exact_mod_cast this
  obtain ⟨m, r, s⟩ := em
  obtain ⟨m', r', s'⟩ := em'
  dsimp only at hm
  subst hm
  -- Two different pairs of bits say that the number is in two places apart.
  cases r <;> cases s <;> cases r' <;> cases s' <;> first
    | rfl
    | (simp only [Locates] at h h'; exfalso; linarith)

/-- Shifting by one bit halves. -/
theorem Locates.shiftRightOne {em : ExtendedMantissa} {x : ℚ} (h : Locates em x) :
    Locates em.shiftRightOne (x / 2) := by
  obtain ⟨m, r, s⟩ := em
  -- The bit that is shifted out becomes the round bit, and the two bits behind it are merged.
  obtain ⟨b, hb, hm⟩ : ∃ b, (m % 2 != 0) = b ∧ (m : ℚ) = 2 * (m / 2 : ℕ) + b.toNat := by
    refine ⟨_, rfl, ?_⟩
    rcases Nat.mod_two_eq_zero_or_one m with hr | hr <;> rw [hr] <;>
      exact_mod_cast (by simp; omega : m = _)
  cases b <;> cases r <;> cases s <;>
    simp only [Locates, ExtendedMantissa.shiftRightOne, hb, Bool.or_self, Bool.or_true,
      Bool.or_false, Bool.toNat_true, Bool.toNat_false, Nat.cast_zero, Nat.cast_one] at h hm ⊢ <;>
    first
      | linarith
      | (constructor <;> linarith)

/-- Shifting by bits divides by a power of two. -/
theorem Locates.shiftRight {em : ExtendedMantissa} {x : ℚ} (h : Locates em x) (n : ℕ) :
    Locates (em >>> n) (x / 2 ^ n) := by
  show Locates (n.repeat ExtendedMantissa.shiftRightOne em) (x / 2 ^ n)
  induction n with
  | zero => simpa [Nat.repeat] using h
  | succ n ih =>
    rw [pow_succ, ← div_div]
    exact ih.shiftRightOne

/-! ## Rounding -/

/-- The exponent at which a positive number is rounded. -/
def targetOf (v : ℚ) : ℤ := Format.binary64.targetExponent (Int.log 2 v + 1)

/-- The exponent of the last place for a number of `n` bits before the point. -/
theorem targetExponent_eq (n : ℤ) : Format.binary64.targetExponent n = max (n - 53) (-1074) := rfl

/-- The bits before the point of a number with a given integer part. -/
theorem log_eq {m : ℕ} {e : ℤ} {v : ℚ} (hm : m ≠ 0) (hle : (m : ℚ) * 2 ^ e ≤ v)
    (hlt : v < (m + 1) * 2 ^ e) : Int.log 2 v = m.log2 + e := by
  have hv : 0 < v := lt_of_lt_of_le (by positivity) hle
  have hlow : ((2 : ℕ) : ℚ) ^ (m.log2 + e : ℤ) ≤ v := by
    have hself : ((2 ^ m.log2 : ℕ) : ℚ) ≤ m := by exact_mod_cast Nat.log2_self_le hm
    rw [zpow_add₀ (by norm_num), zpow_natCast]
    push_cast at hself ⊢
    exact le_trans (by gcongr) hle
  have hhigh : v < ((2 : ℕ) : ℚ) ^ (m.log2 + e + 1 : ℤ) := by
    have hself : ((m + 1 : ℕ) : ℚ) ≤ (2 ^ (m.log2 + 1) : ℕ) := by
      exact_mod_cast Nat.lt_log2_self (n := m)
    rw [show (m.log2 + e + 1 : ℤ) = ((m.log2 + 1 : ℕ) : ℤ) + e by push_cast; ring,
      zpow_add₀ (by norm_num), zpow_natCast]
    push_cast at hself ⊢
    exact lt_of_lt_of_le hlt (by gcongr)
  have h1 := (Int.zpow_le_iff_le_log (by norm_num) hv).1 hlow
  have h2 := (Int.lt_zpow_iff_log_lt (by norm_num) hv).1 hhigh
  omega

/-- The exponent at which a number is rounded can be seen from its integer part, if that is not
cut off too far left. -/
theorem targetExponent_totalExponent {m : ℕ} {e : ℤ} {v : ℚ} (hv : 0 < v)
    (hle : (m : ℚ) * 2 ^ e ≤ v) (hlt : v < (m + 1) * 2 ^ e) (he : e ≤ targetOf v) :
    Format.binary64.targetExponent (totalExponent m e) = targetOf v := by
  unfold targetOf at he ⊢
  rw [targetExponent_eq] at he ⊢
  rw [targetExponent_eq]
  by_cases hm : m = 0
  · -- All bits are behind the point, so that the least exponent is reached.
    subst hm
    have hlog : Int.log 2 v < e := by
      refine (Int.lt_zpow_iff_log_lt (by norm_num) hv).1 ?_
      push_cast at hlt ⊢
      linarith
    simp only [totalExponent, Nat.log2_zero]
    omega
  · rw [log_eq hm hle hlt]
    unfold totalExponent
    omega

/-- What rounding a positive number gives, from an integer part that is not cut off too far
left. -/
def Rounds (v : ℚ) (u : UnpackedFloat) : Prop :=
  ∃ m e a, Locates (.ofMantissaAndAccuracy m a) (v / 2 ^ e) ∧ e ≤ targetOf v ∧
    u = roundWithAccuracy .binary64 .positive m e a

/-- The mantissa is given. -/
theorem mantissa_ofMantissaAndAccuracy (m : ℕ) (a : Accuracy) :
    (ExtendedMantissa.ofMantissaAndAccuracy m a).mantissa = m := by
  rcases a with _ | (_ | _ | _) <;> rfl

/-- Shifting to the last place locates the number there. -/
theorem exists_shiftToTargetExponent_eq {m : ℕ} {e : ℤ} {a : Accuracy} {v : ℚ} (hv : 0 < v)
    (h : Locates (.ofMantissaAndAccuracy m a) (v / 2 ^ e)) (he : e ≤ targetOf v) :
    ∃ em, Locates em (v / 2 ^ targetOf v) ∧
      shiftToTargetExponent .binary64 m e a = (em, targetOf v) := by
  have htwo : (0 : ℚ) < 2 ^ e := by positivity
  have hfloor := Int.floor_eq_iff.1 h.floor_eq
  rw [mantissa_ofMantissaAndAccuracy, Int.cast_natCast, le_div_iff₀ htwo,
    div_lt_iff₀ htwo] at hfloor
  have htarget := targetExponent_totalExponent hv hfloor.1 hfloor.2 he
  obtain ⟨n, hn⟩ : ∃ n : ℕ, targetOf v = e + n := ⟨(targetOf v - e).toNat, by omega⟩
  refine ⟨ExtendedMantissa.ofMantissaAndAccuracy m a >>> n, ?_, ?_⟩
  · rw [hn, zpow_add₀ (by norm_num), zpow_natCast, ← div_div]
    exact h.shiftRight n
  · unfold shiftToTargetExponent shiftToExponent
    rw [htarget, hn]
    dsimp only
    rw [add_sub_cancel_left, Int.toNat_natCast]

/-- A number is rounded to one value, from whatever integer part. -/
theorem Rounds.unique {v : ℚ} {u u' : UnpackedFloat} (hv : 0 < v) (h : Rounds v u)
    (h' : Rounds v u') : u = u' := by
  obtain ⟨m, e, a, hloc, he, rfl⟩ := h
  obtain ⟨m', e', a', hloc', he', rfl⟩ := h'
  obtain ⟨em, hem, heq⟩ := exists_shiftToTargetExponent_eq hv hloc he
  obtain ⟨em', hem', heq'⟩ := exists_shiftToTargetExponent_eq hv hloc' he'
  obtain rfl := hem.unique hem'
  unfold roundWithAccuracy
  rw [heq, heq']

/-! ## Exact values, sums, products and quotients -/

/-- A positive value in canonical form. -/
structure Canonical (m : ℕ) (e : ℤ) : Prop where
  /-- It is not zero. -/
  pos : 0 < m
  /-- The exponent is that of the last place. -/
  exponent_eq : e = max (m.log2 + e - 52) (-1074)

/-- An integer is located by itself. -/
theorem locates_exact (m : ℕ) : Locates (.ofMantissaAndAccuracy m .exact) m := rfl

/-- A quotient is located by its integer part and the remainder. -/
theorem locates_fraction (n : ℕ) {d : ℕ} (hd : 0 < d) :
    Locates (.ofMantissaAndAccuracy (n / d) (accuracyOfFraction (n % d) d)) (n / d : ℚ) := by
  have hd' : (0 : ℚ) < d := by exact_mod_cast hd
  have hdiv : (n : ℚ) / d = (n / d : ℕ) + (n % d : ℕ) / (d : ℚ) := by
    have hn : (n : ℚ) = d * (n / d : ℕ) + (n % d : ℕ) := by
      exact_mod_cast (Nat.div_add_mod n d).symm
    field_simp
    linarith
  have hlt : ((n % d : ℕ) : ℚ) < d := by exact_mod_cast Nat.mod_lt n hd
  unfold accuracyOfFraction
  rw [hdiv]
  generalize n / d = q at *
  generalize n % d = r at *
  split
  · rename_i hr
    rw [hr, Nat.cast_zero, zero_div, add_zero]
    exact locates_exact q
  · rename_i hr
    have hpos : 0 < (r : ℚ) / d := by
      have : (0 : ℚ) < r := by exact_mod_cast Nat.pos_of_ne_zero hr
      positivity
    have hone : (r : ℚ) / d < 1 := (div_lt_one hd').2 hlt
    rcases Nat.lt_trichotomy (2 * r) d with h | h | h
    · have hhalf : (r : ℚ) / d < 1 / 2 := by
        rw [div_lt_div_iff₀ hd' two_pos]
        exact_mod_cast (by omega : r * 2 < 1 * d)
      rw [Nat.compare_eq_lt.2 h]
      exact ⟨lt_add_of_pos_right _ hpos, add_lt_add_right hhalf _⟩
    · have hhalf : (r : ℚ) / d = 1 / 2 := by
        rw [div_eq_div_iff hd'.ne' two_ne_zero]
        exact_mod_cast (by omega : r * 2 = 1 * d)
      rw [Nat.compare_eq_eq.2 h, hhalf]
      rfl
    · have hhalf : 1 / 2 < (r : ℚ) / d := by
        rw [div_lt_div_iff₀ two_pos hd']
        exact_mod_cast (by omega : 1 * d < r * 2)
      rw [Nat.compare_eq_gt.2 h]
      exact ⟨add_lt_add_right hhalf _, add_lt_add_right hone _⟩

/-- There is nothing to round in canonical form. -/
theorem Canonical.roundWithAccuracy_eq {m : ℕ} {e : ℤ} (h : Canonical m e) :
    roundWithAccuracy .binary64 .positive m e .exact = .finite .positive m e h.pos := by
  have hexponent := h.exponent_eq
  have hstay : Format.binary64.targetExponent (totalExponent m e) = e := by
    unfold totalExponent
    rw [targetExponent_eq]
    omega
  have hshift : shiftToTargetExponent .binary64 m e .exact = (⟨m, false, false⟩, e) := by
    unfold shiftToTargetExponent shiftToExponent
    dsimp only
    rw [hstay, sub_self, Int.toNat_zero, Nat.cast_zero, add_zero]
    rfl
  -- Both shifts leave the mantissa.
  unfold roundWithAccuracy
  simp only [hshift, ExtendedMantissa.roundedMantissa, ExtendedMantissa.accuracy,
    Accuracy.roundToNearestEven, h.pos.ne', dite_false]

/-- A value in canonical form is rounded to itself. -/
theorem Canonical.rounds {m : ℕ} {e : ℤ} (h : Canonical m e) :
    Rounds (m * 2 ^ e) (.finite .positive m e h.pos) := by
  have hm : (0 : ℚ) < m := by exact_mod_cast h.pos
  have hexponent := h.exponent_eq
  refine ⟨m, e, .exact, ?_, ?_, h.roundWithAccuracy_eq.symm⟩
  · rw [mul_div_cancel_right₀ _ (by positivity)]
    exact locates_exact m
  · unfold targetOf
    rw [targetExponent_eq, log_eq h.pos.ne' le_rfl (by gcongr; linarith)]
    omega

/-- Appending zero bits to a mantissa does not change the number. -/
theorem mul_zpow_shiftLeft (m k : ℕ) (e : ℤ) :
    ((m <<< k : ℕ) : ℚ) * 2 ^ (e - k) = m * 2 ^ e := by
  rw [Nat.shiftLeft_eq, zpow_sub₀ two_ne_zero, zpow_natCast]
  push_cast
  field_simp

/-- Rounding from all bits is rounding from an integer part that is not cut off too far left, for
both signs. -/
theorem exists_round_eq {m : ℕ} (hm : 0 < m) (e : ℤ) :
    ∃ m' e', Locates (.ofMantissaAndAccuracy m' .exact) (m * 2 ^ e / 2 ^ e') ∧
      e' ≤ targetOf (m * 2 ^ e) ∧ ∀ s, UnpackedFloat.round .binary64 s m e =
        roundWithAccuracy .binary64 s m' e' .exact := by
  let k := (e - Format.binary64.targetExponent (totalExponent m e)).toNat
  have hm' : (0 : ℚ) < m := by exact_mod_cast hm
  have hlog : Int.log 2 ((m : ℚ) * 2 ^ e) = m.log2 + e :=
    log_eq hm.ne' le_rfl (by gcongr; linarith)
  have htarget : targetOf (m * 2 ^ e) = Format.binary64.targetExponent (totalExponent m e) := by
    unfold targetOf totalExponent
    rw [hlog]
    congr 1
    omega
  refine ⟨m <<< k, e - k, ?_, ?_, fun _ => rfl⟩
  · rw [← mul_zpow_shiftLeft m k e, mul_div_cancel_right₀ _ (by positivity)]
    exact locates_exact _
  · rw [htarget]
    omega

/-- Rounding a positive number from all of its bits gives what it is rounded to. -/
theorem rounds_round {m : ℕ} (hm : 0 < m) (e : ℤ) :
    Rounds (m * 2 ^ e) (UnpackedFloat.round .binary64 .positive m e) := by
  obtain ⟨m', e', hloc, he', hround⟩ := exists_round_eq hm e
  exact ⟨m', e', .exact, hloc, he', hround .positive⟩

/-- The sum of two positive values is rounded. -/
theorem rounds_add {m₁ m₂ : ℕ} {e₁ e₂ : ℤ} (h₁ : 0 < m₁) (h₂ : 0 < m₂) :
    Rounds (m₁ * 2 ^ e₁ + m₂ * 2 ^ e₂)
      (UnpackedFloat.add .binary64 (.finite .positive m₁ e₁ h₁) (.finite .positive m₂ e₂ h₂)) := by
  let e := min e₁ e₂
  let k₁ := (e₁ - e).toNat
  let k₂ := (e₂ - e).toNat
  have hk₁ : e = e₁ - k₁ := by omega
  have hk₂ : e = e₂ - k₂ := by omega
  have hpos : 0 < m₁ <<< k₁ + m₂ <<< k₂ := by
    rw [Nat.shiftLeft_eq]
    positivity
  -- The lesser of the two exponents is that of both, so that the mantissas can be added.
  have hv : (m₁ : ℚ) * 2 ^ e₁ + m₂ * 2 ^ e₂ = (m₁ <<< k₁ + m₂ <<< k₂ : ℕ) * 2 ^ e := by
    rw [Nat.cast_add, add_mul]
    nth_rewrite 1 [hk₁]
    rw [mul_zpow_shiftLeft, hk₂, mul_zpow_shiftLeft]
  have hadd : UnpackedFloat.add .binary64 (.finite .positive m₁ e₁ h₁)
      (.finite .positive m₂ e₂ h₂) =
        UnpackedFloat.round .binary64 .positive (m₁ <<< k₁ + m₂ <<< k₂) e := by
    show UnpackedFloat.normalize .binary64 ((m₁ <<< k₁ : ℕ) + (m₂ <<< k₂ : ℕ) : ℤ) e .positive = _
    unfold UnpackedFloat.normalize
    rw [← Int.natCast_add, Int.compare_eq_gt.2 (by omega)]
    rfl
  rw [hv, hadd]
  exact rounds_round hpos e

/-- The product of two positive values is rounded, if enough bits are there. -/
theorem rounds_mul {m₁ m₂ : ℕ} {e₁ e₂ : ℤ} (h₁ : 0 < m₁) (h₂ : 0 < m₂)
    (he : e₁ + e₂ ≤ targetOf (m₁ * 2 ^ e₁ * (m₂ * 2 ^ e₂))) :
    Rounds (m₁ * 2 ^ e₁ * (m₂ * 2 ^ e₂))
      (UnpackedFloat.mul .binary64 (.finite .positive m₁ e₁ h₁) (.finite .positive m₂ e₂ h₂)) := by
  refine ⟨m₁ * m₂, e₁ + e₂, .exact, ?_, he, rfl⟩
  have hv : (m₁ : ℚ) * 2 ^ e₁ * (m₂ * 2 ^ e₂) / 2 ^ (e₁ + e₂) = (m₁ * m₂ : ℕ) := by
    rw [zpow_add₀ two_ne_zero]
    push_cast
    field_simp
  rw [hv]
  exact locates_exact _

/-- A quotient is computed with enough bits to round it. -/
theorem exists_divCore_eq (m₁ m₂ : ℕ) (e₁ e₂ : ℤ) :
    ∃ (t : ℤ) (n : ℕ), e₁ - e₂ = t + n ∧
      t ≤ Format.binary64.targetExponent (totalExponent m₁ e₁ - totalExponent m₂ e₂) ∧
      divCore .binary64 m₁ e₁ m₂ e₂ =
        (m₁ * 2 ^ n / m₂, t, accuracyOfFraction (m₁ * 2 ^ n % m₂) m₂) := by
  let t := min (e₁ - e₂)
    (Format.binary64.targetExponent (totalExponent m₁ e₁ - totalExponent m₂ e₂))
  refine ⟨t, (e₁ - e₂ - t).toNat, ?_, min_le_right _ _, ?_⟩
  · have : t ≤ e₁ - e₂ := min_le_left _ _
    omega
  · unfold divCore
    dsimp only
    rw [Nat.shiftLeft_eq]

/-- The bits before the point of a quotient are at least those of the numerator without those of the
denominator. -/
theorem le_log_div {m₁ m₂ : ℕ} (e₁ e₂ : ℤ) (h₁ : 0 < m₁) (h₂ : 0 < m₂) :
    totalExponent m₁ e₁ - totalExponent m₂ e₂ ≤
      Int.log 2 ((m₁ : ℚ) * 2 ^ e₁ / (m₂ * 2 ^ e₂)) + 1 := by
  have hm₁ : (0 : ℚ) < m₁ := by exact_mod_cast h₁
  have hm₂ : (0 : ℚ) < m₂ := by exact_mod_cast h₂
  have hself₁ : ((2 ^ m₁.log2 : ℕ) : ℚ) ≤ m₁ := by exact_mod_cast Nat.log2_self_le h₁.ne'
  have hself₂ : (m₂ : ℚ) ≤ (2 ^ (m₂.log2 + 1) : ℕ) := by
    exact_mod_cast (Nat.lt_log2_self (n := m₂)).le
  have hle : ((2 : ℕ) : ℚ) ^ ((m₁.log2 : ℤ) + e₁ - (m₂.log2 + 1 + e₂)) ≤
      m₁ * 2 ^ e₁ / (m₂ * 2 ^ e₂) := by
    rw [le_div_iff₀ (by positivity)]
    push_cast at hself₁ hself₂ ⊢
    calc (2 : ℚ) ^ ((m₁.log2 : ℤ) + e₁ - (m₂.log2 + 1 + e₂)) * (m₂ * 2 ^ e₂)
        ≤ 2 ^ ((m₁.log2 : ℤ) + e₁ - (m₂.log2 + 1 + e₂)) * (2 ^ (m₂.log2 + 1) * 2 ^ e₂) := by
          gcongr
      _ = 2 ^ m₁.log2 * 2 ^ e₁ := by
          rw [← zpow_natCast, ← zpow_natCast, ← zpow_add₀ two_ne_zero, ← zpow_add₀ two_ne_zero,
            ← zpow_add₀ two_ne_zero]
          congr 1
          push_cast
          ring
      _ ≤ m₁ * 2 ^ e₁ := by gcongr
  have hlog := (Int.zpow_le_iff_le_log (by norm_num) (by positivity)).1 hle
  unfold totalExponent
  omega

/-- The quotient of two positive values is rounded. -/
theorem rounds_div {m₁ m₂ : ℕ} {e₁ e₂ : ℤ} (h₁ : 0 < m₁) (h₂ : 0 < m₂) :
    Rounds (m₁ * 2 ^ e₁ / (m₂ * 2 ^ e₂))
      (UnpackedFloat.div .binary64 (.finite .positive m₁ e₁ h₁) (.finite .positive m₂ e₂ h₂)) := by
  obtain ⟨t, n, ht, hle, hcore⟩ := exists_divCore_eq m₁ m₂ e₁ e₂
  refine ⟨m₁ * 2 ^ n / m₂, t, accuracyOfFraction (m₁ * 2 ^ n % m₂) m₂, ?_, ?_, ?_⟩
  · have hm₂ : (m₂ : ℚ) ≠ 0 := by exact_mod_cast h₂.ne'
    have hv : (m₁ : ℚ) * 2 ^ e₁ / (m₂ * 2 ^ e₂) / 2 ^ t = (m₁ * 2 ^ n : ℕ) / m₂ := by
      rw [show e₁ = t + n + e₂ by omega, zpow_add₀ two_ne_zero, zpow_add₀ two_ne_zero, zpow_natCast]
      push_cast
      field_simp
    rw [hv]
    exact locates_fraction _ h₂
  · have hlog := le_log_div e₁ e₂ h₁ h₂
    unfold targetOf
    rw [targetExponent_eq] at hle ⊢
    omega
  · show roundWithAccuracy .binary64 .positive (divCore .binary64 m₁ e₁ m₂ e₂).1
      (divCore .binary64 m₁ e₁ m₂ e₂).2.1 (divCore .binary64 m₁ e₁ m₂ e₂).2.2 = _
    rw [hcore]

/-! ## Packed values -/

/-- A mantissa with the implicit bit in front. -/
theorem toNat_one_append (m : BitVec 52) : (1#1 ++ m).toNat = 2 ^ 52 + m.toNat := by
  rw [BitVec.toNat_append, ← Nat.shiftLeft_add_eq_or_of_lt m.isLt]
  rfl

/-- A mantissa of all its bits. -/
theorem log2_eq {m : ℕ} (hle : 2 ^ 52 ≤ m) (hlt : m < 2 ^ 53) : m.log2 = 52 := by
  have hm : m ≠ 0 := by omega
  have h1 := (Nat.le_log2 hm).2 hle
  have h2 := (Nat.log2_lt hm).2 hlt
  omega

/-- What bits unpack to is in canonical form. -/
theorem canonical_of_unpack {bits : BitVec Format.binary64.numBits} {s : Sign} {m : ℕ} {e : ℤ}
    {hm : 0 < m} (h : UnpackedFloat.unpack .binary64 bits = .finite s m e hm) :
    Canonical m e ∧ e ≤ 971 := by
  have hexponent : (unpackExponent bits).toNat < 2048 := (unpackExponent bits).isLt
  have hmantissa : (unpackMantissa bits).toNat < 2 ^ 52 := (unpackMantissa bits).isLt
  unfold UnpackedFloat.unpack at h
  dsimp only at h
  split at h
  · split at h <;> cases h
  · rename_i hgreatest
    have hlt : (unpackExponent bits).toNat ≠ 2047 := fun heq =>
      hgreatest (BitVec.eq_of_toNat_eq heq)
    split at h
    · split at h
      · cases h
      · -- The exponent is the least one, and the mantissa may be short.
        rename_i hleast hzero
        obtain ⟨-, rfl, rfl⟩ := UnpackedFloat.finite.inj h
        have hlog := (Nat.log2_lt hm.ne').2 hmantissa
        rw [hleast]
        refine ⟨⟨hm, ?_⟩, by decide⟩
        show (-1074 : ℤ) = max (((unpackMantissa bits).toNat.log2 : ℤ) + (-1074) - 52) (-1074)
        omega
    · rename_i hleast
      have hne : (unpackExponent bits).toNat ≠ 0 := fun heq => hleast (BitVec.eq_of_toNat_eq heq)
      obtain ⟨-, rfl, rfl⟩ := UnpackedFloat.finite.inj h
      have htoNat := toNat_one_append (unpackMantissa bits)
      have hlog := log2_eq (m := (1#1 ++ unpackMantissa bits).toNat) (by omega) (by omega)
      refine ⟨⟨hm, ?_⟩, ?_⟩
      · rw [hlog]
        change ((unpackExponent bits).toNat : ℤ) - 1075 =
          max (((52 : ℕ) : ℤ) + ((unpackExponent bits).toNat - 1075) - 52) (-1074)
        omega
      · change ((unpackExponent bits).toNat : ℤ) - 1075 ≤ 971
        omega

/-- Bits of an exponent that is neither the least nor the greatest. -/
theorem ofNat_exponent {n : ℕ} (hpos : 0 < n) (hlt : n < 2047) :
    (BitVec.ofNat 11 n).toNat = n ∧ BitVec.ofNat 11 n ≠ -1#11 ∧ BitVec.ofNat 11 n ≠ 0#11 := by
  have htoNat : (BitVec.ofNat 11 n).toNat = n := by
    rw [BitVec.toNat_ofNat, Nat.mod_eq_of_lt (by omega)]
  refine ⟨htoNat, fun heq => ?_, fun heq => ?_⟩
  · have := htoNat.symm.trans (congrArg BitVec.toNat heq)
    change n = 2047 at this
    omega
  · have := htoNat.symm.trans (congrArg BitVec.toNat heq)
    change n = 0 at this
    omega

/-- A value in canonical form that is not too large is packed and unpacked again. -/
theorem Canonical.unpack_pack {m : ℕ} {e : ℤ} (h : Canonical m e) (he : e ≤ 971) (s : Sign) :
    (Float.Model.pack (.finite s m e h.pos)).unpack = .finite s m e h.pos := by
  have hexponent := h.exponent_eq
  have hlt := Nat.lt_log2_self (n := m)
  obtain ⟨n, hn⟩ : ∃ n : ℕ, e + 1075 = n := ⟨(e + 1075).toNat, by omega⟩
  have hbiased : (e + Format.binary64.exponentBias + (52 : ℕ)).toNat = n := by
    change (e + 1023 + 52).toNat = n
    omega
  show UnpackedFloat.unpack .binary64 (UnpackedFloat.pack .binary64 _) = _
  unfold UnpackedFloat.pack
  dsimp only
  rw [hbiased, if_neg (by change ¬ 2048 ≤ n + 1; omega)]
  by_cases hlog : m.log2 = 52
  · -- The implicit bit is the first bit of the mantissa.
    obtain ⟨htoNat, hgreatest, hleast⟩ := ofNat_exponent (n := n) (by omega) (by omega)
    have hle := Nat.log2_self_le h.pos.ne'
    have hmantissa : (1#1 ++ BitVec.ofNat 52 m).toNat = m := by
      rw [hlog] at hle hlt
      rw [toNat_one_append, BitVec.toNat_ofNat]
      omega
    rw [if_pos (by rw [hlog]; rfl)]
    unfold UnpackedFloat.unpack
    simp only [unpackMantissa_packComponents, unpackExponent_packComponents,
      unpackSign_packComponents, Sign.ofBitVec_toBitVec]
    rw [if_neg hgreatest, if_neg hleast]
    simp only [hmantissa, htoNat]
    congr 1
    change (n : ℤ) - 1075 = e
    omega
  · -- The mantissa is short, so that the exponent is the least one.
    have hshort : m < 2 ^ 52 := lt_of_lt_of_le hlt (Nat.pow_le_pow_right (by norm_num) (by omega))
    have hmantissa : (BitVec.ofNat 52 m).toNat = m := by
      rw [BitVec.toNat_ofNat, Nat.mod_eq_of_lt hshort]
    have hzero : BitVec.ofNat 52 m ≠ 0#52 := fun heq => by
      have := hmantissa.symm.trans (congrArg BitVec.toNat heq)
      exact h.pos.ne' this
    rw [if_neg (by change ¬ m.log2 + 1 = 53; omega)]
    unfold UnpackedFloat.unpack
    simp only [unpackMantissa_packComponents, unpackExponent_packComponents,
      unpackSign_packComponents, Sign.ofBitVec_toBitVec]
    rw [if_neg (by decide), if_pos trivial, dif_neg hzero]
    simp only [hmantissa]
    congr 1
    change (0 : ℤ) - 1075 + 1 = e
    omega

end MetricAlgebra.Binary64
