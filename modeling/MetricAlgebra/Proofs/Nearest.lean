import MetricAlgebra.Proofs.Binary64

/-!
# The value nearest to a number

A rational number is rounded in units of its last place, to the nearest multiple and on a tie to the
even one (`Binary64.nearest`). Rounding moves a number by at most half a unit
(`Binary64.abs_nearest_sub_le`), keeps the order (`Binary64.nearest_mono`) and leaves alone what is
a value: the multiples of a unit by at most `2 ^ 53` (`Binary64.nearest_intCast_mul_zpow`), and so
the integers of at most that size and the finite values (`Binary64.nearest_toRat`). An integer of
any size is rounded to an integer, by no more than a part in `2 ^ 53`
(`Binary64.abs_nearest_intCast_sub_le`). Numbers below `2 ^ 52` that are one apart do not get the
same integer part (`Binary64.floor_nearest_add_one_le`).
-/

namespace MetricAlgebra.Binary64

open Float.Model Float.Model.UnpackedFloat

/-! ## The nearest integer -/

/-- The nearest integer, where a half goes to the even neighbour. -/
def halfEven (x : ℚ) : ℤ :=
  if Int.fract x < 1 / 2 then ⌊x⌋
  else if 1 / 2 < Int.fract x then ⌊x⌋ + 1
  else ⌊x⌋ + ⌊x⌋ % 2

/-- An integer is its own nearest one. -/
theorem halfEven_intCast (n : ℤ) : halfEven n = n := by
  unfold halfEven
  rw [Int.fract_intCast, if_pos (by norm_num), Int.floor_intCast]

/-- What is less than half a unit below an integer does not go below it. -/
theorem le_halfEven {n : ℤ} {x : ℚ} (h : (n : ℚ) - 1 / 2 < x) : n ≤ halfEven x := by
  have hfract := Int.floor_add_fract x
  have hlt := Int.fract_lt_one x
  unfold halfEven
  by_cases hn : n ≤ ⌊x⌋
  · split_ifs <;> omega
  · -- The number is below the integer, so that it is in the upper half of its interval.
    have hfloor : n = ⌊x⌋ + 1 := by
      have hx : (n : ℚ) - 1 < ⌊x⌋ + 1 := by linarith
      have : n - 1 < ⌊x⌋ + 1 := by exact_mod_cast hx
      omega
    have hupper : 1 / 2 < Int.fract x := by
      have : (n : ℚ) = ⌊x⌋ + 1 := by exact_mod_cast hfloor
      linarith
    rw [if_neg (not_lt.2 hupper.le), if_pos hupper]
    omega

/-- What is less than half a unit above an integer does not go above it. -/
theorem halfEven_le {n : ℤ} {x : ℚ} (h : x < n + 1 / 2) : halfEven x ≤ n := by
  have hfract := Int.floor_add_fract x
  have hnonneg := Int.fract_nonneg x
  have hfloor : ⌊x⌋ ≤ n := by
    have hx : (⌊x⌋ : ℚ) < n + 1 := by linarith
    have : ⌊x⌋ < n + 1 := by exact_mod_cast hx
    omega
  unfold halfEven
  by_cases hn : ⌊x⌋ + 1 ≤ n
  · split_ifs <;> omega
  · -- The number is at or above the integer, so that it is in the lower half of its interval.
    have hlower : Int.fract x < 1 / 2 := by
      have : (n : ℚ) = ⌊x⌋ := by exact_mod_cast (by omega : n = ⌊x⌋)
      linarith
    rw [if_pos hlower]
    exact hfloor

/-- The nearest integer is at most half a unit away. -/
theorem abs_halfEven_sub_le (x : ℚ) : |(halfEven x : ℚ) - x| ≤ 1 / 2 := by
  have hfract := Int.floor_add_fract x
  have hnonneg := Int.fract_nonneg x
  have hlt := Int.fract_lt_one x
  unfold halfEven
  rw [abs_le]
  split_ifs with hlower hupper
  · constructor <;> linarith
  · push_cast
    constructor <;> linarith
  · -- On a tie both neighbours are half a unit away.
    have htie : Int.fract x = 1 / 2 := le_antisymm (not_lt.1 hupper) (not_lt.1 hlower)
    rcases Int.emod_two_eq_zero_or_one ⌊x⌋ with heven | hodd
    · rw [heven]
      push_cast
      constructor <;> linarith
    · rw [hodd]
      push_cast
      constructor <;> linarith

/-- Even integers can be taken out. -/
theorem halfEven_add_two_mul (x : ℚ) (k : ℤ) : halfEven (x + 2 * k) = halfEven x + 2 * k := by
  have hcast : x + 2 * k = x + ((2 * k : ℤ) : ℚ) := by push_cast; ring
  unfold halfEven
  rw [hcast, Int.fract_add_intCast, Int.floor_add_intCast, Int.add_mul_emod_self_left]
  split_ifs <;> ring

/-- Rounding to integers keeps the order. -/
theorem halfEven_mono {x y : ℚ} (h : x ≤ y) : halfEven x ≤ halfEven y := by
  by_cases hlt : (halfEven x : ℚ) - 1 / 2 < y
  · exact le_halfEven hlt
  · -- Half a unit below its nearest integer, a number is a tie, and so it is the other one.
    have hx := (abs_le.1 (abs_halfEven_sub_le x)).2
    have heq : x = y := le_antisymm h (by linarith)
    rw [heq]

/-- Numbers of both signs are rounded alike. -/
theorem halfEven_neg (x : ℚ) : halfEven (-x) = -halfEven x := by
  by_cases hint : Int.fract x = 0
  · have hx : x = (⌊x⌋ : ℤ) := by
      have := Int.floor_add_fract x
      linarith
    rw [hx, ← Int.cast_neg, halfEven_intCast, halfEven_intCast]
  · -- The parts behind the point add up to one, and the integer parts to minus one.
    have hfract : Int.fract (-x) = 1 - Int.fract x := Int.fract_neg hint
    have hfloor : ⌊-x⌋ = -⌊x⌋ - 1 := by
      have h := Int.floor_add_fract (-x)
      have h' := Int.floor_add_fract x
      have hcast : (⌊-x⌋ : ℚ) = ((-⌊x⌋ - 1 : ℤ) : ℚ) := by push_cast; linarith
      exact_mod_cast hcast
    unfold halfEven
    rw [hfract, hfloor]
    split_ifs <;> first
      | omega
      | (exfalso; linarith)

/-- The mantissa that the residual bits ask for is the nearest integer. -/
theorem Locates.roundedMantissa_eq {em : ExtendedMantissa} {x : ℚ} (h : Locates em x) :
    (em.roundedMantissa : ℤ) = halfEven x := by
  have hfloor := h.floor_eq
  have hfract : Int.fract x = x - em.mantissa := by
    rw [← Int.self_sub_floor, hfloor]
    push_cast
    rfl
  unfold halfEven
  rw [hfloor, hfract]
  obtain ⟨m, r, s⟩ := em
  cases r <;> cases s <;> simp only [Locates] at h
  · rw [if_pos (by linarith)]
    rfl
  · rw [if_pos (by linarith)]
    rfl
  · rw [if_neg (by linarith), if_neg (by linarith)]
    show ((m + m % 2 : ℕ) : ℤ) = m + m % 2
    push_cast
    rfl
  · rw [if_neg (by linarith), if_pos (by linarith)]
    rfl

/-! ## The units of the last place -/

/-- There are no lesser units than those of the least values. -/
theorem le_targetOf (v : ℚ) : -1074 ≤ targetOf v := le_max_right _ _

/-- The unit of the last place is 53 bits below the first one, unless it is the least one. -/
theorem targetOf_eq_max (v : ℚ) : targetOf v = max (Int.log 2 v + 1 - 53) (-1074) := rfl

/-- Greater numbers have no smaller units. -/
theorem targetOf_mono {v w : ℚ} (hv : 0 < v) (h : v ≤ w) : targetOf v ≤ targetOf w := by
  have hlog : Int.log 2 v ≤ Int.log 2 w := Int.log_mono_right hv h
  rw [targetOf_eq_max, targetOf_eq_max]
  omega

/-- Numbers of few bits have units that are no greater than the bits left. -/
theorem targetOf_le_of_lt {v : ℚ} (hv : 0 < v) {k : ℤ} (hk : -1021 ≤ k) (h : v < 2 ^ k) :
    targetOf v ≤ k - 53 := by
  have hlog : Int.log 2 v < k := by
    refine (Int.lt_zpow_iff_log_lt (by norm_num) hv).1 ?_
    rwa [Nat.cast_ofNat]
  rw [targetOf_eq_max]
  omega

/-- The units of the last place of a number: fewer than `2 ^ 53` of them make it up, and at least
`2 ^ 52` unless they are the least ones that there are. -/
theorem targetOf_spec {v : ℚ} (hv : 0 < v) :
    v / 2 ^ targetOf v < 2 ^ 53 ∧ (targetOf v = -1074 ∨ 2 ^ 52 ≤ v / 2 ^ targetOf v) := by
  have hunit : (0 : ℚ) < 2 ^ targetOf v := by positivity
  have hlow := Int.zpow_log_le_self (b := 2) (by norm_num) hv
  have hhigh := Int.lt_zpow_succ_log_self (b := 2) (by norm_num) v
  have htarget := targetOf_eq_max v
  push_cast at hlow hhigh
  rw [div_lt_iff₀ hunit, le_div_iff₀ hunit, ← zpow_natCast, ← zpow_natCast,
    ← zpow_add₀ two_ne_zero, ← zpow_add₀ two_ne_zero]
  refine ⟨lt_of_lt_of_le hhigh (zpow_le_zpow_right₀ (by norm_num) (by omega)), ?_⟩
  by_cases hleast : targetOf v = -1074
  · exact .inl hleast
  · refine .inr (le_trans (le_of_eq ?_) hlow)
    congr 1
    omega

/-! ## The nearest value -/

/-- The value nearest to a number: the nearest multiple of the unit of its last place, on a tie the
even one. -/
def nearest (v : ℚ) : ℚ := halfEven (v / 2 ^ targetOf |v|) * 2 ^ targetOf |v|

/-- The nearest value to a positive number. -/
theorem nearest_of_pos {v : ℚ} (hv : 0 < v) :
    nearest v = halfEven (v / 2 ^ targetOf v) * 2 ^ targetOf v := by
  rw [nearest, abs_of_pos hv]

/-- The nearest values to numbers of both signs are alike. -/
theorem nearest_neg (v : ℚ) : nearest (-v) = -nearest v := by
  unfold nearest
  rw [abs_neg, neg_div, halfEven_neg]
  push_cast
  ring

/-- Zero is a value. -/
theorem nearest_zero : nearest 0 = 0 := by
  have h := halfEven_intCast 0
  rw [Int.cast_zero] at h
  unfold nearest
  rw [zero_div, h, Int.cast_zero, zero_mul]

/-- The nearest value is at most half a unit of the last place away. -/
theorem abs_nearest_sub_le (v : ℚ) : |nearest v - v| ≤ 2 ^ targetOf |v| / 2 := by
  unfold nearest
  generalize targetOf |v| = t
  have hunit : (0 : ℚ) < 2 ^ t := by positivity
  have hdist := abs_halfEven_sub_le (v / 2 ^ t)
  calc |(halfEven (v / 2 ^ t) : ℚ) * 2 ^ t - v|
      = |(halfEven (v / 2 ^ t) : ℚ) - v / 2 ^ t| * 2 ^ t := by
        rw [← abs_of_pos hunit, ← abs_mul, abs_of_pos hunit, sub_mul,
          div_mul_cancel₀ _ hunit.ne']
    _ ≤ 1 / 2 * 2 ^ t := by gcongr
    _ = 2 ^ t / 2 := by ring

/-- The nearest value to a number that is not too small is away by no more than a part in
`2 ^ 53` of it. -/
theorem abs_nearest_sub_le_mul {v : ℚ} (hv : 2 ^ (-1022 : ℤ) ≤ v) :
    |nearest v - v| ≤ v / 2 ^ 53 := by
  have hpos : 0 < v := lt_of_lt_of_le (by positivity) hv
  have hunit : (0 : ℚ) < 2 ^ targetOf v := by positivity
  have hdist := abs_nearest_sub_le v
  rw [abs_of_pos hpos] at hdist
  -- The last place has at least `2 ^ 52` units, also where the unit is the least one.
  have hmany : 2 ^ 52 ≤ v / 2 ^ targetOf v := by
    rcases (targetOf_spec hpos).2 with hleast | hmany
    · rw [hleast, le_div_iff₀ (by positivity), ← zpow_natCast, ← zpow_add₀ two_ne_zero]
      exact hv
    · exact hmany
  rw [le_div_iff₀ hunit] at hmany
  linarith

/-- A multiple of a unit by at most `2 ^ 53` is a value. -/
theorem nearest_intCast_mul_zpow {k e : ℤ} (hk : |k| ≤ 2 ^ 53) (he : -1074 ≤ e) :
    nearest (k * 2 ^ e) = k * 2 ^ e := by
  rcases eq_or_ne k 0 with rfl | hne
  · rw [Int.cast_zero, zero_mul, nearest_zero]
  have habs : |(k : ℚ) * 2 ^ e| = (|k| : ℤ) * 2 ^ e := by
    rw [abs_mul, abs_of_pos (by positivity : (0 : ℚ) < 2 ^ e), Int.cast_abs]
  have hkpos : (0 : ℚ) < (|k| : ℤ) := by exact_mod_cast abs_pos.2 hne
  have hv : (0 : ℚ) < (|k| : ℤ) * 2 ^ e := by positivity
  -- It is enough that the number is an integer in units of its last place.
  suffices hint : ∃ n : ℤ, (k : ℚ) * 2 ^ e / 2 ^ targetOf |(k : ℚ) * 2 ^ e| = n by
    obtain ⟨n, hn⟩ := hint
    rw [nearest, hn, halfEven_intCast, ← hn, div_mul_cancel₀ _ (by positivity)]
  rw [habs]
  generalize htarget : targetOf ((|k| : ℤ) * 2 ^ e) = t
  by_cases ht : t ≤ e
  · refine ⟨k * 2 ^ (e - t).toNat, ?_⟩
    have hsplit : (2 : ℚ) ^ e = 2 ^ (e - t).toNat * 2 ^ t := by
      rw [← zpow_natCast, ← zpow_add₀ two_ne_zero]
      congr 1
      omega
    rw [hsplit, ← mul_assoc, mul_div_cancel_right₀ _ (by positivity)]
    push_cast
    rfl
  · -- The unit is greater than the given one only if the multiple is `2 ^ 53`, which is even.
    have hmany : (2 : ℚ) ^ 52 * 2 ^ t ≤ (|k| : ℤ) * 2 ^ e := by
      rcases (targetOf_spec hv).2 with hleast | hmany
      · omega
      · rwa [htarget, le_div_iff₀ (by positivity)] at hmany
    have hsplit : (2 : ℚ) ^ t = 2 ^ (t - e).toNat * 2 ^ e := by
      rw [← zpow_natCast, ← zpow_add₀ two_ne_zero]
      congr 1
      omega
    have hle : 2 ^ 52 * 2 ^ (t - e).toNat ≤ |k| := by
      rw [hsplit, ← mul_assoc] at hmany
      exact_mod_cast le_of_mul_le_mul_right hmany (by positivity)
    have hone : (t - e).toNat = 1 := by
      by_contra hne
      have hpow : (2 : ℤ) ^ 2 ≤ 2 ^ (t - e).toNat := pow_le_pow_right₀ (by norm_num) (by omega)
      omega
    rw [hone] at hle
    obtain ⟨n, hn⟩ : ∃ n, k = 2 * n := by
      rcases abs_choice k with h | h
      · exact ⟨2 ^ 52, by omega⟩
      · exact ⟨-2 ^ 52, by omega⟩
    refine ⟨n, ?_⟩
    rw [hsplit, hone, hn]
    push_cast
    field_simp

/-- An integer of at most `2 ^ 53` is a value. -/
theorem nearest_intCast {n : ℤ} (hn : |n| ≤ 2 ^ 53) : nearest n = n := by
  have h := nearest_intCast_mul_zpow (e := 0) hn (by norm_num)
  rwa [zpow_zero, mul_one] at h

/-- A natural number of at most `2 ^ 53` is a value. -/
theorem nearest_natCast {n : ℕ} (hn : n ≤ 2 ^ 53) : nearest (n : ℚ) = n := by
  have habs : |(n : ℤ)| ≤ 2 ^ 53 := by
    rw [abs_of_nonneg (Int.natCast_nonneg n)]
    exact_mod_cast hn
  have h := nearest_intCast habs
  rwa [Int.cast_natCast] at h

/-- The parts of a finite value are those of a multiple of a unit. -/
theorem Canonical.bounds {m : ℕ} {e : ℤ} (h : Canonical m e) : m < 2 ^ 53 ∧ -1074 ≤ e := by
  have hexponent := h.exponent_eq
  have hlog : m.log2 < 53 := by omega
  exact ⟨(Nat.log2_lt h.pos.ne').1 hlog, by omega⟩

/-- A value in canonical form is positive. -/
theorem Canonical.value_pos {m : ℕ} {e : ℤ} (h : Canonical m e) : (0 : ℚ) < m * 2 ^ e := by
  have hm : (0 : ℚ) < m := by exact_mod_cast h.pos
  positivity

/-- A finite value is its own nearest one. -/
theorem nearest_toRat {x : Float} {q : ℚ} (h : toRat? x = some q) : nearest q = q := by
  unfold toRat? at h
  split at h
  · obtain rfl := Option.some.inj h
    exact nearest_zero
  · rename_i s m e hm hx
    obtain rfl := Option.some.inj h
    obtain ⟨hlt, he⟩ := (canonical_of_unpack hx).1.bounds
    refine nearest_intCast_mul_zpow ?_ he
    have habs : |s.apply m| = (m : ℤ) := by
      cases s with
      | positive => exact abs_of_nonneg (Int.natCast_nonneg m)
      | negative => exact (abs_neg _).trans (abs_of_nonneg (Int.natCast_nonneg m))
    rw [habs]
    exact_mod_cast hlt.le
  · cases h

/-- The nearest values to positive numbers are in their order. -/
theorem nearest_le_nearest_of_pos {v w : ℚ} (hv : 0 < v) (h : v ≤ w) : nearest v ≤ nearest w := by
  have hw : 0 < w := lt_of_lt_of_le hv h
  rw [nearest_of_pos hv, nearest_of_pos hw]
  rcases (targetOf_mono hv h).eq_or_lt with hunit | hunit
  · rw [hunit]
    have hle : halfEven (v / 2 ^ targetOf w) ≤ halfEven (w / 2 ^ targetOf w) := by
      refine halfEven_mono ?_
      gcongr
    gcongr
  · -- Between numbers with different units there is a power of two, which is a multiple of both.
    have hlow : halfEven (v / 2 ^ targetOf v) ≤ 2 ^ 53 := by
      refine halfEven_le ?_
      push_cast
      linarith [(targetOf_spec hv).1]
    have hhigh : 2 ^ 52 ≤ halfEven (w / 2 ^ targetOf w) := by
      refine le_halfEven ?_
      push_cast
      rcases (targetOf_spec hw).2 with hleast | hmany
      · exact absurd (le_targetOf v) (by omega)
      · linarith
    have hlow' : (halfEven (v / 2 ^ targetOf v) : ℚ) ≤ 2 ^ 53 := by exact_mod_cast hlow
    have hhigh' : (2 : ℚ) ^ 52 ≤ halfEven (w / 2 ^ targetOf w) := by exact_mod_cast hhigh
    calc (halfEven (v / 2 ^ targetOf v) : ℚ) * 2 ^ targetOf v
        ≤ 2 ^ 53 * 2 ^ targetOf v := by gcongr
      _ = 2 ^ (53 + targetOf v) := by rw [zpow_add₀ two_ne_zero]; rfl
      _ ≤ 2 ^ (52 + targetOf w) := zpow_le_zpow_right₀ (by norm_num) (by omega)
      _ = 2 ^ 52 * 2 ^ targetOf w := by rw [zpow_add₀ two_ne_zero]; rfl
      _ ≤ halfEven (w / 2 ^ targetOf w) * 2 ^ targetOf w := by gcongr

/-- The nearest value to a number that is not negative is not negative. -/
theorem nearest_nonneg {v : ℚ} (hv : 0 ≤ v) : 0 ≤ nearest v := by
  have hle : halfEven ((0 : ℤ) : ℚ) ≤ halfEven (v / 2 ^ targetOf |v|) := by
    refine halfEven_mono ?_
    rw [Int.cast_zero]
    positivity
  rw [halfEven_intCast] at hle
  have hle' : (0 : ℚ) ≤ halfEven (v / 2 ^ targetOf |v|) := by exact_mod_cast hle
  unfold nearest
  positivity

/-- The nearest values are in the order of the numbers. -/
theorem nearest_mono {v w : ℚ} (h : v ≤ w) : nearest v ≤ nearest w := by
  rcases lt_or_ge 0 v with hv | hv
  · exact nearest_le_nearest_of_pos hv h
  have hv' : 0 ≤ nearest (-v) := nearest_nonneg (by linarith)
  rw [nearest_neg] at hv'
  rcases le_or_gt 0 w with hw | hw
  · linarith [nearest_nonneg hw]
  · have hneg := nearest_le_nearest_of_pos (neg_pos.2 hw) (neg_le_neg h)
    rw [nearest_neg, nearest_neg] at hneg
    linarith

/-- The value nearest to an integer is an integer. -/
theorem exists_nearest_intCast (n : ℤ) : ∃ k : ℤ, nearest n = k := by
  rcases le_or_gt |n| (2 ^ 53) with hsmall | hlarge
  · exact ⟨n, nearest_intCast hsmall⟩
  · -- An integer with more bits than that has a unit of the last place above one.
    have hlarge' : (2 : ℚ) ^ 53 < |(n : ℚ)| := by exact_mod_cast hlarge
    have hpos : 0 < |(n : ℚ)| := by linarith
    have hunit : 0 ≤ targetOf |(n : ℚ)| := by
      by_contra hneg
      have hle : (2 : ℚ) ^ targetOf |(n : ℚ)| ≤ 1 := zpow_le_one_of_nonpos₀ (by norm_num) (by omega)
      have hlt := (targetOf_spec hpos).1
      rw [div_lt_iff₀ (by positivity)] at hlt
      linarith
    obtain ⟨k, hk⟩ := Int.eq_ofNat_of_zero_le hunit
    refine ⟨halfEven (n / 2 ^ targetOf |(n : ℚ)|) * 2 ^ k, ?_⟩
    rw [nearest, hk]
    push_cast
    rfl

/-- The value nearest to an integer is away by no more than a part in `2 ^ 53` of it. -/
theorem abs_nearest_intCast_sub_le (n : ℤ) : |nearest n - n| ≤ |(n : ℚ)| / 2 ^ 53 := by
  -- An integer other than zero is far from the numbers that are too small.
  have hpositive {k : ℤ} (hk : 0 < k) : |nearest k - k| ≤ (k : ℚ) / 2 ^ 53 := by
    have hone : (1 : ℚ) ≤ k := by exact_mod_cast hk
    have hpow : (2 : ℚ) ^ (-1022 : ℤ) ≤ 1 := zpow_le_one_of_nonpos₀ (by norm_num) (by norm_num)
    exact abs_nearest_sub_le_mul (hpow.trans hone)
  rcases lt_trichotomy n 0 with hneg | rfl | hpos
  · have h := hpositive (k := -n) (by omega)
    have hneg' : (n : ℚ) < 0 := by exact_mod_cast hneg
    rw [Int.cast_neg, nearest_neg, ← neg_sub', abs_neg] at h
    rwa [abs_of_neg hneg']
  · rw [Int.cast_zero, nearest_zero]
    norm_num
  · have hpos' : (0 : ℚ) < n := by exact_mod_cast hpos
    rw [abs_of_pos hpos']
    exact hpositive hpos

/-! ## Integer parts -/

/-- Units of no more than one divide one. -/
theorem two_pow_toNat_mul_zpow {t : ℤ} (ht : t ≤ 0) : (2 : ℚ) ^ (-t).toNat * 2 ^ t = 1 := by
  have hexponent : ((-t).toNat : ℤ) + t = 0 := by omega
  rw [← zpow_natCast, ← zpow_add₀ two_ne_zero, hexponent, zpow_zero]

/-- In the same units, which divide one into an even number of parts, one more is one more after
rounding too. -/
theorem nearest_add_one {x : ℚ} (hx : 0 < x) (hunit : targetOf x < 0)
    (hsame : targetOf (x + 1) = targetOf x) : nearest (x + 1) = nearest x + 1 := by
  have hone := two_pow_toNat_mul_zpow hunit.le
  obtain ⟨k, hk⟩ : ∃ k, (-targetOf x).toNat = k + 1 := ⟨(-targetOf x).toNat - 1, by omega⟩
  rw [hk, pow_succ'] at hone
  have hunits : (x + 1) / 2 ^ targetOf x = x / 2 ^ targetOf x + 2 * ((2 ^ k : ℤ) : ℚ) := by
    rw [add_div, add_right_inj, eq_comm, eq_div_iff (by positivity)]
    push_cast
    exact hone
  rw [nearest_of_pos (by linarith), nearest_of_pos hx, hsame, hunits, halfEven_add_two_mul]
  push_cast
  rw [add_mul, hone]

/-- A number that is less than half a unit below an integer is not rounded to less than that, if the
unit divides one. -/
theorem le_nearest_of_lt {v : ℚ} (hv : 0 < v) (hunit : targetOf v ≤ 0) {n : ℤ}
    (h : (n : ℚ) - 2 ^ targetOf v / 2 < v) : (n : ℚ) ≤ nearest v := by
  have hone := two_pow_toNat_mul_zpow hunit
  let k : ℤ := n * 2 ^ (-targetOf v).toNat
  have hk : (k : ℚ) * 2 ^ targetOf v = n := by
    push_cast [k]
    rw [mul_assoc, hone, mul_one]
  have hround : k ≤ halfEven (v / 2 ^ targetOf v) := by
    refine le_halfEven ?_
    rw [lt_div_iff₀ (by positivity), sub_mul, hk]
    linarith
  have hround' : (k : ℚ) ≤ halfEven (v / 2 ^ targetOf v) := by exact_mod_cast hround
  calc (n : ℚ) = k * 2 ^ targetOf v := hk.symm
    _ ≤ halfEven (v / 2 ^ targetOf v) * 2 ^ targetOf v := by gcongr
    _ = nearest v := (nearest_of_pos hv).symm

/-- Numbers that are one apart are rounded to values whose integer parts are one apart, as long as
they have a bit left behind the point. -/
theorem floor_nearest_add_one_le {x y : ℚ} (hx : 0 < x) (hxy : x + 1 ≤ y) (hy : y ≤ 2 ^ 52) :
    ⌊nearest x⌋ + 1 ≤ ⌊nearest y⌋ := by
  have hxone : (0 : ℚ) < x + 1 := by linarith
  have hunit := targetOf_le_of_lt hx (k := 52) (by norm_num) (lt_of_lt_of_le (by linarith) hy)
  have hunit' : targetOf (x + 1) ≤ 0 :=
    targetOf_le_of_lt hxone (k := 53) (by norm_num) (lt_of_le_of_lt (hxy.trans hy) (by norm_num))
  obtain ⟨n, hn⟩ : ∃ n, ⌊nearest x⌋ = n := ⟨_, rfl⟩
  have hfloor : (n : ℚ) ≤ nearest x := Int.le_floor.1 hn.ge
  suffices hone : ((n + 1 : ℤ) : ℚ) ≤ nearest (x + 1) by
    rw [hn, Int.le_floor]
    exact hone.trans (nearest_mono hxy)
  rcases (targetOf_mono hx (by linarith : x ≤ x + 1)).eq_or_lt with hsame | hgreater
  · rw [nearest_add_one hx (by omega) hsame.symm]
    push_cast
    linarith
  · -- The value is less than half a greater unit above its number.
    have hpow : (2 : ℚ) ^ targetOf x < 2 ^ targetOf (x + 1) :=
      zpow_lt_zpow_right₀ (by norm_num) hgreater
    have hdist := (abs_le.1 (abs_nearest_sub_le x)).2
    rw [abs_of_pos hx] at hdist
    refine le_nearest_of_lt hxone hunit' ?_
    push_cast
    linarith

/-- Between two values, half a unit goes to the even one. -/
theorem nearest_two_pow_add_one : nearest (2 ^ 53 + 1) = 2 ^ 53 := by
  have hcast : (2 : ℚ) ^ 53 + 1 = (2 ^ 53 + 1 : ℕ) := by norm_num
  have hlog : Int.log 2 ((2 : ℚ) ^ 53 + 1) = 53 := by
    rw [hcast, Int.log_natCast]
    norm_num
  have htarget : targetOf (2 ^ 53 + 1) = 1 := by
    rw [targetOf_eq_max, hlog]
    rfl
  rw [nearest_of_pos (by norm_num), htarget, halfEven]
  norm_num

end MetricAlgebra.Binary64
