import MetricAlgebra.Proofs.Duration.Reading
import MetricAlgebra.Proofs.RateProtocol
import MetricAlgebra.Proofs.RoundedArithmetic
import MetricAlgebra.Proofs.Shortest

/-!
# Bare milliseconds go through a value

An integer of 64 bits is read whatever it is, but not as itself: it is converted to a value before
it is converted back (`Duration.read_repr`). A value has 53 bits, so that an integer with more of
them is moved to the nearest one that has no more, which is up to 512 milliseconds away, and what
goes beyond the greatest integer is held back there (`Duration.read_integer_nearest`).
-/

namespace MetricAlgebra.Duration

open Decimal Binary64 Family

/-! ## The text of an integer -/

/-- An integer as it is written is bare milliseconds. -/
theorem bare_repr (n : Int64) : Bare (Int.repr n.toInt).toList (Float.ofInt n.toInt) := by
  have hdigits : IsDigits (Nat.repr n.toInt.natAbs).toList :=
    ⟨(isWhole_repr _).ne_nil, fun _ => isDigit_of_mem_repr⟩
  have hvalue := natValue_repr n.toInt.natAbs
  rw [toList_repr]
  -- There is a minus in front of the digits of the magnitude, or no sign.
  by_cases hneg : n.toInt < 0
  · rw [if_pos hneg]
    refine .intro .minus hdigits ?_ n.le_toInt n.toInt_le
    rw [hvalue, signed, if_pos rfl]
    omega
  · rw [if_neg hneg]
    refine .intro .none hdigits ?_ n.le_toInt n.toInt_le
    rw [hvalue, signed, if_neg Bool.false_ne_true]
    omega

/-- Bare milliseconds have no white space around them. -/
theorem Bare.trimmed {t : List Char} {x : Float} (h : Bare t x) : Text.Trimmed t t := by
  obtain @⟨s, digits, negative, n, hs, hdigits, -, -, -⟩ := h
  refine Text.trimmed_self fun c hc => ?_
  rcases List.mem_append.1 hc with hsign | hdigit
  · cases hs with
    | none => cases hsign
    | plus | minus =>
      obtain rfl := List.mem_singleton.1 hsign
      decide
  · exact Text.isBlank_of_isDigit (hdigits.2 c hdigit)

/-! ## The detour through a value -/

/-- The integers of 64 bits are converted to finite values. -/
theorem toRat?_ofInt64 (n : Int64) : toRat? (Float.ofInt n.toInt) = some (nearest n.toInt) := by
  have hmin : -2 ^ 63 ≤ n.toInt := n.le_toInt
  have hmax : n.toInt ≤ 2 ^ 63 - 1 := n.toInt_le
  have habs : |n.toInt| ≤ 2 ^ 63 := abs_le.2 ⟨hmin, by omega⟩
  have habs' : |(n.toInt : ℚ)| ≤ 2 ^ 63 := by exact_mod_cast habs
  exact toRat?_ofInt (lt_finiteBound (habs'.trans (by norm_num)))

/-- An integer as it is written is read as what its value is rounded to. -/
theorem read_repr (n : Int64) :
    read (Int.repr n.toInt) = .ok (Binary64.round (Float.ofInt n.toInt)) := by
  have hvalue := toRat?_ofInt64 n
  have hbare := bare_repr n
  rw [read_eq_ok_iff]
  exact ⟨_, _, _, hbare.trimmed, .inr (.inr hbare), hvalue, round_eq_halfAway hvalue⟩

/-- The value of an integer is converted back to the nearest one to it, or to the greatest integer
if that one is just beyond it. -/
theorem toInt_round_ofInt (n : Int64) :
    ((Binary64.round (Float.ofInt n.toInt)).toInt : ℚ) = min (nearest n.toInt) (2 ^ 63 - 1) := by
  -- The least integer is a value itself, so that nothing is held back on that side.
  have hmin : -2 ^ 63 ≤ n.toInt := n.le_toInt
  have hlow : ((-2 ^ 63 : ℤ) : ℚ) ≤ nearest n.toInt := by
    have hself : nearest ((-1 : ℤ) * 2 ^ (63 : ℤ)) = (-1 : ℤ) * 2 ^ (63 : ℤ) :=
      nearest_intCast_mul_zpow (by norm_num) (by norm_num)
    have hcast : ((-1 : ℤ) : ℚ) * 2 ^ (63 : ℤ) = ((-2 ^ 63 : ℤ) : ℚ) := by norm_num
    rw [hcast] at hself
    rw [← hself]
    exact nearest_mono (by exact_mod_cast hmin)
  obtain ⟨k, hk⟩ := exists_nearest_intCast n.toInt
  rw [round_eq_halfAway (toRat?_ofInt64 n), hk, halfAway_intCast, toInt_ofIntClamp]
  rw [hk] at hlow
  have hlow' : -2 ^ 63 ≤ k := by exact_mod_cast hlow
  rw [max_eq_right (by omega)]
  norm_num

/-- An integer comes back as itself exactly if it is a value, or the greatest one. -/
theorem round_ofInt_eq_iff (n : Int64) :
    Binary64.round (Float.ofInt n.toInt) = n ↔
      (∃ x, toRat? x = some (n.toInt : ℚ)) ∨ n = Int64.maxValue := by
  have hround := toInt_round_ofInt n
  constructor
  · intro heq
    rw [heq] at hround
    -- Either nothing has been held back, or the integer is where it is held back to.
    rcases min_choice (nearest n.toInt) (2 ^ 63 - 1) with hmin | hmin
    · rw [hmin] at hround
      exact .inl ⟨Float.ofInt n.toInt, by rw [toRat?_ofInt64, ← hround]⟩
    · rw [hmin] at hround
      refine .inr (Int64.toInt_inj.1 ?_)
      show n.toInt = 2 ^ 63 - 1
      exact_mod_cast hround
  · rintro (⟨x, hx⟩ | rfl)
    · have hmax : n.toInt ≤ 2 ^ 63 - 1 := n.toInt_le
      have hmax' : (n.toInt : ℚ) ≤ 2 ^ 63 - 1 := by exact_mod_cast hmax
      rw [nearest_toRat hx, min_eq_left hmax'] at hround
      exact Int64.toInt_inj.1 (by exact_mod_cast hround)
    · decide +kernel

/-- An integer comes back within a part in `2 ^ 53` of itself, since holding back what is beyond the
greatest integer does not take it further away. -/
theorem abs_toInt_round_ofInt_sub_le (n : Int64) :
    |((Binary64.round (Float.ofInt n.toInt)).toInt : ℚ) - n.toInt| ≤ |(n.toInt : ℚ)| / 2 ^ 53 := by
  have hmax : n.toInt ≤ 2 ^ 63 - 1 := n.toInt_le
  have hmax' : (n.toInt : ℚ) ≤ 2 ^ 63 - 1 := by exact_mod_cast hmax
  have hdist := abs_nearest_intCast_sub_le n.toInt
  obtain ⟨hlow, hhigh⟩ := abs_le.1 hdist
  rw [toInt_round_ofInt]
  rcases min_choice (nearest n.toInt) (2 ^ 63 - 1) with hmin | hmin
  · rwa [hmin]
  · have hle : (2 : ℚ) ^ 63 - 1 ≤ nearest n.toInt := min_eq_right_iff.1 hmin
    rw [hmin, abs_of_nonneg (by linarith)]
    linarith

/-- A positive integer comes back as one. -/
theorem toInt_round_ofInt_pos {n : Int64} (hn : 0 < n.toInt) :
    0 < (Binary64.round (Float.ofInt n.toInt)).toInt := by
  -- One is a value, which rounding does not pass.
  have hone : (1 : ℚ) ≤ n.toInt := by exact_mod_cast hn
  have hnearest : (1 : ℚ) ≤ nearest n.toInt := by
    have hself : nearest ((1 : ℕ) : ℚ) = (1 : ℕ) := nearest_natCast (by norm_num)
    rw [Nat.cast_one] at hself
    rw [← hself]
    exact nearest_mono hone
  have hround : (1 : ℚ) ≤ (Binary64.round (Float.ofInt n.toInt)).toInt := by
    rw [toInt_round_ofInt]
    exact le_min hnearest (by norm_num)
  exact_mod_cast hround

/-! ## Reading an integer -/

/-- An integer is read as the value nearest to it, or as the greatest integer if that value is just
beyond it: within a part in `2 ^ 53` of itself, and as itself exactly if it is a value or the
greatest integer, which all are that have few bits. A positive one is a range, and the operators
that take it look back over what it is read as. -/
theorem read_integer_nearest (n : Int64) :
    ∃ millis, read (Int.repr n.toInt) = .ok millis ∧
      (millis.toInt : ℚ) = min (nearest n.toInt) (2 ^ 63 - 1) ∧
      |(millis.toInt : ℚ) - n.toInt| ≤ |(n.toInt : ℚ)| / 2 ^ 53 ∧
      (millis = n ↔ (∃ x, toRat? x = some (n.toInt : ℚ)) ∨ n = Int64.maxValue) ∧
      (|n.toInt| ≤ 2 ^ 53 → millis = n) ∧
      (0 < n.toInt → readRange (Int.repr n.toInt) = .ok millis ∧
        (RateOp.increase (Int.repr n.toInt)).LooksBack millis ∧
        (RateOp.rate (Int.repr n.toInt)).LooksBack millis) := by
  have hread := read_repr n
  refine ⟨_, hread, toInt_round_ofInt n, abs_toInt_round_ofInt_sub_le n, round_ofInt_eq_iff n,
    fun hsmall => ?_, fun hpos => ?_⟩
  · have hvalue := toRat?_ofInt64 n
    rw [nearest_intCast hsmall] at hvalue
    exact (round_ofInt_eq_iff n).2 (.inl ⟨_, hvalue⟩)
  · have haccepted := toInt_round_ofInt_pos hpos
    have hincrease : (RateOp.increase (Int.repr n.toInt)).Accepts _ := ⟨hread, haccepted⟩
    have hrate : (RateOp.rate (Int.repr n.toInt)).Accepts _ := ⟨hread, haccepted⟩
    exact ⟨RateOp.readRange_eq_ok hread haccepted, hincrease.looksBack, hrate.looksBack⟩

/-- The greatest integer, which is no value, is read as itself. -/
theorem read_integer_nearest_greatest :
    read "9223372036854775807" = .ok 9223372036854775807 ∧
      (RateOp.rate "9223372036854775807").LooksBack 9223372036854775807 := by
  obtain ⟨millis, hread, -, -, hself, -, hrange⟩ := read_integer_nearest Int64.maxValue
  obtain rfl : millis = Int64.maxValue := hself.2 (.inr rfl)
  exact ⟨hread, (hrange (by decide)).2.2⟩

/-- An integer with one bit too many is read as the one before it. -/
theorem read_integer_nearest_lost_bit :
    read "9007199254740993" = .ok 9007199254740992 ∧
      ¬ ∀ n : Int64, read (Int.repr n.toInt) = .ok n := by
  have hread : read "9007199254740993" = .ok 9007199254740992 := by
    have hvalue : Binary64.round (Float.ofInt 9007199254740993) = 9007199254740992 := by
      decide +kernel
    rw [← hvalue]
    exact read_repr 9007199254740993
  refine ⟨hread, fun h => ?_⟩
  cases hread.symm.trans (h 9007199254740993)

end MetricAlgebra.Duration
