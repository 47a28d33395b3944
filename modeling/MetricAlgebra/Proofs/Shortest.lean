import MetricAlgebra.Proofs.Decimal
import MetricAlgebra.Decimal.Shortest

/-!
# Shortest decimals are literals of their values

The decimal that is found for a value reads back as it (`Decimal.shortestOf_spec`). It is written in
one of four styles and without its last zeros, by which it stays the same number; therefore its text
is a literal of the value (`Decimal.exists_literal_shortest`).
-/

namespace MetricAlgebra.Decimal

open Binary64 Float.Model Float.Model.UnpackedFloat

/-! ## The decimal that is found -/

/-- What equals a positive value as a number is that value. -/
theorem eq_of_beq_finite {x y : Float} {m : ℕ} {q : ℤ} {hm : 0 < m}
    (hx : x.toModel.unpack = .finite .positive m q hm) (h : (y == x) = true) : y = x := by
  change (UnpackedFloat.compare y.toModel.unpack x.toModel.unpack == some .eq) = true at h
  rw [hx] at h
  have hy : y.toModel.unpack = x.toModel.unpack := by
    rw [hx]
    cases hy : y.toModel.unpack with
    | notANumber => rw [hy] at h; cases h
    | infinity s => rw [hy] at h; cases s <;> cases h
    | zero s => rw [hy] at h; cases h
    | finite s m' q' hm' =>
      rw [hy] at h
      cases s with
      | negative => cases h
      | positive =>
        have hthen : (compare q' q).then (compare m' m) = .eq := by
          simpa [UnpackedFloat.compare] using h
        obtain ⟨hq, hm⟩ := Ordering.then_eq_eq.1 hthen
        obtain rfl := Std.LawfulEqOrd.eq_of_compare hq
        obtain rfl := Std.LawfulEqOrd.eq_of_compare hm
        rfl
  rw [← ofModel_pack_unpack y, hy, ofModel_pack_unpack]

/-- The decimals that are tried have a bounded number of places. -/
theorem natAbs_exponent_of_mem_neighbours {m : ℕ} {q : ℤ} {n : ℕ} {d : Short}
    (hlog : m.log2 ≤ 52) (hq : -1074 ≤ q) (hq' : q ≤ 971) (hn : n < 20)
    (h : d ∈ neighbours m q (noPlaces m q + n)) : d.exponent.natAbs ≤ 1074 := by
  have hd : d.exponent = -(noPlaces m q + n) := by
    unfold neighbours at h
    dsimp only at h
    split at h <;> simp only [List.mem_cons, List.not_mem_nil, or_false] at h <;>
      rcases h with rfl | rfl <;> rfl
  rw [hd]
  unfold noPlaces
  rw [Int.fdiv_eq_ediv_of_nonneg _ (by norm_num)]
  omega

/-- The exact decimal of a value. -/
theorem exact_eq (m : ℕ) (q : ℤ) :
    ((m * power 2 q * power 5 (-q) : ℕ) : ℚ) * 10 ^ (-((-q).toNat : ℤ)) = m * 2 ^ q := by
  unfold power
  by_cases hq : 0 ≤ q
  · obtain ⟨k, rfl⟩ := Int.eq_ofNat_of_zero_le hq
    rw [show (-(k : ℤ)).toNat = 0 by omega, Int.toNat_natCast]
    simp
  · obtain ⟨k, rfl⟩ : ∃ k : ℕ, q = -k := ⟨(-q).toNat, by omega⟩
    rw [neg_neg, Int.toNat_natCast, show (-(k : ℤ)).toNat = 0 by omega, zpow_neg, zpow_neg,
      zpow_natCast, zpow_natCast]
    have hten : (10 : ℚ) ^ k = 2 ^ k * 5 ^ k := by
      rw [← mul_pow]
      norm_num
    rw [hten]
    push_cast
    simp
    field_simp

/-- The decimal that is found for a value reads back as it, and its exponent is bounded. -/
theorem shortestOf_spec {x : Float} {m : ℕ} {q : ℤ} {hm : 0 < m}
    (hx : x.toModel.unpack = .finite .positive m q hm) :
    (shortestOf x m q).value = x ∧ (shortestOf x m q).exponent.natAbs ≤ 1074 := by
  obtain ⟨⟨-, hexponent⟩, hq⟩ := canonical_of_unpack hx
  unfold shortestOf
  dsimp only
  cases hfind : ((List.range 20).flatMap fun n : ℕ => neighbours m q (noPlaces m q + n)).find?
      fun d => d.value == x with
  | some d =>
    have hbeq := List.find?_some hfind
    refine ⟨eq_of_beq_finite hx hbeq, ?_⟩
    obtain ⟨n, hn, hd⟩ := List.mem_flatMap.1 (List.mem_of_find?_eq_some hfind)
    exact natAbs_exponent_of_mem_neighbours (by omega) (by omega) hq (List.mem_range.1 hn) hd
  | none =>
    have hbound : (-((-q).toNat : ℤ)).natAbs ≤ 1074 := by omega
    rw [Option.getD_none]
    refine ⟨?_, hbound⟩
    unfold Short.value
    exact scaled_eq hx (hbound.trans (by norm_num)) (exact_eq m q)

/-- Zeros at the end of the digits do not count. -/
theorem Short.trimmed_spec (d : Short) (hd : d.digits ≠ 0) (limit : ℕ) :
    (d.trimmed limit).digits ≠ 0 ∧
      ((d.trimmed limit).digits : ℚ) * 10 ^ (d.trimmed limit).exponent =
        d.digits * 10 ^ d.exponent ∧
      d.exponent ≤ (d.trimmed limit).exponent ∧
      (d.trimmed limit).exponent ≤ d.exponent + limit := by
  induction limit generalizing d with
  | zero => exact ⟨hd, rfl, le_rfl, by simp [Short.trimmed]⟩
  | succ limit ih =>
    unfold Short.trimmed
    split
    · rename_i hzero
      have hdiv : d.digits = d.digits / 10 * 10 := by omega
      obtain ⟨hne, hv, hle, hge⟩ := ih ⟨d.digits / 10, d.exponent + 1⟩ (by dsimp only; omega)
      refine ⟨hne, ?_, by dsimp only at hle; omega, by dsimp only at hge; push_cast; omega⟩
      rw [hv]
      conv_rhs => rw [hdiv]
      rw [zpow_add₀ (by norm_num)]
      push_cast
      ring
    · exact ⟨hd, rfl, le_rfl, by push_cast; omega⟩

/-! ## Digits -/

/-- Digits that a number writes say the number. -/
theorem natValue_repr (n : ℕ) : natValue (Nat.repr n).toList = n := by
  rw [Nat.toList_repr]
  exact Nat.ofDigitChars_ten_toDigits

/-- Digits behind digits. -/
theorem natValue_append (a b : List Char) :
    natValue (a ++ b) = 10 ^ b.length * natValue a + natValue b := by
  show Nat.ofDigitChars 10 (a ++ b) 0 = _
  rw [Nat.ofDigitChars_append, Nat.ofDigitChars_eq_ofDigitChars_zero]
  rfl

/-- Zeros say nothing. -/
theorem natValue_replicate_zero (n : ℕ) : natValue (List.replicate n '0') = 0 := by
  show Nat.ofDigitChars 10 (List.replicate n '0') 0 = 0
  rw [Nat.ofDigitChars_replicate_zero, Nat.mul_zero]

/-- Digits as they stand before a point: at least one, and no needless zero in front. -/
structure IsWhole (text : List Char) : Prop where
  /-- There is a digit. -/
  ne_nil : text ≠ []
  /-- There are digits alone. -/
  isDigit : ∀ c ∈ text, c.isDigit = true
  /-- A zero in front is the only digit. -/
  leading : text.head? = some '0' → text.length = 1

/-- A number writes digits. -/
theorem isDigit_of_mem_repr {n : ℕ} {c : Char} (h : c ∈ (Nat.repr n).toList) :
    c.isDigit = true := by
  rw [Nat.toList_repr] at h
  exact Nat.isDigit_of_mem_toDigits (by norm_num) (by norm_num) h

/-- A positive number is written without a zero in front. -/
theorem head?_repr_ne_zero {n : ℕ} (hn : n ≠ 0) : (Nat.repr n).toList.head? ≠ some '0' := by
  rw [Nat.toList_repr]
  induction n using Nat.strong_induction_on with
  | _ n ih =>
    rw [Nat.toDigits_eq_if (by norm_num)]
    split
    · simpa using hn
    · rw [List.head?_append]
      have := ih (n / 10) (by omega) (by omega)
      cases h : (Nat.toDigits 10 (n / 10)).head? with
      | none => simp at h
      | some c => simpa [h] using this

/-- An integer as it is written: a minus if it is negative, and the digits of its magnitude. -/
theorem toList_repr (n : Int) :
    (Int.repr n).toList = (if n < 0 then ['-'] else []) ++ (Nat.repr n.natAbs).toList := by
  rw [Int.repr_eq_if]
  by_cases hn : 0 ≤ n
  · rw [if_pos hn, if_neg (by omega), List.nil_append, show n.toNat = n.natAbs by omega]
  · rw [if_neg hn, if_pos (by omega), show (-n).toNat = n.natAbs by omega]
    simp

/-- A number is written without needless zeros. -/
theorem isWhole_repr (n : ℕ) : IsWhole (Nat.repr n).toList := by
  refine ⟨by rw [Nat.toList_repr]; exact Nat.toDigits_ne_nil, fun c => isDigit_of_mem_repr,
    fun hhead => ?_⟩
  have hn : n = 0 := by
    by_contra hn
    exact head?_repr_ne_zero hn hhead
  rw [hn]
  rfl

/-! ## Texts -/

/-- The texts of numbers with a point or an exponent: their digits as a number, and the power of ten
that scales it. -/
inductive Literal : List Char → ℕ → ℤ → Prop
  | pointed {whole fraction : List Char} : IsWhole whole → fraction ≠ [] →
      (∀ c ∈ fraction, c.isDigit = true) →
      Literal (whole ++ '.' :: fraction) (natValue (whole ++ fraction)) (-fraction.length)
  | scaled {whole : List Char} (k : ℤ) : IsWhole whole →
      Literal (whole ++ 'e' :: (Int.repr k).toList) (natValue whole) k
  | pointedScaled {whole fraction : List Char} (k : ℤ) : IsWhole whole → fraction ≠ [] →
      (∀ c ∈ fraction, c.isDigit = true) →
      Literal (whole ++ '.' :: (fraction ++ 'e' :: (Int.repr k).toList))
        (natValue (whole ++ fraction)) (k - fraction.length)

/-- Digits with none but a zero in front are not needless. -/
theorem isWhole_of_head? {text : List Char} (hne : text ≠ [])
    (hdigits : ∀ c ∈ text, c.isDigit = true) (hhead : text.head? ≠ some '0') : IsWhole text :=
  ⟨hne, hdigits, fun h => absurd h hhead⟩

/-- The text of a decimal is a literal of its number. -/
theorem Short.exists_literal_text {d : Short} (hd : d.digits ≠ 0) :
    ∃ n e, Literal d.text.toList n e ∧ (n : ℚ) * 10 ^ e = d.digits * 10 ^ d.exponent ∧
      e.natAbs ≤ d.exponent.natAbs + 1 := by
  obtain ⟨hne, hdigits, -⟩ := isWhole_repr d.digits
  have hvalue := natValue_repr d.digits
  have hhead := head?_repr_ne_zero hd
  unfold Short.text
  dsimp only
  rw [String.toList_ofList]
  generalize (Nat.repr d.digits).toList = digits at *
  have hlength := List.length_pos_iff.2 hne
  split
  · -- The number is whole: zeros and a fraction are put behind it.
    rename_i hpos
    obtain ⟨k, hk⟩ := Int.eq_ofNat_of_zero_le hpos.1
    have hwhole : IsWhole (digits ++ List.replicate k '0') := by
      refine isWhole_of_head? (by simp [hne]) (fun c hc => ?_) ?_
      · rcases List.mem_append.1 hc with hc | hc
        · exact hdigits c hc
        · rw [List.eq_of_mem_replicate hc]
          rfl
      · rwa [List.head?_append_of_ne_nil _ hne]
    rw [hk, Int.toNat_natCast]
    refine ⟨_, _, .pointed hwhole (List.cons_ne_nil '0' []) (by simp), ?_, by simp⟩
    rw [natValue_append, natValue_append, natValue_replicate_zero, hvalue, List.length_replicate,
      show natValue ['0'] = 0 from rfl, List.length_singleton, zpow_natCast]
    push_cast
    rw [zpow_neg, zpow_one]
    field_simp
    ring
  split
  · -- The point is among the digits.
    rename_i hwhole hpoint
    obtain ⟨k, hk⟩ : ∃ k : ℕ, (digits.length : ℤ) + d.exponent = k :=
      ⟨_, (Int.toNat_of_nonneg hpoint.1.le).symm⟩
    have hdrop : (digits.drop k).length = digits.length - k := List.length_drop
    have htake : IsWhole (digits.take k) := by
      refine isWhole_of_head? ?_ (fun c hc => hdigits c (List.mem_of_mem_take hc)) ?_
      · rw [Ne, List.take_eq_nil_iff, not_or]
        exact ⟨by omega, hne⟩
      · rwa [List.head?_take, if_neg (by omega)]
    have hrest : digits.drop k ≠ [] := by
      rw [Ne, List.drop_eq_nil_iff]
      omega
    rw [hk, Int.toNat_natCast]
    refine ⟨_, _, .pointed htake hrest fun c hc => hdigits c (List.mem_of_mem_drop hc), ?_, ?_⟩
    · rw [List.take_append_drop, hvalue, hdrop]
      congr 2
      omega
    · rw [hdrop]
      omega
  split
  · -- The point is in front of the digits, with zeros behind it.
    rename_i hwhole hpoint hzeros
    obtain ⟨k, hk⟩ : ∃ k : ℕ, -((digits.length : ℤ) + d.exponent) = k :=
      ⟨_, (Int.toNat_of_nonneg (by omega)).symm⟩
    have hzero : IsWhole ['0'] := ⟨by simp, by simp, fun _ => rfl⟩
    have hrest : List.replicate k '0' ++ digits ≠ [] := by simp [hne]
    have hfraction : ∀ c ∈ List.replicate k '0' ++ digits, c.isDigit = true := by
      intro c hc
      rcases List.mem_append.1 hc with hc | hc
      · rw [List.eq_of_mem_replicate hc]
        rfl
      · exact hdigits c hc
    have hplaces : (List.replicate k '0' ++ digits).length = k + digits.length := by simp
    rw [hk, Int.toNat_natCast]
    refine ⟨_, _, .pointed hzero hrest hfraction, ?_, ?_⟩
    · rw [natValue_append, natValue_append, natValue_replicate_zero, hvalue, hplaces,
        show natValue ['0'] = 0 from rfl, Nat.mul_zero, Nat.mul_zero, Nat.zero_add, Nat.zero_add]
      congr 2
      omega
    · rw [hplaces]
      omega
  · -- There is an exponent, and a point behind the first digit if there are more.
    have hleading : IsWhole (digits.take 1) := by
      refine isWhole_of_head? ?_ (fun c hc => hdigits c (List.mem_of_mem_take hc)) ?_
      · rw [Ne, List.take_eq_nil_iff, not_or]
        exact ⟨one_ne_zero, hne⟩
      · rwa [List.head?_take, if_neg one_ne_zero]
    match digits with
    | [first] =>
      refine ⟨_, _, .scaled _ hleading, ?_, ?_⟩
      · rw [show pointed [first] = [first] from rfl, hvalue]
        congr 2
        simp
      · simp
    | first :: second :: rest =>
      have hfraction : ∀ c ∈ second :: rest, c.isDigit = true := fun c hc =>
        hdigits c (List.mem_cons_of_mem _ hc)
      refine ⟨_, _, .pointedScaled _ hleading (List.cons_ne_nil _ _) hfraction, ?_, ?_⟩
      · rw [List.take_succ_cons, List.take_zero, List.singleton_append, hvalue]
        congr 2
        simp
        omega
      · simp
        omega

/-! ## Values and their texts -/

/-- The decimal of a positive value is written as a literal of the value. -/
theorem exists_literal_text {x : Float} {m : ℕ} {q : ℤ} {hm : 0 < m}
    (hx : x.toModel.unpack = .finite .positive m q hm) :
    ∃ n e, Literal ((shortestOf x m q).trimmed 400).text.toList n e ∧ scaled n e = x := by
  obtain ⟨hvalue, hbound⟩ := shortestOf_spec hx
  have hdigits : (shortestOf x m q).digits ≠ 0 := fun hzero => by
    -- No digits but zeros would be read as zero, which the value is not.
    have hpack : x = .ofModel (.pack (.zero .positive)) := by
      rw [← hvalue, Short.value, hzero, scaled_zero]
    rw [hpack] at hx
    cases unpack_pack_zero.symm.trans hx
  obtain ⟨hne, hsame, hle, hge⟩ := (shortestOf x m q).trimmed_spec hdigits 400
  obtain ⟨n, e, hliteral, hnumber, he⟩ := Short.exists_literal_text hne
  have hpos : 0 < (shortestOf x m q).digits := Nat.pos_of_ne_zero hdigits
  refine ⟨n, e, hliteral, ?_⟩
  rw [← hvalue, Short.value]
  exact (scaled_congr hpos (by omega) (by omega) (hsame.symm.trans hnumber.symm)).symm

/-- The text of a finite value is a literal of it, or a minus and a literal of what it is the
negative of. -/
theorem exists_literal_shortest {x : Float} (hx : x.isFinite = true) :
    ∃ text n e, Literal text n e ∧
      ((shortest x).toList = text ∧ scaled n e = x ∨
        (shortest x).toList = '-' :: text ∧ -scaled n e = x) := by
  have hself := ofModel_pack_unpack x
  have hwhole : IsWhole ['0'] := ⟨by simp, by simp, fun _ => rfl⟩
  have hzero : Literal ['0', '.', '0'] 0 (-1) :=
    .pointed hwhole (List.cons_ne_nil '0' []) hwhole.isDigit
  unfold shortest
  cases hunpack : x.toModel.unpack with
  | notANumber =>
    change x.toModel.unpack.isFinite = true at hx
    rw [hunpack] at hx
    cases hx
  | infinity s =>
    change x.toModel.unpack.isFinite = true at hx
    rw [hunpack] at hx
    cases hx
  | zero s =>
    rw [hunpack] at hself
    refine ⟨_, 0, -1, hzero, ?_⟩
    cases s with
    | positive => exact .inl ⟨by simp, by rw [scaled_zero, hself]⟩
    | negative =>
      refine .inr ⟨by simp, ?_⟩
      rw [scaled_zero, ← hself]
      show Float.ofModel (.pack (Float.Model.pack (.zero .positive)).unpack.neg) = _
      rw [unpack_pack_zero]
      rfl
  | finite s m q hm =>
    cases s with
    | positive =>
      obtain ⟨n, e, hliteral, hvalue⟩ := exists_literal_text hunpack
      exact ⟨_, n, e, hliteral, .inl ⟨rfl, hvalue⟩⟩
    | negative =>
      obtain ⟨hcanonical, hq⟩ := canonical_of_unpack hunpack
      have hneg : (-x).toModel.unpack = .finite .positive m q hm := by
        show (Float.Model.pack x.toModel.unpack.neg).unpack = _
        rw [hunpack]
        exact hcanonical.unpack_pack hq .positive
      obtain ⟨n, e, hliteral, hvalue⟩ := exists_literal_text hneg
      refine ⟨_, n, e, hliteral, .inr ⟨by simp, ?_⟩⟩
      rw [hvalue]
      show Float.ofModel (.pack (-x).toModel.unpack.neg) = x
      rw [hneg, ← hself, hunpack]
      rfl

end MetricAlgebra.Decimal
