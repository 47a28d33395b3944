import MetricAlgebra.Proofs.Histogram.Edge

/-!
# Bounds of whole milliseconds

A plain decimal is read as the value nearest to its number (`Decimal.float?_plain`). Where the
number is whole milliseconds, that value in milliseconds is off by less than half of one up to
`2 ^ 52` of them, and by no more than one up to `2 ^ 53` (`Binary64.abs_nearest_div_mul_sub_le`). It
is then rounded again and cut off, so that the interval above the bound is labelled with its
milliseconds unless the rounded product falls short of them, and with one less if it does
(`Family.histogram_whole_bounds`): 1.005 seconds are 1004 milliseconds.
-/

namespace MetricAlgebra

namespace Decimal

/-! ## Plain decimals -/

/-- Whether a text is a plain decimal: digits, with an optional point among or around them. -/
structure Plain (text whole fraction : List Char) : Prop where
  /-- There is a digit. -/
  nonempty : whole ++ fraction ≠ []
  /-- On both sides of the point there are digits only. -/
  digits : ∀ c ∈ whole ++ fraction, c.isDigit = true
  /-- The digits behind the point follow it, and without a point there are none. -/
  eq_or : text = whole ++ '.' :: fraction ∨ (text = whole ∧ fraction = [])

namespace Plain

variable {text whole fraction : List Char}

/-- There is nothing else but digits and a point. -/
theorem isDigit_or_eq (h : Plain text whole fraction) {c : Char} (hc : c ∈ text) :
    c.isDigit = true ∨ c = '.' := by
  rcases h.eq_or with rfl | ⟨rfl, -⟩
  · rcases List.mem_append.1 hc with hwhole | hrest
    · exact .inl (h.digits c (List.mem_append_left _ hwhole))
    · rcases List.mem_cons.1 hrest with rfl | hfraction
      · exact .inr rfl
      · exact .inl (h.digits c (List.mem_append_right _ hfraction))
  · exact .inl (h.digits c (List.mem_append_left _ hc))

/-- No character is a letter in another case. -/
theorem toLower_eq (h : Plain text whole fraction) {c : Char} (hc : c ∈ text) : c.toLower = c := by
  refine dif_neg fun hupper => ?_
  rcases h.isDigit_or_eq hc with hdigit | rfl
  · simp only [Char.isDigit, Bool.and_eq_true, decide_eq_true_eq] at hdigit
    exact absurd (UInt32.le_trans hupper.1 hdigit.2) (by decide)
  · exact absurd hupper.1 (by decide)

/-- No word is spelled without a letter. -/
theorem wordValue?_eq_none (h : Plain text whole fraction) : wordValue? text = none := by
  -- Each of the words has this letter.
  have hne {word : String} (hword : 'n' ∈ word.toList) :
      String.ofList (text.map Char.toLower) ≠ word := by
    intro heq
    rw [← heq, String.toList_ofList] at hword
    obtain ⟨c, hc, hlower⟩ := List.mem_map.1 hword
    rw [h.toLower_eq hc] at hlower
    rw [hlower] at hc
    exact absurd (h.isDigit_or_eq hc) (by decide)
  unfold wordValue?
  split
  · rename_i heq
    exact absurd heq (hne (by decide))
  · rename_i heq
    exact absurd heq (hne (by decide))
  · rename_i heq
    exact absurd heq (hne (by decide))
  · rfl

/-- The digits are read as the value nearest to their number. -/
theorem magnitude?_eq (h : Plain text whole fraction) :
    magnitude? text = some (pointValue whole fraction) := by
  have hwhole : ∀ c ∈ whole, c.isDigit = true := fun c hc => h.digits c (List.mem_append_left _ hc)
  have hfraction : ∀ c ∈ fraction, c.isDigit = true := fun c hc =>
    h.digits c (List.mem_append_right _ hc)
  have hsome : (whole.isEmpty && fraction.isEmpty) = false := by
    have := h.nonempty
    cases whole <;> cases fraction <;> simp_all
  have hvalue : (exponent? []).map (fun e =>
      scaled (natValue (whole ++ fraction)) (e - fraction.length)) =
        some (pointValue whole fraction) := by
    show some (scaled _ (0 - _)) = _
    rw [zero_sub]
    rfl
  have hspan {digits : List Char} (hdigits : ∀ c ∈ digits, c.isDigit = true) :
      spanDigits digits = (digits, []) := by
    have hend : spanDigits (digits ++ []) = (digits, []) := spanDigits_append hdigits (by simp)
    rwa [List.append_nil] at hend
  unfold magnitude?
  rcases h.eq_or with htext | ⟨htext, hnone⟩
  · rw [htext, spanDigits_append hwhole (by simp)]
    simp only [hspan hfraction, hsome]
    exact hvalue
  · rw [htext, hspan hwhole]
    rw [hnone] at hsome hvalue
    simp only [hsome]
    rw [hnone]
    exact hvalue

end Plain

/-- A plain decimal is read as the value nearest to its number. -/
theorem float?_plain {text : String} {whole fraction : List Char}
    (h : Plain text.toList whole fraction) : float? text = some (pointValue whole fraction) := by
  have hmagnitude := h.magnitude?_eq
  have hword := h.wordValue?_eq_none
  unfold float?
  split
  · rename_i rest heq
    have hminus := h.isDigit_or_eq (heq ▸ List.mem_cons_self)
    exact absurd hminus (by decide)
  · rename_i rest heq
    have hplus := h.isDigit_or_eq (heq ▸ List.mem_cons_self)
    exact absurd hplus (by decide)
  · rw [hword, hmagnitude]
    rfl

open Binary64

end Decimal

namespace Binary64

/-! ## A quotient that is multiplied again -/

/-- A whole number that is divided, rounded and multiplied again is off by one part in `2 ^ 53`. -/
theorem abs_nearest_div_mul_sub_le {m s : ℕ} (hm : 0 < m) (hs : 0 < s) (hs' : s ≤ 2 ^ 32) :
    |nearest ((m : ℚ) / s) * s - m| ≤ m / 2 ^ 53 := by
  have hs₀ : (0 : ℚ) < s := by exact_mod_cast hs
  have hm₀ : (1 : ℚ) ≤ m := by exact_mod_cast hm
  have hs₁ : (s : ℚ) ≤ 2 ^ 32 := by exact_mod_cast hs'
  have hlarge : (2 : ℚ) ^ (-1022 : ℤ) ≤ m / s := by
    rw [le_div_iff₀ hs₀]
    have hpow : (2 : ℚ) ^ (-1022 : ℤ) ≤ 2 ^ (-32 : ℤ) :=
      zpow_le_zpow_right₀ (by norm_num) (by norm_num)
    calc (2 : ℚ) ^ (-1022 : ℤ) * s ≤ 2 ^ (-32 : ℤ) * 2 ^ 32 := by gcongr
      _ = 1 := by norm_num
      _ ≤ m := hm₀
  have hdist := abs_nearest_sub_le_mul hlarge
  calc |nearest ((m : ℚ) / s) * s - m| = |nearest ((m : ℚ) / s) - m / s| * s := by
        rw [← abs_of_pos hs₀, ← abs_mul, abs_of_pos hs₀, sub_mul, div_mul_cancel₀ _ hs₀.ne']
    _ ≤ m / s / 2 ^ 53 * s := by gcongr
    _ = m / 2 ^ 53 := by field_simp

/-- Rounded once more, it is off by at most one, and by less than one upwards if it has a bit left
behind the point. -/
theorem nearest_nearest_div_mul {m s : ℕ} (hs : 0 < s) (hs' : s ≤ 2 ^ 32) (hm : m ≤ 2 ^ 53) :
    (m : ℚ) - 1 ≤ nearest (nearest ((m : ℚ) / s) * s) ∧
      nearest (nearest ((m : ℚ) / s) * s) ≤ m + 1 ∧
      (m < 2 ^ 52 → nearest (nearest ((m : ℚ) / s) * s) < m + 1) := by
  rcases Nat.eq_zero_or_pos m with rfl | hpos
  · rw [Nat.cast_zero, zero_div, nearest_zero, zero_mul, nearest_zero]
    norm_num
  have hm' : (m : ℚ) ≤ 2 ^ 53 := by exact_mod_cast hm
  obtain ⟨hlow, hhigh⟩ := abs_le.1 (abs_nearest_div_mul_sub_le hpos hs hs')
  generalize nearest ((m : ℚ) / s) * s = v at hlow hhigh ⊢
  refine ⟨?_, ?_, fun hshort => ?_⟩
  · have hcast : ((m - 1 : ℕ) : ℚ) = m - 1 := by
      rw [Nat.cast_sub hpos, Nat.cast_one]
    calc (m : ℚ) - 1 = nearest ((m - 1 : ℕ) : ℚ) := by rw [nearest_natCast (by omega), hcast]
      _ ≤ nearest v := nearest_mono (by linarith)
  · have hmono : nearest v ≤ nearest ((m : ℚ) + 1) := nearest_mono (by linarith)
    refine hmono.trans ?_
    rcases hm.eq_or_lt with heq | hlt
    · have hcast : (m : ℚ) = 2 ^ 53 := by exact_mod_cast heq
      rw [hcast, nearest_two_pow_add_one]
      norm_num
    · have hnext : nearest ((m + 1 : ℕ) : ℚ) = (m + 1 : ℕ) := nearest_natCast hlt
      push_cast at hnext
      exact hnext.le
  · -- Half a unit above the whole number there is a value, which is not passed.
    have hshort' : (m : ℚ) < 2 ^ 52 := by exact_mod_cast hshort
    have hhalf : nearest ((2 * m + 1 : ℤ) * 2 ^ (-1 : ℤ)) = (2 * m + 1 : ℤ) * 2 ^ (-1 : ℤ) :=
      nearest_intCast_mul_zpow (by rw [abs_of_nonneg (by omega)]; omega) (by norm_num)
    have hvalue : ((2 * m + 1 : ℤ) : ℚ) * 2 ^ (-1 : ℤ) = m + 1 / 2 := by
      push_cast
      ring
    rw [hvalue] at hhalf
    calc nearest v ≤ nearest ((m : ℚ) + 1 / 2) := nearest_mono (by linarith)
      _ = m + 1 / 2 := hhalf
      _ < m + 1 := by linarith

end Binary64

open Binary64

namespace Histogram

/-- The lower end above a bound that is read from a whole number of milliseconds: their integer part
after they have been rounded as values. -/
theorem exists_edge_eq {unit : TimeUnit} (hunit : 0 < unit.millis) {m : ℕ} (hm : m ≤ 2 ^ 53)
    {bound : Float} (hbound : toRat? bound = some (nearest ((m : ℚ) / unit.millis))) :
    ∃ p, toRat? (bound * Float.ofNat unit.millis) = some p ∧ edge unit bound = ⌊p⌋ ∧
      (m : ℚ) - 1 ≤ p ∧ p ≤ m + 1 ∧ (m < 2 ^ 52 → p < m + 1) ∧
      (nearest ((m : ℚ) / unit.millis) = m / unit.millis → p = m) := by
  have hs₀ : (0 : ℚ) < unit.millis := by exact_mod_cast hunit
  have hm' : (m : ℚ) ≤ 2 ^ 53 := by exact_mod_cast hm
  have hnonneg : 0 ≤ nearest ((m : ℚ) / unit.millis) * unit.millis :=
    mul_nonneg (nearest_nonneg (by positivity)) hs₀.le
  have hle : nearest ((m : ℚ) / unit.millis) * unit.millis ≤ m + 1 := by
    rcases Nat.eq_zero_or_pos m with rfl | hpos
    · rw [Nat.cast_zero, zero_div, nearest_zero, zero_mul]
      norm_num
    · have hhigh := (abs_le.1 (abs_nearest_div_mul_sub_le hpos hunit unit.millis_le)).2
      linarith
  obtain ⟨hlow, hhigh, hshort⟩ := nearest_nearest_div_mul hunit unit.millis_le hm
  -- The product before it is rounded is in the range in which nothing is saturated.
  refine ⟨_, toRat?_mul_millis hbound ?_, edge_eq hbound hnonneg (by linarith), hlow, hhigh, hshort,
    fun hexact => ?_⟩
  · rw [abs_of_nonneg hnonneg]
    exact lt_finiteBound (by linarith)
  · rw [hexact, div_mul_cancel₀ _ hs₀.ne']
    exact nearest_natCast hm

end Histogram

namespace Family

open Histogram

variable {f g : Family} {label : String} {unit : TimeUnit} {series : LabelSet}

/-- The bound of a bucket is what its text writes. -/
theorem bound_eq_pointValue {b : Bucket} (hb : b ∈ f.bucketsOf label series) {raw : String}
    (hraw : b.sample.label? label = some raw) {whole fraction : List Char}
    (hplain : Decimal.Plain (Text.trim raw).toList whole fraction) :
    b.bound = Decimal.pointValue whole fraction := by
  obtain ⟨s, -, hs⟩ := List.mem_filterMap.1 (List.mem_filter.1 hb).1
  obtain ⟨rfl, raw', hraw', hbound⟩ := bucket?_eq_some_iff.1 hs
  obtain rfl : raw' = raw := Option.some.inj (hraw'.symm.trans hraw)
  have hread := (Option.filter_eq_some_iff.1 hbound).1
  rw [Decimal.float?_plain hplain] at hread
  exact (Option.some.inj hread).symm

/-- The interval above a bound that is written as a plain decimal, and is a whole number of
milliseconds, is labelled with the integer part of the product of the bound and the milliseconds of
the unit, which is rounded: with the milliseconds if the product is at or above them, and with one
less if it falls short of them. Beyond `2 ^ 52` milliseconds it can be one more. A bound that is a
value itself, and so every bound in milliseconds, is kept. -/
theorem histogram_whole_bounds (h : f.histogram label unit = .ok g) {sorted : List Bucket}
    (hsorted : StablySorted (fun b => orderKey b.bound) (f.bucketsOf label series) sorted) {k : ℕ}
    {a b : Bucket} (ha : sorted[k]? = some a) (hb : sorted[k + 1]? = some b) {raw : String}
    (hraw : a.sample.label? label = some raw) {whole fraction : List Char}
    (hplain : Decimal.Plain (Text.trim raw).toList whole fraction) {m : ℕ} (hm : m ≤ 2 ^ 53)
    (hwhole : Decimal.natValue (whole ++ fraction) * unit.millis = m * 10 ^ fraction.length) :
    ∃ (s : Sample) (t : ℤ) (p : ℚ), (g.blockOf label series)[k + 1]? = some s ∧
      s.timestamp = b.sample.timestamp ∧ s.labels = series.insert label (Int.repr t) ∧
      toRat? (a.bound * Float.ofNat unit.millis) = some p ∧
      (p < m → t = m - 1) ∧
      (m ≤ p → p < m + 1 → t = m) ∧
      (m + 1 ≤ p → t = m + 1 ∧ 2 ^ 52 ≤ m) ∧
      (toRat? a.bound = some ((m : ℚ) / unit.millis) → t = m) ∧
      (unit.millis = 1 → t = m) := by
  have hunit := (samples_histogram h).1
  have hmember : a ∈ f.bucketsOf label series :=
    hsorted.perm.mem_iff.1 (List.mem_of_getElem? ha)
  have hbound : toRat? a.bound = some (nearest ((m : ℚ) / unit.millis)) := by
    rw [bound_eq_pointValue hmember hraw hplain]
    exact Decimal.toRat?_pointValue hunit unit.millis_le hm hwhole
  obtain ⟨p, hp, hedge, hlow, hhigh, hshort, hexact⟩ := exists_edge_eq hunit hm hbound
  have hblock := (deaccumulates_blockOf h series).getElem?_succ hsorted ha hb
  -- A product that is the whole number is cut off nowhere.
  have hself (hvalue : nearest ((m : ℚ) / unit.millis) = m / unit.millis) :
      edge unit a.bound = m := by
    rw [hedge, hexact hvalue, Int.floor_natCast]
  refine ⟨_, edge unit a.bound, p, hblock, rfl, rfl, hp, fun hless => ?_, fun hge hlt => ?_,
    fun hmore => ?_, fun hvalue => ?_, fun hone => hself ?_⟩
  · -- The product falls short by no more than one, which is cut off.
    rw [hedge, Int.floor_eq_iff]
    push_cast
    constructor <;> linarith
  · rw [hedge, Int.floor_eq_iff]
    push_cast
    exact ⟨hge, hlt⟩
  · constructor
    · rw [hedge, Int.floor_eq_iff]
      push_cast
      constructor <;> linarith
    · by_contra hfew
      exact absurd (hshort (not_le.1 hfew)) (not_lt.2 hmore)
  · exact hself (Option.some.inj (hbound.symm.trans hvalue))
  · rw [hone, Nat.cast_one, div_one]
    exact nearest_natCast hm

/-- Above half a second, which is a value, the interval is labelled with 500 milliseconds. -/
theorem histogram_whole_bounds_half_second :
    let low : Sample := ⟨.ofPairs [("le", "0.5")], 1000, 3.0⟩
    let high : Sample := ⟨.ofPairs [("le", "2.5")], 1000, 7.0⟩
    let f := populated ⟨[low, high], {}, by simp⟩
    let sorted : List Bucket := [⟨0.5, low⟩, ⟨2.5, high⟩]
    StablySorted (fun b => orderKey b.bound) (f.bucketsOf "le" (.ofPairs [])) sorted ∧
      sorted[0]? = some ⟨0.5, low⟩ ∧ sorted[0 + 1]? = some ⟨2.5, high⟩ ∧
      low.label? "le" = some "0.5" ∧ Decimal.Plain (Text.trim "0.5").toList ['0'] ['5'] ∧
      500 ≤ 2 ^ 53 ∧
      Decimal.natValue (['0'] ++ ['5']) * TimeUnit.seconds.millis = 500 * 10 ^ ['5'].length ∧
      ∃ g s, f.histogram "le" .seconds = .ok g ∧ (g.blockOf "le" (.ofPairs []))[1]? = some s ∧
        s.labels = (LabelSet.ofPairs []).insert "le" "500" := by
  intro low high f sorted
  have hlow : low.label? "le" = some "0.5" := by cbv
  have hlowBucket : bucket? "le" low = some ⟨0.5, low⟩ :=
    bucket?_eq_some_iff.2 ⟨rfl, _, hlow, by decide +kernel⟩
  have hhighBucket : bucket? "le" high = some ⟨2.5, high⟩ :=
    bucket?_eq_some_iff.2 ⟨rfl, "2.5", by cbv, by decide +kernel⟩
  have hlowSeries : low.labels.erase "le" = .ofPairs [] := LabelSet.ext (by cbv)
  have hhighSeries : high.labels.erase "le" = .ofPairs [] := LabelSet.ext (by cbv)
  have hunit : 0 < TimeUnit.seconds.millis := by decide
  obtain ⟨hbuckets, g, hg⟩ :=
    exists_histogram_of_forall₂ (f := f) hunit (.cons hlowBucket (.cons hhighBucket .nil))
  have hkeys : orderKey 0.5 ≤ orderKey 2.5 := by decide +kernel
  have hsorted := stablySorted_bucketsOf (.ofPairs []) hbuckets
    (by simp [hlowSeries, hhighSeries]) (by simpa using hkeys)
  have htrim : (Text.trim "0.5").toList = ['0', '.', '5'] := by cbv
  have hplain : Decimal.Plain (Text.trim "0.5").toList ['0'] ['5'] :=
    ⟨by simp, by simp, .inl htrim⟩
  have hwhole : Decimal.natValue (['0'] ++ ['5']) * TimeUnit.seconds.millis =
      500 * 10 ^ ['5'].length := by decide +kernel
  have hvalue : toRat? 0.5 = some (((500 : ℕ) : ℚ) / TimeUnit.seconds.millis) := by decide +kernel
  obtain ⟨s, t, -, hs, -, hlabels, -, -, -, -, hexact, -⟩ :=
    histogram_whole_bounds hg hsorted (k := 0) rfl rfl hlow hplain (by norm_num) hwhole
  refine ⟨hsorted, rfl, rfl, hlow, hplain, by norm_num, hwhole, g, s, hg, hs, ?_⟩
  rw [hlabels, hexact hvalue]
  rfl

/-- Above 1.005 seconds, which are 1005 milliseconds, the interval is labelled with 1004. -/
theorem histogram_whole_bounds_short :
    let low : Sample := ⟨.ofPairs [("le", "1.005")], 1000, 3.0⟩
    let high : Sample := ⟨.ofPairs [("le", "2.5")], 1000, 7.0⟩
    let f := populated ⟨[low, high], {}, by simp⟩
    Decimal.Plain "1.005".toList ['1'] ['0', '0', '5'] ∧
      Decimal.natValue (['1'] ++ ['0', '0', '5']) * TimeUnit.seconds.millis =
        1005 * 10 ^ ['0', '0', '5'].length ∧
      ∃ g s, f.histogram "le" .seconds = .ok g ∧ (g.blockOf "le" (.ofPairs []))[1]? = some s ∧
        s.label? "le" = some "1004" ∧ "1004" ≠ Int.repr 1005 := by
  intro low high f
  have hlowBucket : bucket? "le" low = some ⟨1.005, low⟩ :=
    bucket?_eq_some_iff.2 ⟨rfl, "1.005", by cbv, by decide +kernel⟩
  have hhighBucket : bucket? "le" high = some ⟨2.5, high⟩ :=
    bucket?_eq_some_iff.2 ⟨rfl, "2.5", by cbv, by decide +kernel⟩
  have hlowSeries : low.labels.erase "le" = .ofPairs [] := LabelSet.ext (by cbv)
  have hhighSeries : high.labels.erase "le" = .ofPairs [] := LabelSet.ext (by cbv)
  have hunit : 0 < TimeUnit.seconds.millis := by decide
  obtain ⟨hbuckets, g, hg⟩ :=
    exists_histogram_of_forall₂ (f := f) hunit (.cons hlowBucket (.cons hhighBucket .nil))
  have hkeys : orderKey 1.005 ≤ orderKey 2.5 := by decide +kernel
  have hsorted := stablySorted_bucketsOf (.ofPairs []) hbuckets
    (by simp [hlowSeries, hhighSeries]) (by simpa using hkeys)
  have hedge : edge .seconds 1.005 = 1004 := by
    rw [edge, ← toInt_truncate]
    decide +kernel
  have hblock := (deaccumulates_blockOf hg (.ofPairs [])).getElem?_succ hsorted (k := 0) rfl rfl
  refine ⟨⟨by simp, by simp, .inl rfl⟩, by decide +kernel, g, _, hg, hblock, ?_, by decide⟩
  rw [hedge]
  exact (LabelSet.get?_insert _ _ _ _).trans (if_pos rfl)

end Family

end MetricAlgebra
