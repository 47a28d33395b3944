import MetricAlgebra.Proofs.Duration.Reading
import MetricAlgebra.Proofs.Grouping
import MetricAlgebra.Proofs.Shortest
import MetricAlgebra.Proofs.WholeNumber

/-!
# Durations of whole numbers are exact

Every number of a duration is multiplied by its unit, the products are added up and the sum gets the
sign, all of it in floating point. Where the numbers are whole, so is each of these results, and
none of them is longer than the whole duration; if this has at most `2 ^ 53` milliseconds, nothing
is rounded on the way (`Duration.IsLength`), and what is read is the sum of the numbers times their
units (`Duration.read_whole_numbers`).
-/

namespace MetricAlgebra.Duration

open Decimal hiding IsWhole
open Binary64

/-! ## Texts of whole numbers -/

/-- A whole number: digits, and nothing but zeros behind a point or comma. -/
inductive WholeNumber : List Char → ℕ → Prop
  | plain {digits : List Char} : IsDigits digits → WholeNumber digits (natValue digits)
  | pointed {digits zeros : List Char} {mark : Char} : IsDigits digits →
      mark = '.' ∨ mark = ',' → zeros ≠ [] → (∀ c ∈ zeros, c = '0') →
      WholeNumber (digits ++ mark :: zeros) (natValue digits)

/-- Whole numbers with designators behind them, in the order in which the designators are given with
their milliseconds, and the lengths of the numbers that are there. -/
inductive WholeParts : List (List Char × ℕ) → List Char → List ℕ → Prop
  | none : WholeParts [] [] []
  | absent {designators : List Char} {millis : ℕ} {rest : List (List Char × ℕ)}
      {text : List Char} {lengths : List ℕ} : WholeParts rest text lengths →
      WholeParts ((designators, millis) :: rest) text lengths
  | given {designators number text : List Char} {millis n : ℕ} {rest : List (List Char × ℕ)}
      {mark : Char} {lengths : List ℕ} : WholeNumber number n → mark ∈ designators →
      WholeParts rest text lengths →
      WholeParts ((designators, millis) :: rest) (number ++ mark :: text) (n * millis :: lengths)

/-- The designator of days. -/
def dayParts : List (List Char × ℕ) := [(['d', 'D'], 86400000)]

/-- The designators of hours, minutes and seconds. -/
def timeParts : List (List Char × ℕ) :=
  [(['h', 'H'], 3600000), (['m', 'M'], 60000), (['s', 'S'], 1000)]

/-- The units with their milliseconds. -/
def unitMillis : List (List Char × ℕ) :=
  [(['m', 's'], 1), (['s'], 1000), (['m'], 60000), (['h'], 3600000), (['d'], 86400000),
   (['w'], 604800000), (['y'], 31536000000)]

/-- Whole numbers with units behind them, in any order, and their lengths. -/
inductive WholeTerms : List Char → List ℕ → Prop
  | none : WholeTerms [] []
  | more {number unit text : List Char} {millis n : ℕ} {lengths : List ℕ} :
      WholeNumber number n → (unit, millis) ∈ unitMillis → WholeTerms text lengths →
      WholeTerms (number ++ (unit ++ text)) (n * millis :: lengths)

/-- The optional part of hours, minutes and seconds, at least one of them. -/
inductive WholeTime : List Char → List ℕ → Prop
  | absent : WholeTime [] []
  | given {mark : Char} {text : List Char} {lengths : List ℕ} : mark = 't' ∨ mark = 'T' →
      WholeParts timeParts text lengths → lengths ≠ [] → WholeTime (mark :: text) lengths

/-- A duration of whole numbers: whether it has a minus, and the lengths of its numbers. -/
inductive WholeDuration : List Char → Bool → List ℕ → Prop
  | designated {s d t : List Char} {negative : Bool} {mark : Char} {days time : List ℕ} :
      Sign s negative → mark = 'p' ∨ mark = 'P' → WholeParts dayParts d days →
      WholeTime t time → days ++ time ≠ [] →
      WholeDuration (s ++ mark :: (d ++ t)) negative (days ++ time)
  | united {s text : List Char} {negative : Bool} {lengths : List ℕ} : Sign s negative →
      WholeTerms text lengths → lengths ≠ [] → WholeDuration (s ++ text) negative lengths

/-- A number as it is written is a whole number. -/
theorem wholeNumber_repr (n : ℕ) : WholeNumber (Nat.repr n).toList n := by
  have h : WholeNumber (Nat.repr n).toList (natValue (Nat.repr n).toList) :=
    .plain ⟨(isWhole_repr n).ne_nil, fun _ => isDigit_of_mem_repr⟩
  rwa [natValue_repr] at h

/-! ## Exact lengths -/

/-- Whether a value is a whole number of milliseconds, if these are not too many. -/
def IsLength (x : Float) (n : ℕ) : Prop := n ≤ 2 ^ 53 → IsWhole x n

/-- A whole number is read as the value that it is. -/
theorem WholeNumber.exists_number {number : List Char} {n : ℕ} (h : WholeNumber number n) :
    ∃ x, Number number x ∧ IsLength x n := by
  have hvalue {digits zeros : List Char} (hzeros : ∀ c ∈ zeros, c = '0') :
      IsLength (pointValue digits zeros) (natValue digits) := by
    intro hn
    -- The zeros behind the point are digits of a number that is that many powers of ten greater.
    have hread : natValue (digits ++ zeros) * 1 = natValue digits * 10 ^ zeros.length := by
      rw [List.eq_replicate_of_mem hzeros, natValue_append, natValue_replicate_zero,
        List.length_replicate]
      ring
    rw [IsWhole, toRat?_pointValue one_pos (by norm_num) hn hread, Nat.cast_one, div_one,
      nearest_natCast hn]
    rfl
  cases h with
  | plain hdigits => exact ⟨_, .whole hdigits, hvalue (by simp)⟩
  | pointed hdigits hmark hne hzeros =>
    refine ⟨_, .pointed hdigits hmark ⟨hne, fun c hc => ?_⟩, hvalue hzeros⟩
    rw [hzeros c hc]
    rfl

/-- A whole number times a unit is the length that it is. -/
theorem IsLength.mul {x scale : Float} {n millis : ℕ} (hx : IsLength x n)
    (hscale : IsWhole scale millis) (hmillis : 0 < millis) :
    IsLength (x * scale) (n * millis) := by
  intro hle
  -- The number is no longer than its product, so that it is exact where the product has to be.
  have hn : n ≤ n * millis := Nat.le_mul_of_pos_right n hmillis
  have hproduct : |((n : ℤ) * millis)| ≤ 2 ^ 53 := by
    rw [abs_of_nonneg (by positivity)]
    exact_mod_cast hle
  have hexact := (hx (hn.trans hle)).mul hscale hproduct
  exact_mod_cast hexact

/-- Lengths add up to the length of all. -/
theorem IsLength.foldl_add {xs : List Float} {ns : List ℕ} (h : List.Forall₂ IsLength xs ns)
    {x : Float} {n : ℕ} (hx : IsLength x n) : IsLength (xs.foldl (· + ·) x) (n + ns.sum) := by
  -- The sum so far is a length, whatever is still to come: it is at most the whole sum.
  induction h generalizing x n with
  | nil => exact hx
  | @cons y k ys ks hy _ ih =>
    have hsum : IsLength (x + y) (n + k) := by
      intro hle
      have habs : |((n : ℤ) + k)| ≤ 2 ^ 53 := by
        rw [abs_of_nonneg (by positivity)]
        exact_mod_cast hle
      have hexact := (hx (by omega)).add (hy (by omega)) habs
      exact_mod_cast hexact
    rw [List.foldl_cons, List.sum_cons, ← Nat.add_assoc]
    exact ih hsum

/-- The sum of lengths is the length of all. -/
theorem IsLength.sum {xs : List Float} {ns : List ℕ} (h : List.Forall₂ IsLength xs ns) :
    IsLength (Duration.sum xs) ns.sum := by
  have hzero : IsLength 0.0 0 := fun _ => .zero
  have hsum := IsLength.foldl_add h hzero
  rwa [Nat.zero_add] at hsum

/-- The sign of a length is taken over. -/
theorem IsLength.signed {x : Float} {n : ℕ} (h : IsLength x n) (hn : n ≤ 2 ^ 53)
    (negative : Bool) : IsWhole (factor negative * x) (signed negative n) := by
  have hn' : |(n : ℤ)| ≤ 2 ^ 53 := by
    rw [abs_of_nonneg (by positivity)]
    exact_mod_cast hn
  cases negative with
  | false =>
    have hone : IsWhole (factor false) 1 := by decide +kernel
    have hexact := hone.mul (h hn) (by rwa [one_mul])
    rwa [one_mul] at hexact
  | true =>
    have hone : IsWhole (factor true) (-1) := by decide +kernel
    have hexact := hone.mul (h hn) (by rwa [neg_one_mul, abs_neg])
    rwa [neg_one_mul] at hexact

/-- The units are read as values that are their milliseconds. -/
theorem forall₂_units : List.Forall₂ (fun read unit => read.1 = unit.1 ∧
    IsWhole read.2 unit.2 ∧ 0 < unit.2) units unitMillis := by
  unfold units unitMillis
  simp only [List.forall₂_cons, List.forall₂_nil_left_iff]
  decide +kernel

/-- Whole numbers with units are read as their lengths. -/
theorem WholeTerms.exists_terms {text : List Char} {ns : List ℕ} (h : WholeTerms text ns) :
    ∃ xs, Terms text xs ∧ List.Forall₂ IsLength xs ns := by
  induction h with
  | none => exact ⟨[], .none, .nil⟩
  | @more number unit text millis n lengths hnumber hunit _ ih =>
    obtain ⟨x, hx, hlength⟩ := hnumber.exists_number
    obtain ⟨⟨_, scale⟩, hscale, rfl, hmillis, hpos⟩ :=
      Grouping.exists_left_of_forall₂ forall₂_units hunit
    obtain ⟨xs, hxs, hlengths⟩ := ih
    exact ⟨_, .more hx hscale hxs, .cons (hlength.mul hmillis hpos) hlengths⟩

/-- The first part is read as its length, if it is there. -/
theorem WholeParts.exists_part {designators text : List Char} {millis : ℕ}
    {rest : List (List Char × ℕ)} {ns : List ℕ}
    (h : WholeParts ((designators, millis) :: rest) text ns) {scale : Float}
    (hscale : IsWhole scale millis) (hmillis : 0 < millis) :
    ∃ part text' x ks ns', text = part ++ text' ∧ ns = ks ++ ns' ∧ Part designators scale part x ∧
      List.Forall₂ IsLength x.toList ks ∧ WholeParts rest text' ns' := by
  cases h with
  | absent h => exact ⟨[], _, .none, [], _, rfl, rfl, .absent, .nil, h⟩
  | @given _ number text' _ n _ mark ns' hnumber hmark h =>
    obtain ⟨x, hx, hlength⟩ := hnumber.exists_number
    exact ⟨number ++ [mark], text', some (x * scale), [n * millis], ns', by simp, rfl,
      .given hx hmark, .cons (hlength.mul hscale hmillis) .nil, h⟩

/-- No part is left behind the last one. -/
theorem WholeParts.eq_nil {text : List Char} {ns : List ℕ} (h : WholeParts [] text ns) :
    text = [] ∧ ns = [] := by
  cases h
  exact ⟨rfl, rfl⟩

/-- Days are read as their length. -/
theorem WholeParts.exists_days {text : List Char} {ns : List ℕ} (h : WholeParts dayParts text ns) :
    ∃ days, Part ['d', 'D'] day text days ∧ List.Forall₂ IsLength days.toList ns := by
  have hday : IsWhole day (86400000 : ℕ) := by decide +kernel
  obtain ⟨d, _, days, ks, _, rfl, rfl, hdays, hks, hrest⟩ := h.exists_part hday (by norm_num)
  obtain ⟨rfl, rfl⟩ := hrest.eq_nil
  exact ⟨days, by rwa [List.append_nil], by rwa [List.append_nil]⟩

/-- What is given of a list is that of its first item and that behind it. -/
theorem reduceOption_cons {α : Type} (x : Option α) (xs : List (Option α)) :
    (x :: xs).reduceOption = x.toList ++ xs.reduceOption := by
  cases x <;> rfl

/-- Of hours, minutes and seconds one is given exactly if they are not all left out. -/
theorem DayTime.isGiven_iff (t : DayTime) :
    t.isGiven = true ↔ [t.hours, t.minutes, t.seconds].reduceOption ≠ [] := by
  obtain ⟨hours, minutes, seconds⟩ := t
  cases hours <;> cases minutes <;> cases seconds <;> simp [DayTime.isGiven, List.reduceOption]

/-- Hours, minutes and seconds are read as their lengths. -/
theorem WholeTime.exists_time {text : List Char} {ns : List ℕ} (h : WholeTime text ns) :
    ∃ time, TimePart text time ∧
      List.Forall₂ IsLength [time.hours, time.minutes, time.seconds].reduceOption ns := by
  cases h with
  | absent => exact ⟨{}, .absent, .nil⟩
  | given hmark hparts hne =>
    have hhour : IsWhole hour (3600000 : ℕ) := by decide +kernel
    have hminute : IsWhole minute (60000 : ℕ) := by decide +kernel
    have hsecond : IsWhole second (1000 : ℕ) := by decide +kernel
    -- The parts are taken off one by one, in the order of their designators.
    obtain ⟨h', _, hours, hs, _, rfl, rfl, hhours, hhs, hrest⟩ :=
      hparts.exists_part hhour (by norm_num)
    obtain ⟨m, _, minutes, ms, _, rfl, rfl, hminutes, hms, hrest⟩ :=
      hrest.exists_part hminute (by norm_num)
    obtain ⟨s, _, seconds, ss, _, rfl, rfl, hseconds, hss, hrest⟩ :=
      hrest.exists_part hsecond (by norm_num)
    obtain ⟨rfl, rfl⟩ := hrest.eq_nil
    have hlengths : List.Forall₂ IsLength [hours, minutes, seconds].reduceOption
        (hs ++ (ms ++ (ss ++ []))) := by
      rw [reduceOption_cons, reduceOption_cons, reduceOption_cons]
      exact List.rel_append hhs (List.rel_append hms (List.rel_append hss .nil))
    have hgiven : (DayTime.mk hours minutes seconds).isGiven = true := by
      rw [DayTime.isGiven_iff]
      rintro hnil
      rw [hnil, List.forall₂_nil_left_iff] at hlengths
      exact hne hlengths
    refine ⟨⟨hours, minutes, seconds⟩, ?_, hlengths⟩
    rw [List.append_nil, ← List.append_assoc]
    exact .given hmark hhours hminutes hseconds hgiven

/-- A duration of whole numbers denotes the sum of their lengths, with the sign in front. -/
theorem WholeDuration.exists_denotes {t : List Char} {negative : Bool} {ns : List ℕ}
    (h : WholeDuration t negative ns) (hsum : ns.sum ≤ 2 ^ 53) :
    ∃ x, Denotes t x ∧ IsWhole x (signed negative ns.sum) := by
  cases h with
  | @designated s d t _ mark ds ts hs hmark hparts htime hne =>
    obtain ⟨days, hdays, hds⟩ := hparts.exists_days
    obtain ⟨time, htime', hts⟩ := htime.exists_time
    have hlengths : List.Forall₂ IsLength
        [days, time.hours, time.minutes, time.seconds].reduceOption (ds ++ ts) := by
      rw [reduceOption_cons]
      exact List.rel_append hds hts
    -- A length that is there has been read from a part that is there.
    have hgiven : days.isSome ∨ time.isGiven = true := by
      rw [DayTime.isGiven_iff]
      cases days with
      | none =>
        refine .inr fun hnil => hne ?_
        rw [reduceOption_cons, hnil] at hlengths
        exact List.forall₂_nil_left_iff.1 hlengths
      | some x => exact .inl rfl
    exact ⟨_, .inl (.intro hs hmark hdays htime' hgiven),
      (IsLength.sum hlengths).signed hsum negative⟩
  | united hs hterms hne =>
    obtain ⟨xs, hxs, hlengths⟩ := hterms.exists_terms
    have hne' : xs ≠ [] := by
      rintro rfl
      exact hne (List.forall₂_nil_left_iff.1 hlengths)
    exact ⟨_, .inr (.inl (.intro hs hxs hne')), (IsLength.sum hlengths).signed hsum negative⟩

/-- A duration of whole numbers that has at most `2 ^ 53` milliseconds is read without loss, as the
sum of the numbers times their units, with the sign in front. -/
theorem read_whole_numbers {text : String} {t : List Char} {negative : Bool} {ns : List ℕ}
    (htrimmed : Text.Trimmed text.toList t) (h : WholeDuration t negative ns)
    (hsum : ns.sum ≤ 2 ^ 53) :
    ∃ millis, read text = .ok millis ∧ millis.toInt = signed negative ns.sum := by
  obtain ⟨x, hdenotes, hx⟩ := h.exists_denotes hsum
  refine ⟨_, read_eq_ok_iff.2 ⟨t, x, _, htrimmed, hdenotes, hx, rfl⟩, ?_⟩
  rw [halfAway_intCast, toInt_ofIntClamp]
  -- So few milliseconds are far from the ends of the integers of 64 bits.
  cases negative with
  | false =>
    rw [signed, if_neg Bool.false_ne_true]
    omega
  | true =>
    rw [signed, if_pos rfl]
    omega

set_option maxRecDepth 10000 in
/-- A sum of `2 ^ 53` milliseconds with a minus, in which `m` and `ms` take turns; and days with `M`
for minutes behind them, and a comma in the number. -/
theorem read_whole_numbers_longest :
    read " -9007199254680991ms1m1ms" = .ok (-9007199254740992) ∧
      read "P1DT2,0M" = .ok 86520000 := by
  have hone := wholeNumber_repr 1
  have htwo : WholeNumber ['2', ',', '0'] 2 :=
    @WholeNumber.pointed ['2'] ['0'] ',' ⟨by simp, by simp⟩ (.inr rfl) (by simp) (by simp)
  have hmilli : (['m', 's'], 1) ∈ unitMillis := by decide
  have hminute : (['m'], 60000) ∈ unitMillis := by decide
  have hunited := WholeDuration.united .minus
    (.more (wholeNumber_repr 9007199254680991) hmilli
      (.more hone hminute (.more hone hmilli .none))) (by simp)
  have hdays : WholeParts dayParts ((Nat.repr 1).toList ++ ['D']) [86400000] :=
    .given hone (by decide) .none
  have hminutes : WholeParts timeParts (['2', ',', '0'] ++ ['M']) [120000] :=
    .absent (.given htwo (by decide) (.absent .none))
  have htime : WholeTime ['T', '2', ',', '0', 'M'] [120000] :=
    .given (.inr rfl) hminutes (by simp)
  have hdesignated := WholeDuration.designated .none (.inr rfl) hdays htime (by simp)
  have htrimmed := Text.trimmed_iff.2 (rfl : _ = Text.trimChars " -9007199254680991ms1m1ms".toList)
  have htrimmed' : Text.Trimmed "P1DT2,0M".toList "P1DT2,0M".toList := Text.trimmed_iff.2 rfl
  obtain ⟨m₁, hread₁, hm₁⟩ := read_whole_numbers htrimmed hunited (by decide)
  obtain ⟨m₂, hread₂, hm₂⟩ := read_whole_numbers htrimmed' hdesignated (by decide)
  obtain rfl : m₁ = -9007199254740992 := Int64.toInt_inj.1 hm₁
  obtain rfl : m₂ = 86520000 := Int64.toInt_inj.1 hm₂
  exact ⟨hread₁, hread₂⟩

end MetricAlgebra.Duration
