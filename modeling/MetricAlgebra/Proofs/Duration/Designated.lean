import MetricAlgebra.Proofs.Binary64
import MetricAlgebra.Proofs.Duration.Grammar

/-!
# Reading durations with designators

A part that is not there is skipped, because what is behind it has other designators or none, and
so each part is read where it stands (`component_append`, `component_skip`). What is not given adds
nothing to the total, since no length has a negative sign (`total_eq_sum`).
-/

namespace MetricAlgebra.Duration

open Decimal Binary64

/-! ## Parts with designators -/

/-- What is read as a part is one. -/
theorem component_sound {designators text rest : List Char} {scale : Float} {x : Option Float}
    (h : component designators scale text = (x, rest)) :
    ∃ part, text = part ++ rest ∧ Part designators scale part x := by
  unfold component at h
  split at h
  · rename_i x mark rest' hread
    obtain ⟨number, htext, hnumber⟩ := decimal?_sound hread
    split at h
    · rename_i hmark
      cases h
      exact ⟨number ++ [mark], by simp [htext], .given hnumber hmark⟩
    · cases h
      exact ⟨[], rfl, .absent⟩
  · cases h
    exact ⟨[], rfl, .absent⟩

/-- A number is a part where one of the designators is behind it. -/
theorem component_number {designators number rest : List Char} {scale x : Float} {mark : Char}
    (h : Number number x) (hmark : IsStop mark) :
    component designators scale (number ++ mark :: rest) =
      if mark ∈ designators then (some (x * scale), rest) else (none, number ++ mark :: rest) := by
  have hstop : ∀ c ∈ (mark :: rest).head?, IsStop c := by
    rintro c ⟨⟩
    exact hmark
  unfold component
  rw [decimal?_append h hstop]

/-- A part is read to its end, where no other is behind it. -/
theorem component_append {designators part rest : List Char} {scale : Float} {x : Option Float}
    (h : Part designators scale part x) (hstop : ∀ c ∈ designators, IsStop c)
    (hrest : component designators scale rest = (none, rest)) :
    component designators scale (part ++ rest) = (x, rest) := by
  cases h with
  | absent => exact hrest
  | @given number x mark hnumber hmark =>
    rw [List.append_assoc, List.singleton_append, component_number hnumber (hstop mark hmark),
      if_pos hmark]

/-- A part with other designators is not read. -/
theorem component_skip {designators marks part rest : List Char} {scale scale' : Float}
    {x : Option Float} (h : Part marks scale' part x) (hstop : ∀ c ∈ marks, IsStop c)
    (hdisjoint : ∀ c ∈ marks, c ∉ designators)
    (hrest : component designators scale rest = (none, rest)) :
    component designators scale (part ++ rest) = (none, part ++ rest) := by
  cases h with
  | absent => exact hrest
  | @given number x mark hnumber hmark =>
    rw [List.append_assoc, List.singleton_append, component_number hnumber (hstop mark hmark),
      if_neg (hdisjoint mark hmark)]

/-- No part starts without a digit. -/
theorem component_eq_none {designators text : List Char} {scale : Float}
    (h : ∀ c ∈ text.head?, c.isDigit = false) :
    component designators scale text = (none, text) := by
  unfold component decimal?
  rw [spanDigits_eq_nil h]
  rfl

/-- What is read as hours, minutes and seconds is that, and else nothing is read. -/
theorem dayTime_sound {text rest : List Char} {t : Option DayTime} (h : dayTime text = (t, rest)) :
    ∃ part, text = part ++ rest ∧ TimePart part (t.getD {}) ∧
      t.isSome = (t.getD {}).isGiven := by
  unfold dayTime at h
  split at h
  · split at h
    · rename_i mark rest₀ hmark
      rcases hh : component ['h', 'H'] hour rest₀ with ⟨hours, rest₁⟩
      rcases hm : component ['m', 'M'] minute rest₁ with ⟨minutes, rest₂⟩
      rcases hs : component ['s', 'S'] second rest₂ with ⟨seconds, rest₃⟩
      rw [hh] at h
      dsimp only at h
      rw [hm] at h
      dsimp only at h
      rw [hs] at h
      dsimp only at h
      obtain ⟨h', rfl, hhours⟩ := component_sound hh
      obtain ⟨m', rfl, hminutes⟩ := component_sound hm
      obtain ⟨s', rfl, hseconds⟩ := component_sound hs
      split at h
      · rename_i hgiven
        cases h
        exact ⟨mark :: (h' ++ m' ++ s'), by simp,
          .given hmark hhours hminutes hseconds hgiven, hgiven.symm⟩
      · cases h
        exact ⟨[], rfl, .absent, rfl⟩
    · cases h
      exact ⟨[], rfl, .absent, rfl⟩
  · cases h
    exact ⟨[], rfl, .absent, rfl⟩

/-- Hours, minutes and seconds are read to their end. -/
theorem dayTime_complete {text : List Char} {t : DayTime} (h : TimePart text t) :
    ∃ time, dayTime text = (time, []) ∧ time.getD {} = t ∧ time.isSome = t.isGiven := by
  have hh : ∀ c ∈ ['h', 'H'], IsStop c := by simp [IsStop]
  have hm : ∀ c ∈ ['m', 'M'], IsStop c := by simp [IsStop]
  have hs : ∀ c ∈ ['s', 'S'], IsStop c := by simp [IsStop]
  cases h with
  | absent => exact ⟨none, rfl, rfl, rfl⟩
  | @given mark h m s t hmark hhours hminutes hseconds hgiven =>
    refine ⟨some t, ?_, rfl, hgiven.symm⟩
    have hend {designators : List Char} {scale : Float} :
        component designators scale [] = (none, []) := component_eq_none (by simp)
    have hskip {designators : List Char} {scale : Float}
        (hdisjoint : ∀ c ∈ ['s', 'S'], c ∉ designators) :
        component designators scale (s ++ []) = (none, s ++ []) :=
      component_skip hseconds hs hdisjoint hend
    -- A part that is absent is not found further on: what is there has other designators.
    have hread₁ : component ['h', 'H'] hour (h ++ (m ++ (s ++ []))) =
        (t.hours, m ++ (s ++ [])) :=
      component_append hhours hh (component_skip hminutes hm (by simp) (hskip (by simp)))
    have hread₂ : component ['m', 'M'] minute (m ++ (s ++ [])) = (t.minutes, s ++ []) :=
      component_append hminutes hm (hskip (by simp))
    have hread₃ : component ['s', 'S'] second (s ++ []) = (t.seconds, []) :=
      component_append hseconds hs hend
    have htext : h ++ m ++ s = h ++ (m ++ (s ++ [])) := by simp
    rw [htext]
    unfold dayTime
    dsimp only
    rw [if_pos hmark, hread₁]
    dsimp only
    rw [hread₂]
    dsimp only
    rw [hread₃]
    exact if_pos hgiven

/-! ## Durations with designators -/

/-- A number has a positive sign. -/
theorem Number.isPlus {number : List Char} {x : Float} (h : Number number x) : IsPlus x := by
  cases h <;> exact isPlus_ofScientific _ _ _

/-- Zero, where sums start, has a positive sign. -/
theorem isPlus_zero : IsPlus 0.0 := isPlus_ofScientific 0 true 1

/-- The length of a part has a positive sign. -/
theorem Part.isPlus {designators part : List Char} {scale : Float} {x : Option Float}
    (h : Part designators scale part x) (hscale : isPositive scale = true) :
    ∀ y ∈ x, IsPlus y := by
  cases h with
  | absent => simp
  | given hnumber _ =>
    rintro y ⟨⟩
    exact hnumber.isPlus.mul hscale

/-- What is not given adds nothing. -/
theorem foldl_add_reduceOption (parts : List (Option Float))
    (hparts : ∀ part ∈ parts, ∀ x ∈ part, IsPlus x) {a : Float} (ha : IsPlus a) :
    parts.reduceOption.foldl (· + ·) a = parts.foldl (fun a part => a + part.getD 0.0) a := by
  -- The sum so far keeps a positive sign, without which a zero could change it.
  induction parts generalizing a with
  | nil => rfl
  | cons part parts ih =>
    have hparts' : ∀ part ∈ parts, ∀ x ∈ part, IsPlus x := fun part hpart =>
      hparts part (List.mem_cons_of_mem _ hpart)
    cases part with
    | none =>
      rw [List.reduceOption_cons_of_none, ih hparts' ha, List.foldl_cons, Option.getD_none,
        ha.add_zero]
    | some x =>
      have hx : IsPlus x := hparts (some x) (List.mem_cons_self) x rfl
      rw [List.reduceOption_cons_of_some, List.foldl_cons, ih hparts' (ha.add hx)]
      rfl

/-- The total of days and the parts of a day is the sum of what is given. -/
theorem total_eq_sum {d t : List Char} {days : Option Float} {time : DayTime}
    (hdays : Part ['d', 'D'] day d days) (htime : TimePart t time) :
    total days time = sum [days, time.hours, time.minutes, time.seconds].reduceOption := by
  have hday : ∀ x ∈ days, IsPlus x := hdays.isPlus (by decide +kernel)
  have hparts : ∀ part ∈ [days, time.hours, time.minutes, time.seconds], ∀ x ∈ part, IsPlus x := by
    cases htime with
    | absent => simpa using hday
    | given _ hhours hminutes hseconds _ =>
      have hhour := hhours.isPlus (by decide +kernel)
      have hminute := hminutes.isPlus (by decide +kernel)
      have hsecond := hseconds.isPlus (by decide +kernel)
      simp only [List.mem_cons, List.not_mem_nil, or_false]
      rintro part (rfl | rfl | rfl | rfl)
      · exact hday
      · exact hhour
      · exact hminute
      · exact hsecond
  have hfirst : 0.0 + days.getD 0.0 = days.getD 0.0 := by
    cases days with
    | none => exact isPlus_zero.zero_add
    | some x => exact (hday x rfl).zero_add
  unfold total sum
  rw [foldl_add_reduceOption _ hparts isPlus_zero]
  show _ = 0.0 + days.getD 0.0 + time.hours.getD 0.0 + time.minutes.getD 0.0 + time.seconds.getD 0.0
  rw [hfirst]

/-- Days are not read where hours, minutes and seconds are. -/
theorem component_timePart {designators text : List Char} {scale : Float} {t : DayTime}
    (h : TimePart text t) : component designators scale text = (none, text) := by
  refine component_eq_none ?_
  cases h with
  | absent => simp
  | given hmark _ _ _ _ =>
    rintro c ⟨⟩
    rcases hmark with rfl | rfl <;> rfl

/-- What is read as a duration with designators is one. -/
theorem designated?_sound {text rest : List Char} {x : Float}
    (h : designated? text = some (x, rest)) :
    ∃ part, text = part ++ rest ∧ Designated part x := by
  unfold designated? at h
  obtain ⟨s, negative, rest₀, rfl, hs, hsplit⟩ := splitSign_sound text
  rw [hsplit] at h
  dsimp only at h
  split at h
  · rename_i mark rest₁
    split at h
    · rename_i hmark
      rcases hd : component ['d', 'D'] day rest₁ with ⟨days, rest₂⟩
      rcases ht : dayTime rest₂ with ⟨time, rest₃⟩
      rw [hd] at h
      dsimp only at h
      rw [ht] at h
      dsimp only at h
      obtain ⟨d, rfl, hdays⟩ := component_sound hd
      obtain ⟨t, rfl, htime, hgiven⟩ := dayTime_sound ht
      split at h
      · rename_i hsome
        cases h
        rw [Bool.or_eq_true, hgiven] at hsome
        refine ⟨s ++ mark :: (d ++ t), by simp, ?_⟩
        rw [total_eq_sum hdays htime]
        exact .intro hs hmark hdays htime hsome
      · cases h
    · cases h
  · cases h

/-- A duration with designators is read to its end. -/
theorem designated?_complete {text : List Char} {x : Float} (h : Designated text x) :
    designated? text = some (x, []) := by
  obtain @⟨s, d, t, negative, mark, days, time, hs, hmark, hdays, htime, hgiven⟩ := h
  have hd : ∀ c ∈ ['d', 'D'], IsStop c := by simp [IsStop]
  have hsign : splitSign (s ++ mark :: (d ++ t)) = (negative, mark :: (d ++ t)) := by
    refine splitSign_append hs ?_
    rintro c ⟨⟩
    rcases hmark with rfl | rfl <;> decide
  have hday : component ['d', 'D'] day (d ++ t) = (days, t) :=
    component_append hdays hd (component_timePart htime)
  obtain ⟨time', htime', hgetD, hsome⟩ := dayTime_complete htime
  have hany : (days.isSome || time'.isSome) = true := by rw [hsome, Bool.or_eq_true]; exact hgiven
  unfold designated?
  rw [hsign]
  dsimp only
  rw [if_pos hmark, hday]
  dsimp only
  rw [htime']
  dsimp only
  rw [if_pos hany, hgetD, total_eq_sum hdays htime]

/-- Nothing with designators starts with a sign and a digit. -/
theorem designated?_eq_none {s rest : List Char} {negative : Bool} (hs : Sign s negative)
    (hrest : StartsWithDigit rest) : designated? (s ++ rest) = none := by
  have hsign := splitSign_append_digit hs hrest
  obtain ⟨c, rest', rfl, hc⟩ := hrest
  have hmark : ¬ (c = 'p' ∨ c = 'P') := by
    rintro (rfl | rfl) <;> cases hc
  unfold designated?
  rw [hsign]
  dsimp only
  rw [if_neg hmark]

end MetricAlgebra.Duration
