import MetricAlgebra.Proofs.Duration.Designated

/-!
# Reading durations with units and bare milliseconds

Numbers with units are read to the end of the text (`terms_complete`): the unit of minutes is not
taken for the start of that of milliseconds, since behind it there is a digit or nothing. Neither
style is hidden by one that is tried before it.
-/

namespace MetricAlgebra.Duration

open Decimal

/-! ## Durations with units -/

/-- What is read as a unit is one. -/
theorem unit?_sound {text rest : List Char} {scale : Float} (h : unit? text = some (scale, rest)) :
    ∃ unit, text = unit ++ rest ∧ (unit, scale) ∈ units := by
  unfold unit? at h
  unfold units
  split at h <;> cases h
  · exact ⟨['m', 's'], rfl, by simp⟩
  · exact ⟨['s'], rfl, by simp⟩
  · exact ⟨['m'], rfl, by simp⟩
  · exact ⟨['h'], rfl, by simp⟩
  · exact ⟨['d'], rfl, by simp⟩
  · exact ⟨['w'], rfl, by simp⟩
  · exact ⟨['y'], rfl, by simp⟩

/-- A unit is read to its end, where no `s` is behind it. -/
theorem unit?_append {unit rest : List Char} {scale : Float} (h : (unit, scale) ∈ units)
    (hrest : ∀ c ∈ rest.head?, c ≠ 's') : unit? (unit ++ rest) = some (scale, rest) := by
  unfold units at h
  simp only [List.mem_cons, Prod.mk.injEq, List.not_mem_nil, or_false] at h
  rcases h with ⟨rfl, rfl⟩ | ⟨rfl, rfl⟩ | ⟨rfl, rfl⟩ | ⟨rfl, rfl⟩ | ⟨rfl, rfl⟩ | ⟨rfl, rfl⟩ |
    ⟨rfl, rfl⟩
  · rfl
  · rfl
  · -- The unit of minutes is the start of that of milliseconds.
    refine unit?.eq_3 rest fun rest' heq => ?_
    exact hrest 's' (by rw [heq]; rfl) rfl
  all_goals rfl

/-- What is read as a number with a unit is one. -/
theorem term?_sound {text rest : List Char} {length : Float}
    (h : term? text = some (length, rest)) :
    ∃ number unit x scale, text = number ++ (unit ++ rest) ∧ Number number x ∧
      (unit, scale) ∈ units ∧ length = x * scale := by
  unfold term? at h
  obtain ⟨⟨x, rest₁⟩, hnumber, hbehind⟩ := Option.bind_eq_some_iff.1 h
  obtain ⟨⟨scale, rest₂⟩, hunit, hresult⟩ := Option.bind_eq_some_iff.1 hbehind
  obtain ⟨number, rfl, hnumber'⟩ := decimal?_sound hnumber
  obtain ⟨unit, rfl, hunit'⟩ := unit?_sound hunit
  cases hresult
  exact ⟨number, unit, x, scale, rfl, hnumber', hunit', rfl⟩

/-- A unit does not prolong a number. -/
theorem isStop_unit {unit : List Char} {scale : Float} (h : (unit, scale) ∈ units)
    (rest : List Char) : ∀ c ∈ (unit ++ rest).head?, IsStop c := by
  unfold units at h
  simp only [List.mem_cons, Prod.mk.injEq, List.not_mem_nil, or_false] at h
  rcases h with ⟨rfl, -⟩ | ⟨rfl, -⟩ | ⟨rfl, -⟩ | ⟨rfl, -⟩ | ⟨rfl, -⟩ | ⟨rfl, -⟩ | ⟨rfl, -⟩
  all_goals
    rintro c ⟨⟩
    decide

/-- A number with a unit is read to its end, where no `s` is behind it. -/
theorem term?_append {number unit rest : List Char} {x scale : Float} (hnumber : Number number x)
    (hunit : (unit, scale) ∈ units) (hrest : ∀ c ∈ rest.head?, c ≠ 's') :
    term? (number ++ (unit ++ rest)) = some (x * scale, rest) := by
  unfold term?
  rw [decimal?_append hnumber (isStop_unit hunit rest)]
  show ((unit? (unit ++ rest)).bind fun read => some (x * read.1, read.2)) = _
  rw [unit?_append hunit hrest]
  rfl

/-- What is read as numbers with units is that. -/
theorem terms_sound {limit : Nat} {text rest : List Char} {lengths : List Float}
    (h : terms limit text = (lengths, rest)) :
    ∃ part, text = part ++ rest ∧ Terms part lengths := by
  induction limit generalizing text rest lengths with
  | zero =>
    cases h
    exact ⟨[], rfl, .none⟩
  | succ limit ih =>
    unfold terms at h
    split at h
    · rename_i length rest₁ hterm
      obtain ⟨number, unit, x, scale, rfl, hnumber, hunit, rfl⟩ := term?_sound hterm
      rcases hrest : terms limit rest₁ with ⟨lengths', rest₂⟩
      obtain ⟨part, rfl, hpart⟩ := ih hrest
      rw [hrest] at h
      cases h
      exact ⟨number ++ (unit ++ part), by simp, .more hnumber hunit hpart⟩
    · cases h
      exact ⟨[], rfl, .none⟩

/-- Numbers with units start with a digit. -/
theorem Terms.startsWithDigit {text : List Char} {lengths : List Float} (h : Terms text lengths)
    (hne : lengths ≠ []) : StartsWithDigit text := by
  cases h with
  | none => exact absurd rfl hne
  | more hnumber _ _ => exact hnumber.startsWithDigit _

/-- No `s` is where numbers with units can be. -/
theorem Terms.head_ne {text : List Char} {lengths : List Float} (h : Terms text lengths) :
    ∀ c ∈ text.head?, c ≠ 's' := by
  rintro c hc rfl
  cases h with
  | none => cases hc
  | @more number unit text x scale lengths hnumber _ _ =>
    obtain ⟨d, rest, htext, hd⟩ := hnumber.startsWithDigit (unit ++ text)
    rw [htext] at hc
    cases hc
    cases hd

/-- Numbers with units are read to their end, where as many are read as there are characters. -/
theorem terms_complete {text : List Char} {lengths : List Float} (h : Terms text lengths)
    {limit : Nat} (hlimit : text.length ≤ limit) : terms limit text = (lengths, []) := by
  -- Each number has a digit at least, so that one less may be read behind it.
  induction h generalizing limit with
  | none => cases limit <;> rfl
  | @more number unit text x scale lengths hnumber hunit hrest ih =>
    have hpos : 0 < number.length := by
      obtain ⟨c, rest, hnumber', -⟩ := hnumber.startsWithDigit []
      rw [List.append_nil] at hnumber'
      rw [hnumber']
      exact Nat.succ_pos _
    simp only [List.length_append] at hlimit
    obtain ⟨limit, rfl⟩ : ∃ k, limit = k + 1 := ⟨limit - 1, by omega⟩
    unfold terms
    rw [term?_append hnumber hunit hrest.head_ne]
    dsimp only
    rw [ih (by omega)]

/-- What is read as a duration with units is one. -/
theorem united?_sound {text rest : List Char} {x : Float} (h : united? text = some (x, rest)) :
    ∃ part, text = part ++ rest ∧ United part x := by
  unfold united? at h
  obtain ⟨s, negative, rest₀, rfl, hs, hsplit⟩ := splitSign_sound text
  rw [hsplit] at h
  dsimp only at h
  rcases hterms : terms rest₀.length rest₀ with ⟨lengths, rest₁⟩
  rw [hterms] at h
  obtain ⟨part, rfl, hpart⟩ := terms_sound hterms
  -- At least one number has been read, or else the style does not fit.
  cases lengths with
  | nil => cases h
  | cons length lengths =>
    cases h
    exact ⟨s ++ part, by simp, .intro hs hpart (by simp)⟩

/-- A duration with units is read to its end, and not as one with designators. -/
theorem united?_complete {text : List Char} {x : Float} (h : United text x) :
    designated? text = none ∧ united? text = some (x, []) := by
  obtain @⟨s, text, negative, lengths, hs, hterms, hne⟩ := h
  have hdigit := hterms.startsWithDigit hne
  refine ⟨designated?_eq_none hs hdigit, ?_⟩
  unfold united?
  rw [splitSign_append_digit hs hdigit]
  dsimp only
  rw [terms_complete hterms le_rfl]
  cases lengths with
  | nil => exact absurd rfl hne
  | cons length lengths => rfl

/-! ## Bare milliseconds -/

/-- What is read as bare milliseconds is that. -/
theorem bare?_sound {text rest : List Char} {x : Float} (h : bare? text = some (x, rest)) :
    ∃ part, text = part ++ rest ∧ Bare part x := by
  unfold bare? at h
  obtain ⟨s, negative, rest₀, rfl, hs, hsplit⟩ := splitSign_sound text
  rw [hsplit] at h
  dsimp only at h
  have hrest := spanDigits_fst_append_snd rest₀
  split at h
  · cases h
  · rename_i hne
    have hdigits : IsDigits (spanDigits rest₀).1 := isDigits_spanDigits (by simpa using hne)
    split at h
    · rename_i hfits
      cases h
      refine ⟨s ++ (spanDigits rest₀).1, ?_, .intro hs hdigits rfl hfits.1 hfits.2⟩
      rw [List.append_assoc, hrest]
    · cases h

/-- Digits alone are not numbers with units. -/
theorem terms_digits {digits : List Char} (h : IsDigits digits) (limit : Nat) :
    terms limit digits = ([], digits) := by
  cases limit with
  | zero => rfl
  | succ limit =>
    have hread : decimal? digits = some (pointValue digits [], []) := by
      have hnil : ∀ c ∈ ([] : List Char).head?, IsStop c := by rintro c ⟨⟩
      rw [← decimal?_append (.whole h) hnil, List.append_nil]
    unfold terms term?
    rw [hread]
    rfl

/-- Bare milliseconds are read to their end, and not in another style. -/
theorem bare?_complete {text : List Char} {x : Float} (h : Bare text x) :
    designated? text = none ∧ united? text = none ∧ bare? text = some (x, []) := by
  obtain @⟨s, digits, negative, n, hs, hdigits, rfl, hmin, hmax⟩ := h
  have hdigit : StartsWithDigit digits := by
    have := hdigits.startsWithDigit []
    rwa [List.append_nil] at this
  refine ⟨designated?_eq_none hs hdigit, ?_, ?_⟩
  · unfold united?
    rw [splitSign_append_digit hs hdigit]
    dsimp only
    rw [terms_digits hdigits]
  · have hspan : spanDigits digits = (digits, []) := by
      have hnil : ∀ c ∈ ([] : List Char).head?, c.isDigit = false := by rintro c ⟨⟩
      rw [← spanDigits_append hdigits.2 hnil, List.append_nil]
    unfold bare?
    rw [splitSign_append_digit hs hdigit]
    dsimp only
    rw [hspan]
    dsimp only
    rw [if_neg (by simpa using hdigits.1), if_pos ⟨hmin, hmax⟩]

end MetricAlgebra.Duration
