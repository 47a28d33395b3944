import MetricAlgebra.Proofs.Binary64
import MetricAlgebra.Proofs.Duration.United

/-!
# Reading durations

Durations and ranges are read exactly according to the grammar (`read_grammar`). The styles are
tried in order, and only the first one that fits the start of a text can fit all of it; that no
style hides a later one is `styles_complete`.
-/

namespace MetricAlgebra.Duration

open Binary64

/-! ## Whole texts -/

/-- What the first style that fits reads is a duration. -/
theorem styles_sound {text rest : List Char} {x : Float}
    (h : (designated? text <|> united? text <|> bare? text) = some (x, rest)) :
    ∃ part, text = part ++ rest ∧ Denotes part x := by
  unfold Denotes
  rcases (Option.orElse_eq_some _ _ _).1 h with hread | ⟨-, h⟩
  · obtain ⟨part, htext, hpart⟩ := designated?_sound hread
    exact ⟨part, htext, .inl hpart⟩
  rcases (Option.orElse_eq_some _ _ _).1 h with hread | ⟨-, hread⟩
  · obtain ⟨part, htext, hpart⟩ := united?_sound hread
    exact ⟨part, htext, .inr (.inl hpart)⟩
  · obtain ⟨part, htext, hpart⟩ := bare?_sound hread
    exact ⟨part, htext, .inr (.inr hpart)⟩

/-- No style that fits the start of a duration hides the one that fits all of it. -/
theorem styles_complete {text : List Char} {x : Float} (h : Denotes text x) :
    (designated? text <|> united? text <|> bare? text) = some (x, []) := by
  -- Behind the sign, the first style wants a letter and the others a digit; numbers with units want
  -- a letter behind the digits, and bare milliseconds want none.
  rcases h with h | h | h
  · rw [designated?_complete h]
    rfl
  · obtain ⟨hdesignated, hunited⟩ := united?_complete h
    rw [hdesignated, hunited]
    rfl
  · obtain ⟨hdesignated, hunited, hbare⟩ := bare?_complete h
    rw [hdesignated, hunited, hbare]
    rfl

/-- The length of a text is the finite one that it denotes. -/
theorem length?_eq_some_iff {text : List Char} {x : Float} :
    length? text = some x ↔ Denotes text x ∧ x.isFinite = true := by
  constructor
  · intro h
    unfold length? at h
    split at h
    · rename_i length hread
      obtain ⟨part, htext, hpart⟩ := styles_sound hread
      rw [List.append_nil] at htext
      split at h
      · rename_i hfinite
        cases h
        rw [htext]
        exact ⟨hpart, hfinite⟩
      · cases h
    · cases h
  · rintro ⟨h, hfinite⟩
    unfold length?
    rw [styles_complete h]
    exact if_pos hfinite

/-- The milliseconds of a text: without the white space around it, the text denotes a finite
length, and they are the integer nearest to it. -/
def IsMillis (text : String) (millis : Int64) : Prop :=
  ∃ t x q, Text.Trimmed text.toList t ∧ Denotes t x ∧ toRat? x = some q ∧
    millis = Int64.ofIntClamp (halfAway q)

/-- A text is read as the milliseconds that it denotes. -/
theorem read_eq_ok_iff {text : String} {millis : Int64} :
    read text = .ok millis ↔ IsMillis text millis := by
  have hread : read text = .ok millis ↔
      ∃ x, length? (Text.trimChars text.toList) = some x ∧ Binary64.round x = millis := by
    unfold read
    cases length? (Text.trimChars text.toList) <;> simp
  rw [hread]
  constructor
  · rintro ⟨x, hlength, rfl⟩
    obtain ⟨hdenotes, hfinite⟩ := length?_eq_some_iff.1 hlength
    obtain ⟨q, hq⟩ := (isFinite_iff x).1 hfinite
    exact ⟨_, x, q, Text.trimmed_iff.2 rfl, hdenotes, hq, round_eq_halfAway hq⟩
  · rintro ⟨t, x, q, htrimmed, hdenotes, hq, rfl⟩
    rw [Text.trimmed_iff] at htrimmed
    rw [← htrimmed]
    exact ⟨x, length?_eq_some_iff.2 ⟨hdenotes, (isFinite_iff x).2 ⟨q, hq⟩⟩, round_eq_halfAway hq⟩

/-- A text that is not read as milliseconds is refused, and given back as it was. -/
theorem read_eq_error {text : String} {e : Error} (h : read text = .error e) :
    e = .invalidDuration text := by
  unfold read at h
  split at h <;> cases h
  rfl

/-- Exactly the texts of the grammar are read, as the milliseconds that they denote, and the others
are refused. Ranges are the positive ones among them. -/
theorem read_grammar (text : String) :
    (∀ millis, read text = .ok millis ↔ IsMillis text millis) ∧
    ((¬ ∃ millis, IsMillis text millis) → read text = .error (.invalidDuration text)) ∧
    (∀ millis, readRange text = .ok millis ↔ IsMillis text millis ∧ 0 < millis.toInt) ∧
    (∀ millis, IsMillis text millis → millis.toInt ≤ 0 →
      readRange text = .error (.nonPositiveDuration text)) ∧
    ((¬ ∃ millis, IsMillis text millis) → readRange text = .error (.invalidDuration text)) := by
  have hrefused (h : ¬ ∃ millis, IsMillis text millis) :
      read text = .error (.invalidDuration text) := by
    cases hread : read text with
    | ok millis => exact absurd ⟨millis, read_eq_ok_iff.1 hread⟩ h
    | error e => rw [read_eq_error hread]
  refine ⟨fun millis => read_eq_ok_iff, hrefused, fun millis => ?_, fun millis h hmillis => ?_,
    fun h => readRange_eq_error (hrefused h)⟩
  · rw [← read_eq_ok_iff]
    constructor
    · intro h
      cases hread : read text with
      | error e =>
        rw [readRange_eq_error hread] at h
        cases h
      | ok m =>
        rw [readRange_eq hread] at h
        split at h
        · cases h
        · cases h
          exact ⟨rfl, by omega⟩
    · rintro ⟨hread, hpos⟩
      rw [readRange_eq hread, if_neg (by omega)]
  · rw [readRange_eq (read_eq_ok_iff.2 h), if_pos hmillis]

set_option maxRecDepth 10000 in
/-- A text with white space around it, a comma in a number and a negative length is read as a
duration, and refused as a range. -/
theorem read_grammar_minus_half_second :
    IsMillis " -PT0,5S\n" (-500) ∧
      readRange " -PT0,5S\n" = .error (.nonPositiveDuration " -PT0,5S\n") := by
  obtain ⟨hread, -, -, hrange, -⟩ := read_grammar " -PT0,5S\n"
  have hmillis : IsMillis " -PT0,5S\n" (-500) := (hread (-500)).1 rfl
  exact ⟨hmillis, hrange (-500) hmillis (by decide)⟩

set_option maxRecDepth 10000 in
example : read "1m30" = .error (.invalidDuration "1m30") := by rfl

end MetricAlgebra.Duration
