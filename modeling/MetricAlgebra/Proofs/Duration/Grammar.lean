import Mathlib.Data.List.ReduceOption
import MetricAlgebra.Duration

/-!
# The grammar of durations

The texts that are durations and the lengths that they denote, as relations that do not say how a
text is read: there is no order of attempts in them, nothing is greedy and nothing has to be put
back. Behind them is what is common to the three styles, that numbers and signs are read as the
relations say (`decimal?_sound`, `decimal?_append`, `splitSign_sound`, `splitSign_append`).
-/

namespace MetricAlgebra.Duration

open Decimal

/-! ## The grammar -/

/-- One or more decimal digits. -/
def IsDigits (text : List Char) : Prop := text ≠ [] ∧ ∀ c ∈ text, c.isDigit = true

/-- Digits with an optional fraction behind a point or comma, and the value nearest to them. -/
inductive Number : List Char → Float → Prop
  | whole {digits : List Char} : IsDigits digits → Number digits (pointValue digits [])
  | pointed {digits fraction : List Char} {mark : Char} : IsDigits digits →
      mark = '.' ∨ mark = ',' → IsDigits fraction →
      Number (digits ++ mark :: fraction) (pointValue digits fraction)

/-- An optional sign, and whether it is a minus. -/
inductive Sign : List Char → Bool → Prop
  | none : Sign [] false
  | plus : Sign ['+'] false
  | minus : Sign ['-'] true

/-- An optional number with a designator behind it, and its length. -/
inductive Part (designators : List Char) (scale : Float) : List Char → Option Float → Prop
  | absent : Part designators scale [] none
  | given {number : List Char} {x : Float} {mark : Char} : Number number x →
      mark ∈ designators → Part designators scale (number ++ [mark]) (some (x * scale))

/-- The optional part of hours, minutes and seconds in this order, at least one of them. -/
inductive TimePart : List Char → DayTime → Prop
  | absent : TimePart [] {}
  | given {mark : Char} {h m s : List Char} {t : DayTime} : mark = 't' ∨ mark = 'T' →
      Part ['h', 'H'] hour h t.hours → Part ['m', 'M'] minute m t.minutes →
      Part ['s', 'S'] second s t.seconds → t.isGiven = true → TimePart (mark :: (h ++ m ++ s)) t

/-- The units with their lengths. -/
def units : List (List Char × Float) :=
  [(['m', 's'], 1.0), (['s'], second), (['m'], minute), (['h'], hour), (['d'], day), (['w'], week),
   (['y'], year)]

/-- Numbers with units behind them, in any order, and their lengths. -/
inductive Terms : List Char → List Float → Prop
  | none : Terms [] []
  | more {number unit text : List Char} {x scale : Float} {lengths : List Float} :
      Number number x → (unit, scale) ∈ units → Terms text lengths →
      Terms (number ++ (unit ++ text)) (x * scale :: lengths)

/-- The sum of lengths, from the first to the last. -/
def sum (lengths : List Float) : Float := lengths.foldl (· + ·) 0.0

/-- A duration with designators. -/
inductive Designated : List Char → Float → Prop
  | intro {s d t : List Char} {negative : Bool} {mark : Char} {days : Option Float}
      {time : DayTime} : Sign s negative → mark = 'p' ∨ mark = 'P' →
      Part ['d', 'D'] day d days → TimePart t time → days.isSome ∨ time.isGiven = true →
      Designated (s ++ mark :: (d ++ t))
        (factor negative * sum [days, time.hours, time.minutes, time.seconds].reduceOption)

/-- A duration with units. -/
inductive United : List Char → Float → Prop
  | intro {s text : List Char} {negative : Bool} {lengths : List Float} : Sign s negative →
      Terms text lengths → lengths ≠ [] → United (s ++ text) (factor negative * sum lengths)

/-- Bare milliseconds of 64 bits. -/
inductive Bare : List Char → Float → Prop
  | intro {s digits : List Char} {negative : Bool} {n : Int} : Sign s negative →
      IsDigits digits → n = signed negative (natValue digits) →
      Int64.minValue.toInt ≤ n → n ≤ Int64.maxValue.toInt → Bare (s ++ digits) (Float.ofInt n)

/-- The texts of durations, and the lengths that they denote. -/
def Denotes (text : List Char) (x : Float) : Prop :=
  Designated text x ∨ United text x ∨ Bare text x

/-! ## Digits and numbers -/

/-- The digits at the start of a text are all digits. -/
theorem isDigits_spanDigits {text : List Char} (h : (spanDigits text).1 ≠ []) :
    IsDigits (spanDigits text).1 :=
  ⟨h, fun _ hc => List.all_eq_true.1 List.all_takeWhile _ hc⟩

/-- What is read as a number is one. -/
theorem decimal?_sound {text rest : List Char} {x : Float} (h : decimal? text = some (x, rest)) :
    ∃ number, text = number ++ rest ∧ Number number x := by
  have htext := spanDigits_fst_append_snd text
  unfold decimal? at h
  dsimp only at h
  split at h
  · cases h
  rename_i hne
  have hdigits : IsDigits (spanDigits text).1 := isDigits_spanDigits (by simpa using hne)
  split at h
  · rename_i mark rest' hrest
    have htext' := spanDigits_fst_append_snd rest'
    split at h
    · rename_i hpoint
      cases h
      -- The mark is part of the number only with digits behind it.
      refine ⟨_, ?_, .pointed hdigits hpoint.1 (isDigits_spanDigits hpoint.2)⟩
      rw [List.append_assoc, List.cons_append, htext', ← hrest, htext]
    · cases h
      exact ⟨_, htext.symm, .whole hdigits⟩
  · cases h
    exact ⟨_, htext.symm, .whole hdigits⟩

/-- A character that does not prolong a number. -/
def IsStop (c : Char) : Prop := c.isDigit = false ∧ c ≠ '.' ∧ c ≠ ','

instance (c : Char) : Decidable (IsStop c) := inferInstanceAs (Decidable (_ ∧ _ ∧ _))

/-- A number is read to its end. -/
theorem decimal?_append {number rest : List Char} {x : Float} (h : Number number x)
    (hrest : ∀ c ∈ rest.head?, IsStop c) : decimal? (number ++ rest) = some (x, rest) := by
  have hstop : ∀ c ∈ rest.head?, c.isDigit = false := fun c hc => (hrest c hc).1
  unfold decimal?
  cases h with
  | whole hdigits =>
    rw [spanDigits_append hdigits.2 hstop]
    dsimp only
    rw [if_neg (by simpa using hdigits.1)]
    -- What is behind the digits is looked at for a fraction, and has none.
    cases rest with
    | nil => rfl
    | cons c rest =>
      obtain ⟨-, hpoint, hcomma⟩ := hrest c rfl
      dsimp only
      rw [if_neg (by simp [hpoint, hcomma])]
  | @pointed digits fraction mark hdigits hmark hfraction =>
    have hmark' : ∀ c ∈ (mark :: (fraction ++ rest)).head?, c.isDigit = false := by
      rintro c ⟨⟩
      rcases hmark with rfl | rfl <;> rfl
    rw [List.append_assoc, List.cons_append, spanDigits_append hdigits.2 hmark']
    dsimp only
    rw [if_neg (by simpa using hdigits.1), spanDigits_append hfraction.2 hstop]
    dsimp only
    rw [if_pos ⟨hmark, hfraction.1⟩]

/-- A text that starts with a digit. -/
def StartsWithDigit (text : List Char) : Prop := ∃ c rest, text = c :: rest ∧ c.isDigit = true

/-- Digits start with a digit. -/
theorem IsDigits.startsWithDigit {digits : List Char} (h : IsDigits digits) (rest : List Char) :
    StartsWithDigit (digits ++ rest) := by
  obtain ⟨hne, hall⟩ := h
  cases digits with
  | nil => exact absurd rfl hne
  | cons c digits => exact ⟨c, digits ++ rest, rfl, hall c (by simp)⟩

/-- A number starts with a digit. -/
theorem Number.startsWithDigit {number : List Char} {x : Float} (h : Number number x)
    (rest : List Char) : StartsWithDigit (number ++ rest) := by
  cases h with
  | whole h => exact h.startsWithDigit rest
  | pointed h _ _ =>
    rw [List.append_assoc]
    exact h.startsWithDigit _

/-! ## Signs -/

/-- What is read as a sign is one. -/
theorem splitSign_sound (text : List Char) :
    ∃ s negative rest, text = s ++ rest ∧ Sign s negative ∧ splitSign text = (negative, rest) := by
  unfold splitSign
  split
  · exact ⟨['-'], true, _, rfl, .minus, rfl⟩
  · exact ⟨['+'], false, _, rfl, .plus, rfl⟩
  · exact ⟨[], false, _, rfl, .none, rfl⟩

/-- A sign is read to its end, where no other is behind it. -/
theorem splitSign_append {s rest : List Char} {negative : Bool} (h : Sign s negative)
    (hrest : ∀ c ∈ rest.head?, c ≠ '-' ∧ c ≠ '+') : splitSign (s ++ rest) = (negative, rest) := by
  cases h with
  | none =>
    refine splitSign.eq_3 rest (fun rest' heq => ?_) (fun rest' heq => ?_)
    · exact (hrest '-' (by rw [heq]; rfl)).1 rfl
    · exact (hrest '+' (by rw [heq]; rfl)).2 rfl
  | plus => rfl
  | minus => rfl

/-- A sign is read to its end in front of a digit. -/
theorem splitSign_append_digit {s rest : List Char} {negative : Bool} (hs : Sign s negative)
    (hrest : StartsWithDigit rest) : splitSign (s ++ rest) = (negative, rest) := by
  obtain ⟨c, rest', rfl, hc⟩ := hrest
  refine splitSign_append hs ?_
  rintro d ⟨⟩
  constructor <;> rintro rfl <;> cases hc

end MetricAlgebra.Duration
