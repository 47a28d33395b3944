import MetricAlgebra.Error
import MetricAlgebra.Binary64
import MetricAlgebra.Decimal.Literal
import MetricAlgebra.Text.Blank

/-!
# Durations

Texts of durations and their lengths in milliseconds, in three styles: `PT1M30S`, with designators
in a fixed order; `1m30s`, with units in any order; and bare milliseconds.
-/

namespace MetricAlgebra.Duration

open Decimal

/-- Milliseconds in a second, a minute, an hour, a day, a week and a year of 365 days. -/
def second : Float := 1000.0
@[inherit_doc second] def minute : Float := 60.0 * second
@[inherit_doc second] def hour : Float := 60.0 * minute
@[inherit_doc second] def day : Float := 24.0 * hour
@[inherit_doc second] def week : Float := 7.0 * day
@[inherit_doc second] def year : Float := 365.0 * day

/-- Digits with an optional fraction behind a point or comma, and the rest of the text. -/
def decimal? (text : List Char) : Option (Float × List Char) :=
  let (whole, rest) := spanDigits text
  if whole.isEmpty then none
  else match rest with
    | mark :: rest' =>
      let (fraction, rest'') := spanDigits rest'
      if (mark = '.' ∨ mark = ',') ∧ fraction ≠ [] then
        some (pointValue whole fraction, rest'')
      else some (pointValue whole [], rest)
    | [] => some (pointValue whole [], rest)

/-- The factor of a sign. -/
def factor (negative : Bool) : Float := if negative then -1.0 else 1.0

/-- A number before one of the given designators, as milliseconds; nothing is taken from the text
where there is none. -/
def component (designators : List Char) (scale : Float) (text : List Char) :
    Option Float × List Char :=
  match decimal? text with
  | some (x, mark :: rest) =>
    if mark ∈ designators then (some (x * scale), rest) else (none, text)
  | _ => (none, text)

/-- The lengths of the parts of a day, in milliseconds, where they are given. -/
structure DayTime where
  /-- The hours. -/
  hours : Option Float := none
  /-- The minutes. -/
  minutes : Option Float := none
  /-- The seconds. -/
  seconds : Option Float := none

/-- Whether hours, minutes or seconds are given. -/
def DayTime.isGiven (t : DayTime) : Bool := t.hours.isSome || t.minutes.isSome || t.seconds.isSome

/-- The part of hours, minutes and seconds, at least one of them. -/
def dayTime (text : List Char) : Option DayTime × List Char :=
  match text with
  | mark :: rest =>
    if mark = 't' ∨ mark = 'T' then
      let (hours, rest) := component ['h', 'H'] hour rest
      let (minutes, rest) := component ['m', 'M'] minute rest
      let (seconds, rest) := component ['s', 'S'] second rest
      let t : DayTime := ⟨hours, minutes, seconds⟩
      if t.isGiven then (some t, rest) else (none, text)
    else (none, text)
  | [] => (none, text)

/-- The sum of days and the parts of a day, where what is not given counts as zero. -/
def total (days : Option Float) (t : DayTime) : Float :=
  days.getD 0.0 + t.hours.getD 0.0 + t.minutes.getD 0.0 + t.seconds.getD 0.0

/-- A duration with designators, such as `P1DT2H`, at the start of a text. -/
def designated? (text : List Char) : Option (Float × List Char) :=
  let (negative, rest) := splitSign text
  match rest with
  | mark :: rest =>
    if mark = 'p' ∨ mark = 'P' then
      let (days, rest) := component ['d', 'D'] day rest
      let (time, rest) := dayTime rest
      if days.isSome || time.isSome then some (factor negative * total days (time.getD {}), rest)
      else none
    else none
  | [] => none

/-- The unit at the start of a text, as milliseconds. -/
def unit? : List Char → Option (Float × List Char)
  | 'm' :: 's' :: rest => some (1.0, rest)
  | 's' :: rest => some (second, rest)
  | 'm' :: rest => some (minute, rest)
  | 'h' :: rest => some (hour, rest)
  | 'd' :: rest => some (day, rest)
  | 'w' :: rest => some (week, rest)
  | 'y' :: rest => some (year, rest)
  | _ => none

/-- A number with a unit at the start of a text, as milliseconds. -/
def term? (text : List Char) : Option (Float × List Char) := do
  let (x, rest) ← decimal? text
  let (scale, rest) ← unit? rest
  some (x * scale, rest)

/-- As many numbers with units as there are, as milliseconds, and the rest of the text. At most
`limit` of them are read; a text has no more than characters. -/
def terms : Nat → List Char → List Float × List Char
  | 0, text => ([], text)
  | limit + 1, text =>
    match term? text with
    | some (length, rest) =>
      let (lengths, rest) := terms limit rest
      (length :: lengths, rest)
    | none => ([], text)

/-- A duration with units, such as `1m30s`, at the start of a text. -/
def united? (text : List Char) : Option (Float × List Char) :=
  let (negative, rest) := splitSign text
  match terms rest.length rest with
  | ([], _) => none
  | (lengths, rest) => some (factor negative * lengths.foldl (· + ·) 0.0, rest)

/-- Digits with an optional sign, of a number that fits 64 bits, at the start of a text. -/
def bare? (text : List Char) : Option (Float × List Char) :=
  let (negative, rest) := splitSign text
  let (digits, rest) := spanDigits rest
  let n := signed negative (natValue digits)
  if digits.isEmpty then none
  else if Int64.minValue.toInt ≤ n ∧ n ≤ Int64.maxValue.toInt then some (Float.ofInt n, rest)
  else none

/-- The length that a text without white space around it denotes. The first style that fits the
start of the text has to fit all of it. -/
def length? (text : List Char) : Option Float :=
  match (designated? text <|> united? text <|> bare? text) with
  | some (length, []) => if length.isFinite then some length else none
  | _ => none

/-- Reads a duration as whole milliseconds, rounded away from zero at a half and saturated. -/
def read (text : String) : Except Error Int64 :=
  match length? (Text.trimChars text.toList) with
  | some length => .ok (Binary64.round length)
  | none => .error (.invalidDuration text)

/-- Reads a range, which is a positive duration. -/
def readRange (text : String) : Except Error Int64 := do
  let millis ← read text
  if millis.toInt ≤ 0 then .error (.nonPositiveDuration text) else .ok millis

/-- A range is read like a duration, and has to be positive. -/
theorem readRange_eq {text : String} {millis : Int64} (h : read text = .ok millis) :
    readRange text =
      if millis.toInt ≤ 0 then .error (.nonPositiveDuration text) else .ok millis := by
  unfold readRange
  rw [h]
  rfl

/-- What is not read as a duration is not read as a range. -/
theorem readRange_eq_error {text : String} {e : Error} (h : read text = .error e) :
    readRange text = .error e := by
  unfold readRange
  rw [h]
  rfl

end MetricAlgebra.Duration
