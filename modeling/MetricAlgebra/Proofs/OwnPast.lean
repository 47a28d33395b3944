import MetricAlgebra.Proofs.Binary64
import MetricAlgebra.Proofs.Operator

/-!
# Samples that are their own past

Where a series has no past value, a policy puts the current sample in its place, so that there is no
change to report. Two ways lead there. A rate over no time is zero by rule, whatever the value. An
increase is the value less itself, which is zero if the value is finite, but not a number if it is
infinite or none itself (`Binary64.difference_self`). These are the only increases under the policy
that report something else than zero where a past value is missing
(`Family.RateOp.run_currentSample`).
-/

namespace MetricAlgebra

namespace Binary64

open Float.Model Float.Model.UnpackedFloat

/-- A value less itself is zero if it is finite, and not a number otherwise. -/
theorem difference_self (x : Float) : x - x = if x.isFinite then 0.0 else 0.0 / 0.0 := by
  have hnan : (0.0 / 0.0 : Float) = .ofModel (.pack .notANumber) := by decide +kernel
  rw [hnan, zero_eq]
  show Float.ofModel (.pack (UnpackedFloat.sub .binary64 x.toModel.unpack x.toModel.unpack)) =
    if x.toModel.unpack.isFinite then _ else _
  cases x.toModel.unpack with
  | notANumber => rfl
  | infinity s => cases s <;> rfl
  | zero s => cases s <;> rfl
  | finite s m e hm =>
    show Float.ofModel (.pack (UnpackedFloat.normalize _ (s.apply _ - s.apply _) _ _)) = _
    rw [sub_self]
    rfl

end Binary64

namespace Family.RateOp

/-- Whether an operator gives changes per second. -/
def isRate : RateOp → Bool
  | increase _ => false
  | rate _ => true
  | instantRate => true

/-- The value that an operator gives a sample against itself. -/
theorem value_itself (op : RateOp) (s : Sample) :
    op.value s ⟨s.timestamp, s.value⟩ =
      if op.isRate || s.value.isFinite then 0.0 else 0.0 / 0.0 := by
  -- No time has passed, which is less than a second.
  have htime : (s.timestamp - s.timestamp).toInt < 1000 := by
    rw [Int64.sub_self]
    decide
  cases op with
  | increase range => exact Binary64.difference_self s.value
  | rate range => exact if_pos htime
  | instantRate => exact if_pos htime

/-- Whether a sample is what an operator makes of a sample and the answer for it, where the sample
stands in for an answer that there is not. -/
structure OwnPast (op : RateOp) (asked : Sample × Option Point) (made : Sample) : Prop where
  /-- The labels stay. -/
  labels_eq : made.labels = asked.1.labels
  /-- The instant stays. -/
  timestamp_eq : made.timestamp = asked.1.timestamp
  /-- An answer is what the sample is measured against. -/
  value_of_some : ∀ past, asked.2 = some past → made.value = op.value asked.1 past
  /-- Without one, a rate is zero, and so is an increase of a finite value. -/
  unchanged : asked.2 = none → op.isRate = true ∨ asked.1.value.isFinite = true →
    made.value = 0.0
  /-- Without one, an increase of another value is not a number. -/
  undefined : asked.2 = none → op.isRate = false → asked.1.value.isFinite = false →
    made.value.isNaN = true

/-- The sample with its value measured against the answer, or against itself if there is none. -/
def withOwnPast (op : RateOp) (asked : Sample × Option Point) : Sample :=
  asked.1.withValue (op.value asked.1 (asked.2.getD ⟨asked.1.timestamp, asked.1.value⟩))

/-- Under the policy of the current sample, every sample is measured, against the answer or against
itself. -/
theorem changed?_currentSample (op : RateOp) (window : Int64) (asked : Sample × Option Point) :
    changed? .currentSample window op.measure asked.1 asked.2 = some (op.withOwnPast asked) := by
  obtain ⟨s, answer⟩ := asked
  rw [measure_eq_value]
  cases answer <;> rfl

/-- The sample measured against the answer or itself is as it has to be. -/
theorem ownPast_withOwnPast (op : RateOp) (asked : Sample × Option Point) :
    op.OwnPast asked (op.withOwnPast asked) := by
  obtain ⟨s, answer⟩ := asked
  constructor
  case labels_eq => rfl
  case timestamp_eq => rfl
  case value_of_some =>
    rintro past rfl
    rfl
  case unchanged =>
    rintro rfl hzero
    show op.value s ⟨s.timestamp, s.value⟩ = 0.0
    rw [value_itself, if_pos (by simpa using hzero)]
  case undefined =>
    rintro rfl hincrease hvalue
    show (op.value s ⟨s.timestamp, s.value⟩).isNaN = true
    dsimp only at hvalue
    rw [value_itself, hincrease, hvalue, Bool.or_false, if_neg Bool.false_ne_true]
    decide +kernel

/-- Under the policy of the current sample, an operator with an accepted range gives a sample for
each one that it is given, in order and under the same context, if the resolver answers all queries.
A sample for which there is no past value has the value zero, except that an increase of what is
infinite or not a number is not a number. -/
theorem run_currentSample {op : RateOp} {window : Int64} (hwindow : op.Accepts window) (f : Family)
    (answer : List Query → Except Error (List (Option Point))) {answers : List (Option Point)}
    (hanswer : answer (f.samples.map (query window)) = .ok answers)
    (hlength : answers.length = f.samples.length) (log : List (List Query)) :
    ∃ g, ((op.run f .currentSample (.recorded answer)).run.run log).1 = .ok g ∧
      g.context? = f.context? ∧ List.Forall₂ op.OwnPast (f.samples.zip answers) g.samples := by
  rw [run_of_accepts hwindow]
  cases f with
  | empty => exact ⟨empty, rfl, rfl, .nil⟩
  | populated batch =>
    change answer (batch.samples.map (query window)) = .ok answers at hanswer
    change answers.length = batch.samples.length at hlength
    let made := (batch.samples.zip answers).map op.withOwnPast
    have hmade : ((batch.samples.zip answers).filterMap fun asked =>
        changed? .currentSample window op.measure asked.1 asked.2) = made :=
      (List.filterMap_congr fun asked _ => op.changed?_currentSample window asked).trans
        (congrFun List.filterMap_eq_map _)
    have hne : made ≠ [] := by
      rw [← List.length_pos_iff, List.length_map, List.length_zip, hlength, min_self]
      exact List.length_pos_iff.2 batch.nonempty
    refine ⟨ofSamples batch.context made, ?_, context?_ofSamples hne, ?_⟩
    · rw [overWindow_recorded, hanswer]
      exact (if_pos hlength).trans (congrArg (Except.ok ∘ ofSamples batch.context) hmade)
    · rw [samples_ofSamples, List.forall₂_map_right_iff]
      exact List.forall₂_same.2 fun asked _ => op.ownPast_withOwnPast asked

/-- Of three increases over a minute, one is measured against the past, one is that of a finite
value without a past, and one that of an infinite value without a past. -/
theorem run_currentSample_minute :
    let samples : List Sample :=
      [⟨.empty, 100000, 19.0⟩, ⟨.empty, 200000, 5.0⟩, ⟨.empty, 300000, 1.0 / 0.0⟩]
    let answers : List (Option Point) := [some ⟨40000, 1.0⟩, none, none]
    (increase "1m").Accepts 60000 ∧
      ∃ g first second third,
        (((increase "1m").run (ofSamples {} samples) .currentSample
          (.recorded fun _ => .ok answers)).run.run []).1 = .ok g ∧
        g.samples = [first, second, third] ∧
        first.value = 18.0 ∧ second.value = 0.0 ∧ third.value.isNaN = true := by
  intro samples answers
  have haccepts : (increase "1m").Accepts 60000 := ⟨rfl, by decide⟩
  have hchange : (increase "1m").value ⟨.empty, 100000, 19.0⟩ ⟨40000, 1.0⟩ = 18.0 := by
    decide +kernel
  have hinfinite : (1.0 / 0.0 : Float).isFinite = false := by decide +kernel
  have hfinite : (5.0 : Float).isFinite = true := by decide +kernel
  obtain ⟨g, hg, -, hall⟩ := run_currentSample haccepts (ofSamples {} samples)
    (fun _ => .ok answers) rfl (by rw [samples_ofSamples]; rfl) []
  rw [samples_ofSamples] at hall
  generalize hmade : g.samples = made at hall
  obtain _ | ⟨hfirst, _ | ⟨hsecond, _ | ⟨hthird, ⟨⟩⟩⟩⟩ := hall
  have hvalue := hfirst.value_of_some _ rfl
  have hzero := hsecond.unchanged rfl (.inr hfinite)
  have hnan := hthird.undefined rfl rfl hinfinite
  exact ⟨haccepts, g, _, _, _, hg, hmade, hvalue.trans hchange, hzero, hnan⟩

/-- An increase of an infinite value without a past is not zero: it is not a number. A rate is. -/
theorem run_currentSample_infinite :
    let f := ofSamples {} [⟨.empty, 100000, 1.0 / 0.0⟩]
    let missing : Resolver (StateM (List (List Query))) := .recorded fun _ => .ok [none]
    (increase "1m").Accepts 60000 ∧
      (((increase "1m").run f .currentSample missing).run.run []).1 =
        .ok (ofSamples {} [⟨.empty, 100000, 0.0 / 0.0⟩]) ∧
      (((rate "1m").run f .currentSample missing).run.run []).1 =
        .ok (ofSamples {} [⟨.empty, 100000, 0.0⟩]) ∧
      ((0.0 / 0.0 : Float) == 0.0) = false := by
  intro f missing
  have hincrease : (increase "1m").Accepts 60000 := ⟨rfl, by decide⟩
  have hrate : (rate "1m").Accepts 60000 := ⟨rfl, by decide⟩
  have hnan : (increase "1m").withOwnPast (⟨.empty, 100000, 1.0 / 0.0⟩, none) =
      ⟨.empty, 100000, 0.0 / 0.0⟩ := by decide +kernel
  have hzero : (rate "1m").withOwnPast (⟨.empty, 100000, 1.0 / 0.0⟩, none) =
      ⟨.empty, 100000, 0.0⟩ := by decide +kernel
  refine ⟨hincrease, ?_, ?_, by decide +kernel⟩
  · rw [run_of_accepts hincrease, ← hnan]
    rfl
  · rw [run_of_accepts hrate, ← hzero]
    rfl

end Family.RateOp

end MetricAlgebra
