import MetricAlgebra.Proofs.History
import MetricAlgebra.Proofs.RoundTrip

/-!
# The JSON text of a recorded point

A store keeps the value of a sample as it is, and gives it back as a recorded point. A sample has
words for the values that no digits write, and comes back from its text with any of these. A point
has none: it comes back if its value is finite and the digits of the value are read as the value,
and the text of a point of any other value has `null` for it, which is not read
(`Point.comes_back_by_digits`).
-/

namespace MetricAlgebra

open Json

/-- What has been recorded at an instant is what is found there. -/
theorem Store.lookup_record_self (store : Store) (labels : LabelSet) (p : Point) :
    (store.record labels p.timestamp p.value).lookup ⟨labels, p.timestamp⟩ = some p := by
  have hrising := store.rising_pointsOf labels
  have hput := (Search.rising_put hrising p).sublist
    (List.filter_sublist (p := fun q : Point => decide (q.timestamp ≤ p.timestamp)))
  -- The point is among the ones up to its own instant, and none of these is later.
  rw [lookup_eq_getLast?, pointsOf_record, if_pos rfl, hput.getLast?_eq_some_iff]
  constructor
  · exact List.mem_filter.2 ⟨(Search.mem_put hrising).2 (.inl rfl), by simp⟩
  · intro q hq
    obtain ⟨-, hle⟩ := List.mem_filter.1 hq
    exact Ordering.isLE_iff_ne_gt.1 (Std.isLE_compare.2 (by simpa using hle))

/-- A sample comes back from its text, its value by its digits if it is finite. -/
theorem Sample.read_write {T : JsonCodec} {numeral : Float → Float} (hT : T.Spec numeral)
    (s : Sample) : (T.read? (T.write s.toJson)).bind ofJson? =
      if s.value.isFinite then (real (numeral s.value)).toFloat?.map s.withValue else some s := by
  rw [hT.read?_write _ s.hasForm_toJson.sayable, Option.bind_some]
  by_cases hfinite : s.value.isFinite = true
  · have hnan : ¬ s.value.isNaN = true := by
      intro hnan
      rw [eq_nan hnan] at hfinite
      exact absurd hfinite (by decide +kernel)
    have hrecord : toRecord? ["timestamp", "value", "labels"] (.ofFields
        [("timestamp", .integer s.timestamp.toInt), ("value", real (numeral s.value)),
          ("labels", s.labels.toJson)]) = some ⟨true, _⟩ :=
      toRecord?_ofFields (by simp) rfl
    have hmap : s.toJson.mapReals numeral = .ofFields
        [("timestamp", .integer s.timestamp.toInt), ("value", real (numeral s.value)),
          ("labels", s.labels.toJson)] := by
      have hvalue : valueToJson s.value = real s.value := by
        rw [valueToJson, if_neg hnan, if_pos hfinite]
      simp [toJson, hvalue, mapReals, s.labels.hasForm_toJson.mapReals_eq numeral]
    rw [if_pos hfinite, hmap]
    unfold ofJson?
    rw [hrecord]
    simp [Record.required, List.lookup, toInt64?_integer, valueOfJson?,
      s.labels.hasForm_toJson.ofJson?_eq, Option.map_eq_bind, Function.comp_def, withValue]
  · rw [if_neg hfinite, s.hasForm_toJson.mapReals_eq fun h => absurd h hfinite,
      s.hasForm_toJson.ofJson?_eq]

namespace Point

/-- JSON can say a point, whatever its value is. -/
theorem sayable_toJson (p : Point) : Sayable p.toJson := by
  refine .object ?_
  simp only [List.forall_mem_cons, List.not_mem_nil, false_imp_iff, implies_true, and_true]
  refine ⟨sayable_int64 _, ?_⟩
  split_ifs with hfinite
  · exact .real hfinite
  · exact .null

/-- A point whose value is not finite is written without it. -/
theorem toJson_of_not_finite {p : Point} (h : ¬ p.value.isFinite = true) :
    p.toJson = .ofFields [("timestamp", .integer p.timestamp.toInt), ("value", .null)] := by
  rw [toJson, if_neg h]

/-- A point is read from its instant and a value that is a number. -/
theorem ofJson?_ofFields (timestamp : Timestamp) (value : Json) :
    ofJson? (.ofFields [("timestamp", .integer timestamp.toInt), ("value", value)]) =
      value.toFloat?.map fun x => ⟨timestamp, x⟩ := by
  have hrecord : toRecord? ["timestamp", "value"] (.ofFields
      [("timestamp", .integer timestamp.toInt), ("value", value)]) = some ⟨true, _⟩ :=
    toRecord?_ofFields (by simp) rfl
  unfold ofJson?
  rw [hrecord]
  simp [Record.required, List.lookup, toInt64?_integer, Option.map_eq_bind]

/-- A point comes back from its text by the digits of its value if it is finite, and not at all if
it is not. -/
theorem read_write {T : JsonCodec} {numeral : Float → Float} (hT : T.Spec numeral) (p : Point) :
    (T.read? (T.write p.toJson)).bind ofJson? =
      if p.value.isFinite then (real (numeral p.value)).toFloat?.map fun x => ⟨p.timestamp, x⟩
      else none := by
  rw [hT.read?_write _ p.sayable_toJson, Option.bind_some]
  by_cases hfinite : p.value.isFinite = true
  · rw [if_pos hfinite, toJson, if_pos hfinite, mapReals_ofFields]
    exact ofJson?_ofFields p.timestamp (real (numeral p.value))
  · rw [if_neg hfinite, toJson_of_not_finite hfinite, mapReals_ofFields]
    exact ofJson?_ofFields p.timestamp .null

/-- Any point gets into any store by the recording of a sample with its instant and value, and comes
out again. If its value is finite, both the sample and the point come back from their texts with the
number that is read of its digits, so that the point comes back as it was exactly if that is the
value. If its value is not finite, the sample comes back as it was, but the point is written with
its instant alone, and refused. -/
theorem comes_back_by_digits {T : JsonCodec} {numeral : Float → Float} (hT : T.Spec numeral)
    (store : Store) (labels : LabelSet) (p : Point) :
    let s : Sample := ⟨labels, p.timestamp, p.value⟩
    let readSample := (T.read? (T.write s.toJson)).bind Sample.ofJson?
    let readPoint := (T.read? (T.write p.toJson)).bind ofJson?
    (store.recordFamily (.ofSamples {} [s])).lookup ⟨labels, p.timestamp⟩ = some p ∧
    (p.value.isFinite = true ∧
        readSample = (real (numeral p.value)).toFloat?.map s.withValue ∧
        readPoint = (real (numeral p.value)).toFloat?.map (fun x => ⟨p.timestamp, x⟩) ∧
        (readPoint = some p ↔ numeral p.value = p.value) ∨
      p.value.isFinite = false ∧ readSample = some s ∧
        p.toJson = .ofFields [("timestamp", .integer p.timestamp.toInt), ("value", .null)] ∧
        readPoint = none) := by
  intro s readSample readPoint
  refine ⟨store.lookup_record_self labels p, ?_⟩
  have hsample : readSample = _ := s.read_write hT
  have hpoint : readPoint = _ := p.read_write hT
  by_cases hfinite : p.value.isFinite = true
  · rw [if_pos hfinite] at hsample hpoint
    -- The instant always comes back, so that all depends on the number.
    refine .inl ⟨hfinite, hsample, hpoint, ?_⟩
    rw [hpoint]
    constructor
    · intro h
      obtain ⟨x, hx, hxp⟩ := Option.map_eq_some_iff.1 h
      unfold toFloat? at hx
      dsimp only at hx
      split at hx
      · rw [Option.some.inj hx, ← hxp]
      · cases hx
    · intro h
      rw [h, toFloat?, if_pos hfinite]
      rfl
  · rw [if_neg hfinite] at hsample hpoint
    exact .inr ⟨Bool.eq_false_iff.2 hfinite, hsample, toJson_of_not_finite hfinite, hpoint⟩

/-- The point of a finite value that is not read back from its digits. -/
theorem comes_back_by_digits_eleventh :
    let p : Point := ⟨1000, 1.0 / 11.0⟩
    let f : Family := .ofSamples {} [⟨.empty, p.timestamp, p.value⟩]
    (Store.empty.recordFamily f).lookup ⟨.empty, p.timestamp⟩ = some p ∧
      (codec.read? (codec.write p.toJson)).bind ofJson? ≠ some p := by
  intro p f
  obtain ⟨hlookup, ⟨-, -, -, hback⟩ | ⟨hfinite, -⟩⟩ :=
    comes_back_by_digits codec_spec .empty .empty p
  · exact ⟨hlookup, fun h => absurd (hback.1 h) (by decide +kernel)⟩
  · exact absurd hfinite (by decide +kernel)

/-- What is not a number gets into a store, and the text of the recorded point is refused. -/
theorem nan_text_refused :
    let p : Point := ⟨1000, 0.0 / 0.0⟩
    let f : Family := .ofSamples {} [⟨.empty, p.timestamp, p.value⟩]
    (Store.empty.recordFamily f).lookup ⟨.empty, p.timestamp⟩ = some p ∧
      codec.write p.toJson = "\x7b\"timestamp\":1000,\"value\":null\x7d" ∧
      (codec.read? (codec.write p.toJson)).bind ofJson? = none := by
  intro p f
  have hfinite : ¬ p.value.isFinite = true := by decide +kernel
  refine ⟨Store.empty.lookup_record_self .empty p, ?_, ?_⟩
  · rw [toJson_of_not_finite hfinite]
    decide +kernel
  · rw [p.read_write codec_spec, if_neg hfinite]

end Point

end MetricAlgebra
