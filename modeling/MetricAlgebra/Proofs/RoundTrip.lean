import MetricAlgebra.Form.Family
import MetricAlgebra.Proofs.FiniteMap
import MetricAlgebra.Proofs.JsonText

/-!
# Families come back from their JSON texts

A family is written as JSON, with the labels of each sample in the order in which a map gives them.
Whatever that order is, and whatever the family holds, the text is read as the same family by any
codec that keeps its promise, if it reads the finite values of the family back from their digits
(`Family.json_round_trip`).

Each level of the format has three lemmas: its forms are values that JSON can say (`sayable`), they
come back from their texts (`mapReals_eq`), and they are read as what they are the forms of
(`ofJson?_eq`). The levels are label sets, values, samples, contexts, batches and families.
-/

namespace MetricAlgebra

open Json

/-! ## Records -/

namespace Json

/-- The fields of an object whose names are not broken. -/
theorem toFields?_ofFields (fields : List (String × Json)) :
    (ofFields fields).toFields? = some fields := by
  show (fields.map _).mapM _ = some fields
  induction fields with
  | nil => rfl
  | cons field fields ih =>
    rw [List.map_cons, List.mapM_cons, ih]
    rfl

/-- An object of exactly the fields of a record is the record. -/
theorem toRecord?_ofFields {names : List String} (hnames : names.Nodup)
    {fields : List (String × Json)} (h : fields.map Prod.fst = names) :
    (ofFields fields).toRecord? names = some ⟨true, fields⟩ := by
  have hknown : fields.filter (fun field => names.contains field.1) = fields := by
    refine List.filter_eq_self.2 fun field hfield => ?_
    rw [List.contains_iff_mem, ← h]
    exact List.mem_map_of_mem hfield
  have htoFields := toFields?_ofFields fields
  unfold ofFields at htoFields ⊢
  rw [toRecord?_object, htoFields, Option.bind_some, hknown, h, if_pos hnames]

/-- An object of texts by their names. -/
def ofTexts (texts : List (String × String)) : Json :=
  ofFields (texts.map fun (name, text) => (name, ofString text))

/-- JSON can say an object of texts. -/
theorem sayable_ofTexts (texts : List (String × String)) : Sayable (ofTexts texts) := by
  refine .object fun field hfield => ?_
  obtain ⟨entry, -, rfl⟩ := List.mem_map.1 hfield
  exact .string entry.2

/-- An object of texts has no numbers. -/
@[simp] theorem mapReals_ofTexts (g : Float → Float) (texts : List (String × String)) :
    (ofTexts texts).mapReals g = ofTexts texts := by
  simp [ofTexts, Function.comp_def]

/-- JSON can say a signed number of 64 bits. -/
theorem sayable_int64 (n : Int64) : Sayable (integer n.toInt) := by
  refine .integer n.minValue_le_toInt ?_
  have hlt := n.toInt_lt
  show n.toInt < 2 ^ 64
  omega

/-- JSON can say a signed number of 32 bits. -/
theorem sayable_int32 (n : Int32) : Sayable (integer n.toInt) := by
  have hlow := n.le_toInt
  have hhigh := n.toInt_lt
  refine .integer ?_ ?_
  · show -2 ^ 63 ≤ n.toInt
    omega
  · show n.toInt < 2 ^ 64
    omega

/-- A signed number of 64 bits is read as itself. -/
theorem toInt64?_integer (n : Int64) : (integer n.toInt).toInt64? = some n := by
  show (if _ then some (Int64.ofInt n.toInt) else none) = _
  rw [if_pos ⟨n.minValue_le_toInt, n.toInt_le⟩, Int64.ofInt_toInt]

/-- A signed number of 32 bits is read as itself. -/
theorem toInt32?_integer (n : Int32) : (integer n.toInt).toInt32? = some n := by
  show (if _ then some (Int32.ofInt n.toInt) else none) = _
  rw [if_pos ⟨n.minValue_le_toInt, n.toInt_le⟩, Int32.ofInt_toInt]

/-- The forms of the members of a list are read as the list. -/
theorem mapM_eq_of_forall₂ {α : Type} {decode : Json → Option α} {xs : List α} {js : List Json}
    (h : List.Forall₂ (fun x j => decode j = some x) xs js) : js.mapM decode = some xs := by
  induction h with
  | nil => rfl
  | cons hhead _ ih =>
    rw [List.mapM_cons, hhead, ih]
    rfl

/-- JSON can say the forms of the members of a list. -/
theorem sayable_of_forall₂ {α : Type} {R : α → Json → Prop} (hR : ∀ x j, R x j → Sayable j)
    {xs : List α} {js : List Json} (h : List.Forall₂ R xs js) : ∀ j ∈ js, Sayable j := by
  induction h with
  | nil => exact List.forall_mem_nil _
  | cons hhead _ ih => exact List.forall_mem_cons.2 ⟨hR _ _ hhead, ih⟩

/-- The forms of the members of a list have the numbers that they should have. -/
theorem map_mapReals_of_forall₂ {α : Type} {R : α → Json → Prop} {g : Float → Float} {xs : List α}
    (hR : ∀ x ∈ xs, ∀ j, R x j → j.mapReals g = j) {js : List Json} (h : List.Forall₂ R xs js) :
    js.map (mapReals g) = js := by
  induction h with
  | nil => rfl
  | cons hhead _ ih =>
    rw [List.forall_mem_cons] at hR
    rw [List.map_cons, hR.1 _ hhead, ih hR.2]

end Json

/-! ## Label sets -/

namespace LabelMap

/-- A pair with a new name is put behind the others. -/
theorem entries_insert {m : LabelMap} {name : String} (value : String)
    (h : name ∉ m.entries.map Prod.fst) :
    (m.insert name value).entries = m.entries ++ [(name, value)] := by
  show putEntry name value m.entries = _
  generalize m.entries = entries at h
  induction entries with
  | nil => rfl
  | cons entry entries ih =>
    rw [List.map_cons, List.mem_cons, not_or] at h
    rw [putEntry, if_neg (Ne.symm h.1), ih h.2, List.cons_append]

/-- Pairs with distinct names are the entries of their map. -/
theorem entries_ofPairs {pairs : List (String × String)} (h : (pairs.map Prod.fst).Nodup) :
    (ofPairs pairs).entries = pairs := by
  have hfold (m : LabelMap) (hm : (m.entries.map Prod.fst ++ pairs.map Prod.fst).Nodup) :
      (pairs.foldl (fun m pair => m.insert pair.1 pair.2) m).entries = m.entries ++ pairs := by
    clear h
    induction pairs generalizing m with
    | nil => exact (List.append_nil _).symm
    | cons pair pairs ih =>
      have hnew : pair.1 ∉ m.entries.map Prod.fst := fun hmem =>
        (List.nodup_append.1 hm).2.2 _ hmem _ (List.mem_cons_self ..) rfl
      have hentries := entries_insert pair.2 hnew
      rw [List.foldl_cons, ih, hentries, List.append_assoc, List.singleton_append]
      rw [hentries, List.map_append, List.append_assoc]
      exact hm
  exact hfold empty h

end LabelMap

namespace LabelSet

/-- The forms of a set: its names and values, in any order that a map can give them in. -/
def HasForm (s : LabelSet) (j : Json) : Prop :=
  ∃ m : LabelMap, m.entries.Perm s.toMap.entries ∧
    j = .ofFields (m.entries.map fun (name, value) => (name, .ofString value))

/-- The names and values in order of names are a form. -/
theorem hasForm_toJson (s : LabelSet) : s.HasForm s.toJson :=
  ⟨s.toMap, List.Perm.refl _, rfl⟩

/-- JSON can say a set. -/
theorem HasForm.sayable {s : LabelSet} {j : Json} (h : s.HasForm j) : Sayable j := by
  obtain ⟨m, -, rfl⟩ := h
  exact sayable_ofTexts _

/-- A form of a set has no numbers. -/
theorem HasForm.mapReals_eq {s : LabelSet} {j : Json} (h : s.HasForm j) (g : Float → Float) :
    j.mapReals g = j := by
  obtain ⟨m, -, rfl⟩ := h
  exact mapReals_ofTexts g _

/-- A form of a set is read as the set. -/
theorem HasForm.ofJson?_eq {s : LabelSet} {j : Json} (h : s.HasForm j) : ofJson? j = some s := by
  obtain ⟨m, hperm, rfl⟩ := h
  have hpairs : (m.entries.map fun entry => (entry.1, Json.ofString entry.2)).mapM
      (fun field => field.2.toString?.map fun value => (field.1, value)) = some m.entries := by
    generalize m.entries = entries
    induction entries with
    | nil => rfl
    | cons entry entries ih =>
      rw [List.map_cons, List.mapM_cons, ih]
      rfl
  have hmap : ofMap (.ofPairs m.entries) = s :=
    ofMap_eq_of_perm (by rwa [LabelMap.entries_ofPairs m.distinct])
  unfold ofJson?
  rw [toFields?_ofFields]
  show Option.bind (List.mapM _ _) _ = _
  rw [hpairs]
  exact congrArg some hmap

end LabelSet

/-! ## Samples -/

namespace Sample

/-- What is not a number is one value. -/
theorem eq_nan {x : Float} (h : x.isNaN = true) : x = 0.0 / 0.0 := by
  have hnan : (0.0 / 0.0 : Float) = .ofModel (.pack .notANumber) := by decide +kernel
  have hself := Decimal.ofModel_pack_unpack x
  change x.toModel.unpack.isNaN = true at h
  cases hx : x.toModel.unpack with
  | notANumber => rw [hnan, ← hself, hx]
  | infinity s => rw [hx] at h; cases h
  | zero s => rw [hx] at h; cases h
  | finite s m e hm => rw [hx] at h; cases h

/-- A number that is not finite is one of two infinite values. -/
theorem eq_infinity {x : Float} (hnan : ¬ x.isNaN = true) (hfinite : ¬ x.isFinite = true) :
    x = 1.0 / 0.0 ∧ 0.0 < x ∨ x = -1.0 / 0.0 ∧ ¬ 0.0 < x := by
  have hpositive : (1.0 / 0.0 : Float) = .ofModel (.pack (.infinity .positive)) := by
    decide +kernel
  have hnegative : (-1.0 / 0.0 : Float) = .ofModel (.pack (.infinity .negative)) := by
    decide +kernel
  have hself := Decimal.ofModel_pack_unpack x
  change ¬ x.toModel.unpack.isNaN = true at hnan
  change ¬ x.toModel.unpack.isFinite = true at hfinite
  cases hx : x.toModel.unpack with
  | notANumber => exact absurd (by rw [hx]; rfl) hnan
  | infinity s =>
    rw [hx] at hself
    cases s with
    | positive => exact .inl ⟨by rw [hpositive, hself], by rw [← hself]; decide +kernel⟩
    | negative => exact .inr ⟨by rw [hnegative, hself], by rw [← hself]; decide +kernel⟩
  | zero s => exact absurd (by rw [hx]; rfl) hfinite
  | finite s m e hm => exact absurd (by rw [hx]; rfl) hfinite

/-- JSON can say a value. -/
theorem sayable_valueToJson (x : Float) : Sayable (valueToJson x) := by
  unfold valueToJson
  split_ifs with hnan hfinite hpositive
  · exact .string _
  · exact .real hfinite
  · exact .string _
  · exact .string _

/-- A value that is not finite is written as a word. -/
theorem mapReals_valueToJson {x : Float} {g : Float → Float} (h : x.isFinite = true → g x = x) :
    (valueToJson x).mapReals g = valueToJson x := by
  unfold valueToJson
  split_ifs with hnan hfinite hpositive
  · exact mapReals_ofString _
  · rw [mapReals, h hfinite]
  · exact mapReals_ofString _
  · exact mapReals_ofString _

/-- What a value is written as is read as the value. -/
theorem valueOfJson?_valueToJson (x : Float) : valueOfJson? (valueToJson x) = some x := by
  unfold valueToJson
  split_ifs with hnan hfinite hpositive
  · rw [eq_nan hnan]
    rfl
  · show (Json.real x).toFloat? = some x
    exact if_pos hfinite
  · obtain ⟨rfl, -⟩ | ⟨-, h⟩ := eq_infinity hnan hfinite
    · rfl
    · exact absurd hpositive h
  · obtain ⟨-, h⟩ | ⟨rfl, -⟩ := eq_infinity hnan hfinite
    · exact absurd h hpositive
    · rfl

/-- The forms of a sample, with its labels in any order. -/
def HasForm (s : Sample) (j : Json) : Prop :=
  ∃ labels, s.labels.HasForm labels ∧
    j = .ofFields [("timestamp", .integer s.timestamp.toInt), ("value", valueToJson s.value),
      ("labels", labels)]

/-- The labels in order of names are a form. -/
theorem hasForm_toJson (s : Sample) : s.HasForm s.toJson :=
  ⟨_, s.labels.hasForm_toJson, rfl⟩

/-- JSON can say a sample. -/
theorem HasForm.sayable {s : Sample} {j : Json} (h : s.HasForm j) : Sayable j := by
  obtain ⟨labels, hlabels, rfl⟩ := h
  refine .object ?_
  simp only [List.forall_mem_cons, List.not_mem_nil, false_imp_iff, implies_true, and_true]
  exact ⟨sayable_int64 _, sayable_valueToJson _, hlabels.sayable⟩

/-- A form of a sample has no number but the value. -/
theorem HasForm.mapReals_eq {s : Sample} {j : Json} (h : s.HasForm j) {g : Float → Float}
    (hexact : s.value.isFinite = true → g s.value = s.value) : j.mapReals g = j := by
  obtain ⟨labels, hlabels, rfl⟩ := h
  simp [mapReals_valueToJson hexact, hlabels.mapReals_eq g, mapReals]

/-- A form of a sample is read as the sample. -/
theorem HasForm.ofJson?_eq {s : Sample} {j : Json} (h : s.HasForm j) : ofJson? j = some s := by
  obtain ⟨labels, hlabels, rfl⟩ := h
  have hrecord : toRecord? ["timestamp", "value", "labels"] (.ofFields
      [("timestamp", .integer s.timestamp.toInt), ("value", valueToJson s.value),
        ("labels", labels)]) = some ⟨true, _⟩ :=
    toRecord?_ofFields (by simp) rfl
  unfold ofJson?
  rw [hrecord]
  simp [Record.required, List.lookup, toInt64?_integer, valueOfJson?_valueToJson,
    hlabels.ofJson?_eq]

end Sample

/-! ## Contexts -/

namespace Context

/-- JSON can say a context. -/
theorem sayable_toJson (c : Context) : Sayable c.toJson := by
  refine .object ?_
  simp only [List.forall_mem_cons, List.not_mem_nil, false_imp_iff, implies_true, and_true]
  refine ⟨.bool _, ?_, .string _⟩
  cases c.percentiles with
  | none => exact .null
  | some ranks =>
    refine .array fun item hitem => ?_
    obtain ⟨rank, -, rfl⟩ := List.mem_map.1 hitem
    exact sayable_int32 rank

/-- A context has no numbers but integers. -/
theorem mapReals_toJson (c : Context) (g : Float → Float) : c.toJson.mapReals g = c.toJson := by
  have hranks : (percentilesToJson c.percentiles).mapReals g = percentilesToJson c.percentiles := by
    cases c.percentiles with
    | none => rfl
    | some ranks => simp [percentilesToJson, mapReals]
  simp [toJson, hranks, mapReals, Downsampling.toJson]

/-- What a context is written as is read as the context. -/
theorem ofJson?_toJson (c : Context) : ofJson? c.toJson = some c := by
  have hranks (ranks : List Int32) :
      (ranks.map fun rank => Json.integer rank.toInt).mapM toInt32? = some ranks := by
    refine mapM_eq_of_forall₂ (List.forall₂_map_right_iff.2 ?_)
    exact List.forall₂_same.2 fun rank _ => toInt32?_integer rank
  have hkind : Downsampling.ofJson? c.downsampling.toJson = some c.downsampling := by
    cases c.downsampling <;> rfl
  have hrecord : toRecord? ["is_histogram", "percentiles", "downsampling"] c.toJson =
      some ⟨true, _⟩ := toRecord?_ofFields (by simp) rfl
  unfold ofJson?
  rw [hrecord]
  obtain ⟨isHistogram, percentiles, downsampling⟩ := c
  cases percentiles with
  | none => simp [Record.required, Record.nullable, List.lookup, toBool?, percentilesToJson, hkind]
  | some ranks =>
    simp [Record.required, Record.nullable, List.lookup, toBool?, percentilesToJson, toList?, hkind,
      hranks]

end Context

/-! ## Batches and families -/

namespace Batch

/-- The forms of a batch, with the labels of each sample in any order. -/
def HasForm (b : Batch) (j : Json) : Prop :=
  ∃ samples, List.Forall₂ Sample.HasForm b.samples samples ∧
    j = .ofFields [("samples", .array samples), ("context", b.context.toJson)]

/-- The labels in order of names are a form. -/
theorem hasForm_toJson (b : Batch) : b.HasForm b.toJson := by
  refine ⟨_, List.forall₂_map_right_iff.2 ?_, rfl⟩
  exact List.forall₂_same.2 fun s _ => s.hasForm_toJson

/-- JSON can say a batch. -/
theorem HasForm.sayable {b : Batch} {j : Json} (h : b.HasForm j) : Sayable j := by
  obtain ⟨samples, hsamples, rfl⟩ := h
  refine .object ?_
  simp only [List.forall_mem_cons, List.not_mem_nil, false_imp_iff, implies_true, and_true]
  exact ⟨.array (sayable_of_forall₂ (fun _ _ h => h.sayable) hsamples), b.context.sayable_toJson⟩

/-- A form of a batch has no numbers but the values of the samples. -/
theorem HasForm.mapReals_eq {b : Batch} {j : Json} (h : b.HasForm j) {g : Float → Float}
    (hexact : ∀ s ∈ b.samples, s.value.isFinite = true → g s.value = s.value) :
    j.mapReals g = j := by
  obtain ⟨samples, hsamples, rfl⟩ := h
  have hmap : samples.map (mapReals g) = samples :=
    map_mapReals_of_forall₂ (fun s hs _ hform => hform.mapReals_eq (hexact s hs)) hsamples
  simp [hmap, b.context.mapReals_toJson g]

/-- A form of a batch is read as the batch. -/
theorem HasForm.ofJson?_eq {b : Batch} {j : Json} (h : b.HasForm j) : ofJson? j = some b := by
  obtain ⟨samples, hsamples, rfl⟩ := h
  have hread : samples.mapM Sample.ofJson? = some b.samples :=
    mapM_eq_of_forall₂ (hsamples.imp fun _ _ h => h.ofJson?_eq)
  have hrecord : toRecord? ["samples", "context"] (.ofFields
      [("samples", .array samples), ("context", b.context.toJson)]) = some ⟨true, _⟩ :=
    toRecord?_ofFields (by simp) rfl
  unfold ofJson?
  rw [hrecord]
  simp [Record.required, Record.withDefault, List.lookup, toList?, hread, Context.ofJson?_toJson,
    b.nonempty]

end Batch

namespace Family

/-- The forms of a family, with the labels of each sample in any order. -/
inductive HasForm : Family → Json → Prop
  | empty : HasForm .empty (.ofFields [("kind", .ofString FamilyKind.empty.name)])
  | populated {batch : Batch} {content : Json} : batch.HasForm content →
      HasForm (.populated batch)
        (.ofFields [("kind", .ofString FamilyKind.populated.name), ("family", content)])

/-- The labels in order of names are a form. -/
theorem hasForm_toJson (f : Family) : f.HasForm f.toJson := by
  cases f with
  | empty => exact .empty
  | populated batch => exact .populated batch.hasForm_toJson

/-- JSON can say a family. -/
theorem HasForm.sayable {f : Family} {j : Json} (h : f.HasForm j) : Sayable j := by
  cases h with
  | empty => exact .object (by simpa using .string _)
  | populated hbatch =>
    refine .object ?_
    simp only [List.forall_mem_cons, List.not_mem_nil, false_imp_iff, implies_true, and_true]
    exact ⟨.string _, hbatch.sayable⟩

/-- A form of a family has no numbers but the values of the samples. -/
theorem HasForm.mapReals_eq {f : Family} {j : Json} (h : f.HasForm j) {g : Float → Float}
    (hexact : ∀ s ∈ f.samples, s.value.isFinite = true → g s.value = s.value) :
    j.mapReals g = j := by
  cases h with
  | empty => simp
  | populated hbatch => simp [hbatch.mapReals_eq hexact]

/-- A form of a family is read as the family. -/
theorem HasForm.ofJson?_eq {f : Family} {j : Json} (h : f.HasForm j) : ofJson? j = some f := by
  cases h with
  | empty => rfl
  | @populated batch content hbatch =>
    have hkind : FamilyKind.ofJson? (.ofString FamilyKind.populated.name) = some .populated := rfl
    have hfields := toFields?_ofFields
      [("kind", .ofString FamilyKind.populated.name), ("family", content)]
    unfold ofFields at hfields ⊢
    unfold ofJson?
    dsimp only
    rw [hfields, Option.bind_some]
    simp [hkind, FamilyKind.family?, hbatch.ofJson?_eq]

/-- A family is written in one of its forms. Whatever the family holds, and in whatever order its
labels are written, the text of a form is read as the same family, if the codec reads the finite
values of the family back from their digits. -/
theorem json_round_trip {T : JsonCodec} {numeral : Float → Float} (hT : T.Spec numeral) (f : Family)
    (hexact : ∀ s ∈ f.samples, s.value.isFinite = true → numeral s.value = s.value) :
    f.HasForm f.toJson ∧ ∀ j, f.HasForm j → (T.read? (T.write j)).bind ofJson? = some f := by
  refine ⟨f.hasForm_toJson, fun j h => ?_⟩
  rw [hT.read?_write j h.sayable, Option.bind_some, h.mapReals_eq hexact, h.ofJson?_eq]

/-- A sample that is not a number, with its labels the other way round, a negative zero and a
fraction. -/
theorem json_round_trip_swapped_labels :
    (Json.codec.read? (Json.codec.write (.ofFields [("kind", .ofString "populated"), ("family",
      .ofFields [("samples", .array
        [.ofFields [("timestamp", .integer (-5)), ("value", Sample.valueToJson (0.0 / 0.0)),
          ("labels", .ofFields [("b", .ofString "2"), ("a", .ofString "1")])],
        .ofFields [("timestamp", .integer 7), ("value", Sample.valueToJson (-0.0)),
          ("labels", .ofFields [])],
        .ofFields [("timestamp", .integer 8), ("value", Sample.valueToJson 2.5),
          ("labels", .ofFields [])]]),
      ("context", Context.toJson { percentiles := some [50, 99] })])]))).bind ofJson? =
    some (.populated
      ⟨[⟨⟨[⟨"a", "1"⟩, ⟨"b", "2"⟩], by unfold Search.Rising; decide⟩, -5, 0.0 / 0.0⟩,
        ⟨.empty, 7, -0.0⟩, ⟨.empty, 8, 2.5⟩],
        { percentiles := some [50, 99] }, by simp⟩) := by
  refine (json_round_trip Json.codec_spec _ ?_).2 _ (.populated ⟨_, .cons ⟨_, ⟨⟨[("b", "2"),
    ("a", "1")], ?_⟩, ?_, rfl⟩, rfl⟩ (.cons ⟨_, ⟨.empty, ?_, rfl⟩, rfl⟩
      (.cons ⟨_, ⟨.empty, ?_, rfl⟩, rfl⟩ .nil)), rfl⟩)
  · have hzero : numeral (-0.0) = -0.0 := by decide +kernel
    have hfraction : numeral 2.5 = 2.5 := by decide +kernel
    have hnan : ¬ (0.0 / 0.0 : Float).isFinite = true := by decide +kernel
    simp only [Family.samples, List.forall_mem_cons, List.not_mem_nil, false_imp_iff,
      implies_true, and_true]
    exact ⟨fun h => absurd h hnan, fun _ => hzero, fun _ => hfraction⟩
  · decide
  · exact .swap _ _ _
  · exact .refl _
  · exact .refl _

end Family

end MetricAlgebra
