import MetricAlgebra.Form.LabelEdit
import MetricAlgebra.Form.Settings
import MetricAlgebra.Proofs.RoundTrip

/-!
# Configuration comes back from its JSON text

A list of edits is written as a list of objects, each with the name of its action in front. Of
such an object, all but the action is put aside, and then read as the record that the action calls
for (`LabelEdit.ofJson?_fieldsOf`). Settings are written with every field, and checked when they are
read.

Edits come back from their text, and so do settings if they are valid; other settings are refused
for the fault that their own check finds (`configuration_round_trip`).
-/

namespace MetricAlgebra

open Json

variable {T : JsonCodec} {numeral : Float → Float}

/-! ## Objects of texts -/

namespace Json

/-- The fields of an object of texts are put aside as they are. -/
theorem putFieldsAside?_texts (depth : Nat) (texts : List (String × String)) :
    putFieldsAside? depth (texts.map fun entry => (some entry.1, ofString entry.2)) =
      some (texts.map fun entry => (some entry.1, ofString entry.2)) := by
  induction texts with
  | nil => rw [List.map_nil, putFieldsAside?]
  | cons entry texts ih =>
    have htext : putAside? depth (ofString entry.2) = some (ofString entry.2) := by
      rw [ofString, putAside?]
      rfl
    rw [List.map_cons, putFieldsAside?, htext, Option.bind_some, ih, Option.map_some]

/-- An object of texts is put aside as it is. -/
theorem putAside?_ofTexts (depth : Nat) (texts : List (String × String)) :
    putAside? (depth + 1) (ofTexts texts) = some (ofTexts texts) := by
  have hobject : ofTexts texts =
      object (texts.map fun entry => (some entry.1, ofString entry.2)) := by
    unfold ofTexts ofFields
    rw [List.map_map]
    rfl
  rw [hobject, putAside?, putFieldsAside?_texts, Option.map_some]
  -- A text is no empty object, so that an only field stays as it is too.
  obtain _ | ⟨entry, _ | ⟨next, texts⟩⟩ := texts <;> rfl

/-- An object of texts is a record of the fields that it has. -/
theorem toRecord?_ofTexts {names : List String} {texts : List (String × String)}
    (h : texts.map Prod.fst = names) (hnames : names.Nodup) :
    (ofTexts texts).toRecord? names =
      some ⟨true, texts.map fun (name, text) => (name, ofString text)⟩ := by
  refine toRecord?_ofFields hnames ?_
  rw [List.map_map]
  exact h

/-- An unsigned number of 64 bits is read as itself. -/
theorem toUInt64?_integer (n : UInt64) : (integer n.toNat).toUInt64? = some n := by
  have hlt : (n.toNat : Int) < UInt64.size := Int.ofNat_lt.2 n.toNat_lt_size
  rw [toUInt64?, if_pos ⟨Int.natCast_nonneg _, hlt⟩, Int.toNat_natCast, UInt64.ofNat_toNat]

/-- A field that is there is read, whatever its default. -/
theorem Record.withDefault_eq_some {α : Type} {r : Record} {name : String} {j : Json}
    {decode : Json → Option α} {a default : α} (hlookup : r.fields.lookup name = some j)
    (hread : decode j = some a) : r.withDefault name decode default = some a := by
  rw [withDefault, hlookup]
  exact hread

end Json

/-! ## Edits -/

namespace LabelEdit

/-- JSON can say an edit. -/
theorem sayable_toJson (edit : LabelEdit) : Sayable edit.toJson := by
  cases edit <;> exact sayable_ofTexts _

/-- An object with an action in front, and no other one, is read by putting the other fields aside
and reading them as the action says. -/
theorem ofJson?_action_cons (outer : Nat) (action : String) {fields : List (String × Json)}
    (h : ∀ field ∈ fields, field.1 ≠ "action") :
    ofJson? outer (ofFields (("action", ofString action) :: fields)) =
      ((ofFields fields).putAside? (maxDepth - outer)).bind (ofAction? action) := by
  have hnone : fields.filter (fun field => field.1 == "action") = [] :=
    List.filter_eq_nil_iff.2 fun field hfield => by simpa using h field hfield
  have hall : fields.filter (fun field => field.1 != "action") = fields :=
    List.filter_eq_self.2 fun field hfield => by simpa using h field hfield
  -- Of the fields that are read, the action alone is not put aside.
  have hread := toFields?_ofFields (("action", ofString action) :: fields)
  unfold ofFields at hread ⊢
  simp only [ofJson?]
  rw [hread]
  simp [hnone, hall, toString?, ofString, ofFields]

/-- An action with texts is read as the action says that an object of the texts is read. -/
theorem ofJson?_fieldsOf {outer : Nat} (houter : outer < maxDepth) (action : String)
    {texts : List (String × String)} (hnames : "action" ∉ texts.map Prod.fst) :
    ofJson? outer (toJson.fieldsOf action texts) = ofAction? action (ofTexts texts) := by
  -- There is room for one more level, which is all that an object of texts takes.
  obtain ⟨depth, hdepth⟩ : ∃ depth, maxDepth - outer = depth + 1 :=
    Nat.exists_eq_succ_of_ne_zero (Nat.sub_ne_zero_of_lt houter)
  have hother : ∀ field ∈ texts.map (fun (name, text) => (name, ofString text)),
      field.1 ≠ "action" := by
    intro field hfield haction
    obtain ⟨entry, hentry, rfl⟩ := List.mem_map.1 hfield
    exact hnames (List.mem_map.2 ⟨entry, hentry, haction⟩)
  calc ofJson? outer (toJson.fieldsOf action texts)
      = ((ofTexts texts).putAside? (maxDepth - outer)).bind (ofAction? action) :=
        ofJson?_action_cons outer action hother
    _ = ofAction? action (ofTexts texts) := by
        rw [hdepth, putAside?_ofTexts, Option.bind_some]

/-- What an edit is written as is read as the edit. -/
theorem ofJson?_toJson {outer : Nat} (houter : outer < maxDepth) (edit : LabelEdit) :
    ofJson? outer edit.toJson = some edit := by
  have htext (text : String) : (ofString text).toString? = some text := rfl
  cases edit <;>
  · rw [toJson, ofJson?_fieldsOf houter _ (by simp)]
    simp [ofAction?, toRecord?_ofTexts, Record.required, List.lookup, htext]

/-- JSON can say a list of edits. -/
theorem sayable_listToJson (edits : List LabelEdit) : Sayable (listToJson edits) := by
  refine .array fun item hitem => ?_
  obtain ⟨edit, -, rfl⟩ := List.mem_map.1 hitem
  exact edit.sayable_toJson

/-- Edits have no numbers. -/
theorem mapReals_listToJson (edits : List LabelEdit) (g : Float → Float) :
    (listToJson edits).mapReals g = listToJson edits := by
  have hedit (edit : LabelEdit) : edit.toJson.mapReals g = edit.toJson := by
    cases edit <;> exact mapReals_ofTexts g _
  rw [listToJson, mapReals_array, List.map_map]
  exact congrArg array (List.map_congr_left fun edit _ => hedit edit)

/-- What edits are written as is read as the edits. -/
theorem listOfJson?_listToJson {outer : Nat} (houter : outer + 1 < maxDepth)
    (edits : List LabelEdit) : listOfJson? outer (listToJson edits) = some edits := by
  show (edits.map toJson).mapM (ofJson? (outer + 1)) = some edits
  refine mapM_eq_of_forall₂ (List.forall₂_map_right_iff.2 ?_)
  exact List.forall₂_same.2 fun edit _ => ofJson?_toJson houter edit

/-- The text of edits is read as the edits. -/
theorem read_write (hT : T.Spec numeral) (edits : List LabelEdit) :
    (T.read? (T.write (listToJson edits))).bind (listOfJson? 0) = some edits := by
  rw [hT.read?_write _ (sayable_listToJson edits), Option.bind_some,
    mapReals_listToJson edits numeral, listOfJson?_listToJson (by decide)]

end LabelEdit

/-! ## Settings -/

namespace Settings

/-- JSON can say settings. -/
theorem sayable_toJson (s : Settings) : Sayable s.toJson := by
  have hsize : Sayable (.integer s.cacheSize.toNat) := by
    refine .integer ?_ (Int.ofNat_lt.2 s.cacheSize.toNat_lt_size)
    exact Int.le_trans (by decide) (Int.natCast_nonneg _)
  refine .object ?_
  simp only [List.forall_mem_cons, List.not_mem_nil, false_imp_iff, implies_true, and_true]
  exact ⟨.string _, .string _, .string _, hsize⟩

/-- Settings have no number but an integer. -/
theorem mapReals_toJson (s : Settings) (g : Float → Float) : s.toJson.mapReals g = s.toJson := by
  simp [toJson, MissPolicy.toJson, TimeUnit.toJson, mapReals]

/-- What settings are written as is read as the settings, valid or not. -/
theorem ofJson?_toJson (s : Settings) : ofJson? s.toJson = some s := by
  have hrecord : toRecord? ["lookback_miss_policy", "histogram_bound_label",
      "histogram_time_unit", "regex_cache_size"] s.toJson = some ⟨true, _⟩ :=
    toRecord?_ofFields (by simp) rfl
  have hpolicy : MissPolicy.ofJson? s.missPolicy.toJson = some s.missPolicy := by
    cases s.missPolicy <;> rfl
  have hlabel : (ofString s.boundLabel).toString? = some s.boundLabel := rfl
  have hunit : TimeUnit.ofJson? s.timeUnit.toJson = some s.timeUnit := by
    cases s.timeUnit <;> rfl
  have hsize := toUInt64?_integer s.cacheSize
  unfold ofJson?
  rw [hrecord]
  simp only [Option.bind_eq_bind, Option.bind_some]
  rw [Record.withDefault_eq_some (by simp [List.lookup]) hpolicy, Option.bind_some,
    Record.withDefault_eq_some (by simp [List.lookup]) hlabel, Option.bind_some,
    Record.withDefault_eq_some (by simp [List.lookup]) hunit, Option.bind_some,
    Record.withDefault_eq_some (by simp [List.lookup]) hsize, Option.bind_some]
  rfl

/-- The text of settings is read as the settings if they are valid, and refused as they are if they
are not. -/
theorem read_write (hT : T.Spec numeral) (s : Settings) :
    read T (T.write s.toJson) = s.validate.map fun _ => s := by
  unfold read
  rw [hT.read?_write _ s.sayable_toJson, Option.bind_some, s.mapReals_toJson numeral,
    ofJson?_toJson]
  dsimp only
  cases s.validate <;> rfl

/-- Settings that are not valid have a fault. -/
theorem validate_eq (s : Settings) :
    s.validate = .ok () ∨ ∃ fault, s.validate = .error (.configuration fault) := by
  unfold validate
  split_ifs
  · exact .inr ⟨_, rfl⟩
  · exact .inr ⟨_, rfl⟩
  · exact .inl rfl

end Settings

/-! ## Both -/

/-- The text of edits is read as the edits, so that editing with what is read is editing with them;
and the text of settings is read as the settings if they are valid, and refused for the fault that
they have if they are not. -/
theorem configuration_round_trip (hT : T.Spec numeral) :
    (∀ edits : List LabelEdit,
      (T.read? (T.write (LabelEdit.listToJson edits))).bind (LabelEdit.listOfJson? 0) =
        some edits ∧
      ∀ (E : PatternEngine) (f : Family),
        ((T.read? (T.write (LabelEdit.listToJson edits))).bind (LabelEdit.listOfJson? 0)).map
          (f.edit E) = some (f.edit E edits)) ∧
    ∀ s : Settings,
      s.validate = .ok () ∧ Settings.read T (T.write s.toJson) = .ok s ∨
      ∃ fault, s.validate = .error (.configuration fault) ∧
        Settings.read T (T.write s.toJson) = .error (.configuration fault) := by
  refine ⟨fun edits => ?_, fun s => ?_⟩
  · have hedits := LabelEdit.read_write hT edits
    exact ⟨hedits, fun E f => by rw [hedits, Option.map_some]⟩
  · have hread := s.read_write hT
    obtain hvalid | ⟨fault, hfault⟩ := s.validate_eq
    · rw [hvalid] at hread
      exact .inl ⟨hvalid, hread⟩
    · rw [hfault] at hread
      exact .inr ⟨fault, hfault, hread⟩

/-- A replacement with a quote in its template, and settings without a bound label. -/
theorem configuration_round_trip_empty_label :
    let edits : List LabelEdit := [.replace "host" "(.*)" "\"$1\"" "node"]
    let s : Settings := { boundLabel := "" }
    (Json.codec.read? (Json.codec.write (LabelEdit.listToJson edits))).bind
        (LabelEdit.listOfJson? 0) = some edits ∧
      Settings.read Json.codec (Json.codec.write s.toJson) =
        .error (.configuration .emptyBoundLabel) := by
  intro edits s
  obtain ⟨hedits, hsettings⟩ := configuration_round_trip Json.codec_spec
  refine ⟨(hedits edits).1, ?_⟩
  have hfault : s.validate = .error (.configuration .emptyBoundLabel) := rfl
  obtain ⟨hvalid, -⟩ | ⟨fault, hinvalid, hread⟩ := hsettings s
  · cases hfault.symm.trans hvalid
  · cases hfault.symm.trans hinvalid
    exact hread

end MetricAlgebra
