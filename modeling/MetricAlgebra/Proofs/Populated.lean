import MetricAlgebra.Form.Family
import MetricAlgebra.Json.Writer
import MetricAlgebra.Pattern
import MetricAlgebra.Proofs.FiniteMap
import MetricAlgebra.Proofs.Operator

/-!
# Families with samples

Whatever is built, read and computed, a family has samples or says that it has none: there is no
batch that holds nothing (`Family.no_hollow_family`). Everything that makes a family makes it of a
list of samples, and makes no data of an empty one; builders and readers refuse an empty one.
-/

namespace MetricAlgebra

/-! ## Reading a batch of no samples -/

namespace Json

/-- What is put aside of the values of a list, value by value. -/
theorem forall₂_putItemsAside? {depth : Nat} :
    ∀ {items aside : List Json}, putItemsAside? depth items = some aside →
      List.Forall₂ (fun item kept => putAside? depth item = some kept) items aside
  | [], aside, h => by
    rw [putItemsAside?] at h
    obtain rfl := Option.some.inj h
    exact .nil
  | item :: items, aside, h => by
    rw [putItemsAside?] at h
    obtain ⟨kept, hkept, h⟩ := Option.bind_eq_some_iff.1 h
    obtain ⟨rest, hrest, rfl⟩ := Option.map_eq_some_iff.1 h
    exact .cons hkept (forall₂_putItemsAside? hrest)

/-- What is put aside of fields, field by field: the names stay. -/
theorem forall₂_putFieldsAside? {depth : Nat} :
    ∀ {fields aside : List (Option String × Json)}, putFieldsAside? depth fields = some aside →
      List.Forall₂ (fun field kept => field.1 = kept.1 ∧ putAside? depth field.2 = some kept.2)
        fields aside
  | [], aside, h => by
    rw [putFieldsAside?] at h
    obtain rfl := Option.some.inj h
    exact .nil
  | (none, value) :: fields, aside, h => by
    rw [putFieldsAside?] at h
    cases h
  | (some name, value) :: fields, aside, h => by
    rw [putFieldsAside?] at h
    obtain ⟨kept, hkept, h⟩ := Option.bind_eq_some_iff.1 h
    obtain ⟨rest, hrest, rfl⟩ := Option.map_eq_some_iff.1 h
    exact .cons ⟨rfl, hkept⟩ (forall₂_putFieldsAside? hrest)

/-- An empty list is put aside as it is, if at all. -/
theorem putAside?_array_nil {depth : Nat} {kept : Json}
    (h : putAside? depth (.array []) = some kept) : kept = .array [] := by
  cases depth with
  | zero => cases h
  | succ depth => exact (Option.some.inj h).symm

/-- An object is put aside as its fields are, save one whose only field is an empty object. -/
theorem exists_of_putAside?_object {depth : Nat} {fields : List (Option String × Json)}
    {kept : Json} (h : putAside? (depth + 1) (.object fields) = some kept) :
    ∃ aside, putFieldsAside? depth fields = some aside ∧
      (kept = .object aside ∨ ∃ name, aside = [(name, .object [])] ∧
        kept = .object [(name, .null)]) := by
  rw [putAside?] at h
  obtain ⟨aside, haside, h⟩ := Option.map_eq_some_iff.1 h
  refine ⟨aside, haside, ?_⟩
  split at h
  · rename_i name
    exact .inr ⟨name, rfl, h.symm⟩
  · exact .inl h.symm

/-- Fields of the same names, each put aside as the other. -/
abbrev PutAside (depth : Nat) : List (String × Json) → List (String × Json) → Prop :=
  List.Forall₂ fun field kept => field.1 = kept.1 ∧ putAside? depth field.2 = some kept.2

/-- Fields whose names are not broken are put aside with their names. -/
theorem exists_toFields?_of_putFieldsAside? {depth : Nat}
    {fields aside : List (Option String × Json)} (h : putFieldsAside? depth fields = some aside)
    {named : List (String × Json)} (hnamed : (object fields).toFields? = some named) :
    ∃ kept, (object aside).toFields? = some kept ∧ PutAside depth named kept := by
  have hfields := forall₂_putFieldsAside? h
  clear h
  unfold toFields? at hnamed ⊢
  dsimp only at hnamed ⊢
  induction hfields generalizing named with
  | nil =>
    obtain rfl := Option.some.inj hnamed
    exact ⟨[], rfl, .nil⟩
  | @cons field value fields aside hfield _ ih =>
    obtain ⟨name, json⟩ := field
    obtain ⟨keptName, keptJson⟩ := value
    obtain ⟨rfl, hkept⟩ := hfield
    cases name with
    | none =>
      rw [List.mapM_cons] at hnamed
      cases hnamed
    | some name =>
      simp only [List.mapM_cons, Option.map_some, Option.pure_def, Option.bind_eq_bind,
        Option.bind_some, Option.bind_eq_some_iff, Option.some.injEq] at hnamed ⊢
      obtain ⟨rest, hrest, rfl⟩ := hnamed
      obtain ⟨kept, hkeep, hput⟩ := ih hrest
      exact ⟨_, ⟨kept, hkeep, rfl⟩, .cons ⟨rfl, hkept⟩ hput⟩

/-- Fields put aside have the same names. -/
theorem PutAside.map_fst_eq {depth : Nat} {fields kept : List (String × Json)}
    (h : PutAside depth fields kept) : fields.map Prod.fst = kept.map Prod.fst := by
  induction h with
  | nil => rfl
  | cons hfield _ ih => rw [List.map_cons, List.map_cons, hfield.1, ih]

/-- Of fields put aside, those with given names are the ones with these names put aside. -/
theorem PutAside.filter {depth : Nat} {fields kept : List (String × Json)}
    (h : PutAside depth fields kept) (p : String → Bool) :
    PutAside depth (fields.filter fun field => p field.1) (kept.filter fun field => p field.1) := by
  induction h with
  | nil => exact .nil
  | @cons field value _ _ hfield _ ih =>
    by_cases hp : p field.1 = true
    · rw [List.filter_cons_of_pos (by exact hp), List.filter_cons_of_pos (hfield.1 ▸ hp)]
      exact .cons hfield ih
    · rw [List.filter_cons_of_neg (by exact hp), List.filter_cons_of_neg (hfield.1 ▸ hp)]
      exact ih

/-- The value of a name among fields put aside is the one put aside. -/
theorem PutAside.exists_lookup {depth : Nat} {fields kept : List (String × Json)}
    (h : PutAside depth fields kept) {name : String} {value : Json}
    (hvalue : fields.lookup name = some value) :
    ∃ value', kept.lookup name = some value' ∧ putAside? depth value = some value' := by
  induction h with
  | nil => cases hvalue
  | @cons field keptField _ _ hfield _ ih =>
    obtain ⟨fieldName, fieldValue⟩ := field
    obtain ⟨keptName, keptValue⟩ := keptField
    obtain ⟨rfl, hkept⟩ := hfield
    rw [List.lookup_cons] at hvalue ⊢
    cases hname : name == fieldName with
    | true =>
      rw [hname] at hvalue
      obtain rfl := Option.some.inj hvalue
      exact ⟨keptValue, rfl, hkept⟩
    | false =>
      rw [hname] at hvalue
      exact ih hvalue

end Json

namespace Batch

/-- Whether a JSON value says a batch of no samples, by name or in order. -/
def LacksSamples (j : Json) : Prop :=
  ∃ r : Json.Record, j.toRecord? ["samples", "context"] = some r ∧
    r.fields.lookup "samples" = some (.array [])

/-- A batch of no samples is not read. -/
theorem ofJson?_eq_none {j : Json} (h : LacksSamples j) : ofJson? j = none := by
  obtain ⟨r, hr, hsamples⟩ := h
  unfold ofJson?
  have hnil : r.required "samples" (Json.toList? Sample.ofJson?) = some [] := by
    unfold Json.Record.required
    rw [hsamples]
    rfl
  rw [hr, Option.bind_eq_bind, Option.bind_some, hnil]
  cases r.withDefault "context" Context.ofJson? {} <;> rfl

/-- A list that says no samples still does when it is put aside: the samples come first. -/
theorem LacksSamples.putAside_array {depth : Nat} {items : List Json} {kept : Json}
    (h : LacksSamples (.array items)) (hkept : (Json.array items).putAside? depth = some kept) :
    LacksSamples kept := by
  obtain ⟨r, hr, hsamples⟩ := h
  rw [Json.toRecord?_array] at hr
  split_ifs at hr with hlength
  obtain rfl := Option.some.inj hr
  cases depth with
  | zero => cases hkept
  | succ depth =>
    rw [Json.putAside?] at hkept
    obtain ⟨aside, haside, rfl⟩ := Option.map_eq_some_iff.1 hkept
    cases Json.forall₂_putItemsAside? haside with
    | nil => cases hsamples
    | @cons first keptFirst rest keptRest hfirst hrest =>
      obtain rfl : first = .array [] := Option.some.inj hsamples
      obtain rfl := Json.putAside?_array_nil hfirst
      refine ⟨⟨false, ["samples", "context"].zip (.array [] :: keptRest)⟩, ?_, rfl⟩
      rw [Json.toRecord?_array, if_pos]
      rwa [List.length_cons, ← hrest.length_eq]

/-- An object that says no samples still does when it is put aside. -/
theorem LacksSamples.putAside_object {depth : Nat} {fields : List (Option String × Json)}
    {kept : Json} (h : LacksSamples (.object fields))
    (hkept : (Json.object fields).putAside? depth = some kept) : LacksSamples kept := by
  obtain ⟨r, hr, hsamples⟩ := h
  rw [Json.toRecord?_object] at hr
  obtain ⟨named, hnamed, hr⟩ := Option.bind_eq_some_iff.1 hr
  split_ifs at hr with hnodup
  obtain rfl := Option.some.inj hr
  cases depth with
  | zero => cases hkept
  | succ depth =>
    obtain ⟨aside, haside, hobject⟩ := Json.exists_of_putAside?_object hkept
    obtain ⟨keptNamed, hkeptNamed, hput⟩ :=
      Json.exists_toFields?_of_putFieldsAside? haside hnamed
    have hknown := hput.filter fun name => ["samples", "context"].contains name
    obtain ⟨value, hlookup, hvalue⟩ := hknown.exists_lookup hsamples
    obtain rfl := Json.putAside?_array_nil hvalue
    rcases hobject with rfl | ⟨name, rfl, -⟩
    · refine ⟨⟨true, _⟩, ?_, hlookup⟩
      rw [Json.toRecord?_object, hkeptNamed, Option.bind_some]
      exact if_pos (hknown.map_fst_eq ▸ hnodup)
    -- An only field that is an empty object is not the list of samples.
    · cases name with
      | none => cases hkeptNamed
      | some name =>
        obtain rfl : [(name, Json.object [])] = keptNamed := Option.some.inj hkeptNamed
        rw [List.filter_cons] at hlookup
        split at hlookup
        · rw [List.lookup_cons] at hlookup
          split at hlookup <;> cases hlookup
        · cases hlookup

/-- A batch of no samples stays one when it is put aside. -/
theorem LacksSamples.putAside {depth : Nat} {j kept : Json} (h : LacksSamples j)
    (hkept : j.putAside? depth = some kept) : LacksSamples kept := by
  cases j with
  | array items => exact h.putAside_array hkept
  | object fields => exact h.putAside_object hkept
  | null | bool _ | integer _ | real _ | string _ =>
    obtain ⟨r, hr, -⟩ := h
    cases hr

end Batch

namespace Family

/-- Whether a JSON value says that there is a batch, and that it is the given one. -/
inductive SaysBatch (content : Json) : Json → Prop where
  /-- The kind and the batch in order. -/
  | inOrder {kind : Json} (h : FamilyKind.ofJson? kind = some .populated) :
    SaysBatch content (.array [kind, content])
  /-- The kind and the batch by name, the kind first. -/
  | kindFirst {kind : Json} {fields : List (Option String × Json)} {named : List (String × Json)}
    (hnamed : (Json.object fields).toFields? = some named)
    (hfields : (named.filter fun field => field.1 == "kind" || field.1 == "family") =
      [("kind", kind), ("family", content)])
    (h : FamilyKind.ofJson? kind = some .populated) : SaysBatch content (.object fields)
  /-- The kind and the batch by name, the batch first. -/
  | batchFirst {kind : Json} {fields : List (Option String × Json)} {named : List (String × Json)}
    (hnamed : (Json.object fields).toFields? = some named)
    (hfields : (named.filter fun field => field.1 == "kind" || field.1 == "family") =
      [("family", content), ("kind", kind)])
    (h : FamilyKind.ofJson? kind = some .populated) : SaysBatch content (.object fields)

/-- A family whose batch has no samples is not read. -/
theorem ofJson?_eq_none {j content : Json} (h : SaysBatch content j)
    (hsamples : Batch.LacksSamples content) : ofJson? j = none := by
  have hfamily {j : Json} (hj : Batch.LacksSamples j) : FamilyKind.populated.family? j = none := by
    show (Batch.ofJson? j).map populated = none
    rw [Batch.ofJson?_eq_none hj]
    rfl
  cases h with
  | inOrder h =>
    show (FamilyKind.ofJson? _).bind _ = none
    rw [h]
    exact hfamily hsamples
  | kindFirst hnamed hfields h =>
    show (Json.toFields? _).bind _ = none
    rw [hnamed, Option.bind_some, hfields]
    show (FamilyKind.ofJson? _).bind _ = none
    rw [h]
    exact hfamily hsamples
  | batchFirst hnamed hfields h =>
    show (Json.toFields? _).bind _ = none
    rw [hnamed, Option.bind_some, hfields]
    show (content.putAside? (Json.maxDepth - 1)).bind _ = none
    cases hkept : content.putAside? (Json.maxDepth - 1) with
    | none => rfl
    | some kept =>
      rw [Option.bind_some, h]
      exact hfamily (hsamples.putAside hkept)

/-! ## Whatever is obtained -/

/-- The families that come out of builders, readers and operators, one after the other, whatever the
engine for patterns and the codec for texts are. -/
inductive Obtained (E : PatternEngine) (T : JsonCodec) : Family → Prop where
  /-- A family that is built. -/
  | build {context : Context} {samples : List Sample} {f : Family}
    (h : Family.build context samples = .ok f) : Obtained E T f
  /-- A family that is built as a histogram. -/
  | buildHistogram {context : Context} {samples : List Sample} {f : Family}
    (h : Family.buildHistogram context samples = .ok f) : Obtained E T f
  /-- A family that is read. -/
  | read {text : String} {f : Family} (h : (T.read? text).bind Family.ofJson? = some f) :
    Obtained E T f
  /-- The family of a batch that is read. -/
  | readBatch {text : String} {batch : Batch}
    (h : (T.read? text).bind Batch.ofJson? = some batch) : Obtained E T (.populated batch)
  /-- The result of an operator. -/
  | apply {f g : Family} (hf : Obtained E T f) {op : Operator} (h : op.apply E f = .ok g) :
    Obtained E T g
  /-- The result of an operation on two families. -/
  | binaryOp {f g : Family} (hf : Obtained E T f) (hg : Obtained E T g) (op : BinaryOp) :
    Obtained E T (Family.binaryOp op f g)

/-- Whether a family has no data, or a sample at least, with labels in strict order of names. -/
def HasSamplesUnlessEmpty (f : Family) : Prop :=
  f = empty ∨ ∃ batch, f = populated batch ∧ batch.samples ≠ [] ∧
    ∀ s ∈ batch.samples, s.labels.labels.Pairwise fun a b => a.name < b.name

/-- A family made of a list of samples is empty if the list is. -/
theorem hasSamplesUnlessEmpty_ofSamples (context : Context) (samples : List Sample) :
    HasSamplesUnlessEmpty (ofSamples context samples) := by
  unfold ofSamples
  split
  · exact .inl rfl
  · rename_i hsamples
    exact .inr ⟨_, rfl, hsamples, fun s _ => LabelSet.pairwise_lt_of_rising s.labels.rising⟩

/-- What is built is made of the samples given. -/
theorem build_eq_ok {context : Context} {samples : List Sample} {f : Family}
    (h : build context samples = .ok f) : f = ofSamples context samples := by
  unfold build at h
  split at h
  · cases h
  · exact (Except.ok.inj h).symm

/-- A batch that is read has been seen to have samples. -/
theorem exists_of_ofJson?_batch {j : Json} {batch : Batch} (h : Batch.ofJson? j = some batch) :
    ∃ samples context, samples ≠ [] ∧ populated batch = ofSamples context samples := by
  unfold Batch.ofJson? at h
  simp only [Option.bind_eq_bind, Option.bind_eq_some_iff] at h
  obtain ⟨r, -, samples, -, context, -, h⟩ := h
  split at h
  · cases h
  · rename_i hsamples
    obtain rfl := Option.some.inj h
    exact ⟨samples, context, hsamples, populated_eq_ofSamples _⟩

/-- What a family of a kind reads as is no data or a batch that is read. -/
theorem family?_cases {kind : FamilyKind} {j : Json} {f : Family} (h : kind.family? j = some f) :
    f = empty ∨ ∃ batch, Batch.ofJson? j = some batch ∧ f = populated batch := by
  cases kind with
  | empty =>
    unfold FamilyKind.family? at h
    split at h
    · exact .inl (Option.some.inj h).symm
    · cases h
    · rename_i heq
      cases heq
  | populated =>
    obtain ⟨batch, hbatch, rfl⟩ := Option.map_eq_some_iff.1
      (h : (Batch.ofJson? j).map populated = some f)
    exact .inr ⟨batch, hbatch, rfl⟩

/-- What is read is no data or a batch that is read. -/
theorem ofJson?_cases {j : Json} {f : Family} (h : ofJson? j = some f) :
    f = empty ∨ ∃ content batch, Batch.ofJson? content = some batch ∧ f = populated batch := by
  have hkind {kind content : Json}
      (h : ((FamilyKind.ofJson? kind).bind fun kind => kind.family? content) = some f) :
      f = empty ∨ ∃ content batch, Batch.ofJson? content = some batch ∧ f = populated batch := by
    obtain ⟨kind, -, h⟩ := Option.bind_eq_some_iff.1 h
    exact (family?_cases h).imp_right fun h => ⟨content, h⟩
  unfold ofJson? at h
  split at h
  · exact hkind h
  · obtain ⟨named, -, h⟩ := Option.bind_eq_some_iff.1 h
    split at h
    · exact hkind h
    · exact hkind h
    · obtain ⟨kept, -, h⟩ := Option.bind_eq_some_iff.1 h
      exact hkind h
    · cases h
  · cases h

/-- The result of an operation on two families is one of them, or made of a list of samples. -/
theorem binaryOp_cases (op : BinaryOp) (f g : Family) :
    binaryOp op f g = f ∨ binaryOp op f g = g ∨
      ∃ context samples, binaryOp op f g = ofSamples context samples := by
  cases f with
  | empty =>
    cases g with
    | empty => exact .inl (by cases op <;> rfl)
    | populated right =>
      cases op with
      | mul => exact .inl rfl
      | add => exact .inr (.inl rfl)
      | sub | div => exact .inr (.inr ⟨right.context, _, rfl⟩)
  | populated left =>
    cases g with
    | empty =>
      cases op with
      | mul => exact .inr (.inl rfl)
      | add | sub => exact .inl rfl
      | div => exact .inr (.inr ⟨left.context, _, rfl⟩)
    | populated right =>
      cases op <;> exact .inr (.inr ⟨left.context, _, rfl⟩)

/-- Whatever is obtained has samples unless it says that it has none. -/
theorem Obtained.hasSamplesUnlessEmpty {E : PatternEngine} {T : JsonCodec} {f : Family}
    (h : Obtained E T f) : HasSamplesUnlessEmpty f := by
  induction h with
  | build h =>
    rw [build_eq_ok h]
    exact hasSamplesUnlessEmpty_ofSamples _ _
  | buildHistogram h =>
    rw [build_eq_ok h]
    exact hasSamplesUnlessEmpty_ofSamples _ _
  | read h =>
    obtain ⟨j, -, hf⟩ := Option.bind_eq_some_iff.1 h
    obtain rfl | ⟨content, batch, hbatch, rfl⟩ := ofJson?_cases hf
    · exact .inl rfl
    · obtain ⟨samples, context, -, hmade⟩ := exists_of_ofJson?_batch hbatch
      rw [hmade]
      exact hasSamplesUnlessEmpty_ofSamples _ _
  | readBatch h =>
    obtain ⟨j, -, hbatch⟩ := Option.bind_eq_some_iff.1 h
    obtain ⟨samples, context, -, hmade⟩ := exists_of_ofJson?_batch hbatch
    rw [hmade]
    exact hasSamplesUnlessEmpty_ofSamples _ _
  | apply hf h ih =>
    obtain ⟨rfl, rfl⟩ | ⟨batch, made, rfl, -, rfl⟩ := Operator.apply_cases h
    · exact .inl rfl
    · exact hasSamplesUnlessEmpty_ofSamples _ _
  | @binaryOp f g hf hg op ihf ihg =>
    obtain h | h | ⟨context, samples, h⟩ := binaryOp_cases op f g <;> rw [h]
    · exact ihf
    · exact ihg
    · exact hasSamplesUnlessEmpty_ofSamples _ _

/-- The ways to tell that a family has no data agree. -/
theorem HasSamplesUnlessEmpty.isEmpty_iff {f : Family} (h : HasSamplesUnlessEmpty f) :
    (f.isEmpty = true ↔ f.size = 0) ∧ (f.isEmpty = true ↔ f.samples = []) ∧
      (f.isEmpty = true ↔ f.context? = none) := by
  obtain rfl | ⟨batch, rfl, hsamples, -⟩ := h
  · exact ⟨⟨fun _ => rfl, fun _ => rfl⟩, ⟨fun _ => rfl, fun _ => rfl⟩, ⟨fun _ => rfl, fun _ => rfl⟩⟩
  · have hempty : (populated batch).isEmpty ≠ true := Bool.false_ne_true
    have hsize : (populated batch).size ≠ 0 := fun h => hsamples (List.length_eq_zero_iff.1 h)
    have hcontext : (populated batch).context? ≠ none := Option.some_ne_none _
    exact ⟨iff_of_false hempty hsize, iff_of_false hempty hsamples, iff_of_false hempty hcontext⟩

/-- There are no hollow families. Whatever is built, read and computed has no data or a sample at
least, and label sets in strict order of names; so that no data, no samples, the size zero and no
context are one. Of no samples nothing is built, and no batch and no family is read. -/
theorem no_hollow_family (E : PatternEngine) (T : JsonCodec) :
    (∀ f, Obtained E T f → f = empty ∨ ∃ batch, f = populated batch ∧ batch.samples ≠ [] ∧
      ∀ s ∈ batch.samples, s.labels.labels.Pairwise fun a b => a.name < b.name) ∧
    (∀ f, Obtained E T f → (f.isEmpty = true ↔ f.size = 0) ∧ (f.isEmpty = true ↔ f.samples = []) ∧
      (f.isEmpty = true ↔ f.context? = none)) ∧
    (∀ context, build context [] = .error .emptyFamily ∧
      buildHistogram context [] = .error .emptyFamily) ∧
    (∀ content, Batch.LacksSamples content → Batch.ofJson? content = none) ∧
    ∀ content j, SaysBatch content j → Batch.LacksSamples content → Family.ofJson? j = none :=
  ⟨fun _ h => h.hasSamplesUnlessEmpty, fun _ h => h.hasSamplesUnlessEmpty.isEmpty_iff,
    fun _ => ⟨rfl, rfl⟩, fun _ => Batch.ofJson?_eq_none, fun _ _ => ofJson?_eq_none⟩

/-- A filter that no sample passes leaves no data, and so no context. A batch without samples is not
read, also where it comes before its kind and has to be put aside. -/
theorem no_hollow_family_nothing_left :
    let f := populated ⟨[⟨.empty, 0, 1.0⟩], {}, by simp⟩
    let g := f.filterValues .greater 2.0
    let content : Json := .ofFields [("samples", .array [])]
    build {} [⟨.empty, 0, 1.0⟩] = .ok f ∧ g.isEmpty = true ∧ g.context? = none ∧
      Family.ofJson? (.ofFields [("family", content), ("kind", .ofString "populated")]) = none := by
  intro f g content
  obtain ⟨-, hagree, -, -, hread⟩ := no_hollow_family Pattern.engine Json.codec
  have hfilter : (Operator.filterValues .greater 2.0).apply Pattern.engine f = .ok g := rfl
  have hbuild : build {} [⟨.empty, 0, 1.0⟩] = .ok f := rfl
  have hg : Obtained Pattern.engine Json.codec g := .apply (.build hbuild) hfilter
  have hempty : g.isEmpty = true := by decide +kernel
  have hlacks : Batch.LacksSamples content :=
    ⟨⟨true, [("samples", .array [])]⟩, rfl, rfl⟩
  exact ⟨hbuild, hempty, (hagree g hg).2.2.1 hempty,
    hread content _ (.batchFirst rfl rfl rfl) hlacks⟩

end Family

end MetricAlgebra
