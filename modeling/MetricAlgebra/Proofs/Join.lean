import MetricAlgebra.Proofs.Selection
import MetricAlgebra.Proofs.Series

/-!
# Joins of families

Two families are joined through an index of the values on the right, which is made first and then
looked at once for each sample on the left. An index says of a label set what the first sample of it
says (`Family.lookup_valueIndex`), so that the join is the one that two nested loops make
(`Family.join_eq`).

A join goes by label sets alone, and so does a label filter. A filter can go below an operation on
two families unless it leaves nothing of just one of them, where the operation would take the other
one for all there is (`Family.keepLabels_binaryOp_iff`).
-/

namespace MetricAlgebra

/-! ## Samples of one series -/

/-- Whether two samples have the same labels, with the same values. -/
def Sample.SameLabels (s t : Sample) : Prop := ∀ name, s.label? name = t.label? name

/-- The label sets of samples of the same labels are equal, since they are kept in order. -/
theorem Sample.sameLabels_iff {s t : Sample} : s.SameLabels t ↔ t.labels = s.labels :=
  ⟨fun h => (LabelSet.ext_get? h).symm, fun h name => by rw [label?, label?, h]⟩

instance (s t : Sample) : Decidable (s.SameLabels t) := decidable_of_iff' _ Sample.sameLabels_iff

/-- Whether a sample is what an operation makes of a sample on the left and a list on the right: the
labels and the instant are those on the left, and the value on the right is that of the first sample
of the same labels. -/
structure BinaryOp.Joins (op : BinaryOp) (right : List Sample) (s made : Sample) : Prop where
  /-- The labels are those on the left. -/
  labels_eq : made.labels = s.labels
  /-- The instant is the one on the left. -/
  timestamp_eq : made.timestamp = s.timestamp
  /-- The value is that of the operation with the first sample of the same labels on the right. -/
  value_eq : ∃ before first after, right = before ++ first :: after ∧
    (∀ t ∈ before, ¬ s.SameLabels t) ∧ s.SameLabels first ∧
    made.value = op.apply s.value first.value

namespace Family

/-! ## The index -/

/-- One sample more comes to the end of the index, unless its labels are there. -/
theorem valueIndex_concat (samples : List Sample) (s : Sample) :
    valueIndex (samples ++ [s]) =
      if ((valueIndex samples).lookup s.labels).isSome then valueIndex samples
      else valueIndex samples ++ [(s.labels, s.value)] := by
  unfold valueIndex
  rw [List.foldl_append]
  rfl

/-- The index of one sample knows the labels of the sample. -/
theorem lookup_singleton (key labels : LabelSet) (value : Float) :
    [(key, value)].lookup labels = if key = labels then some value else none := by
  by_cases h : key = labels
  · simp [h]
  · have hne : (labels == key) = false := beq_eq_false_iff_ne.2 (Ne.symm h)
    simp [h, List.lookup_cons, hne]

/-- The index has the value of the first sample of a label set. -/
theorem lookup_valueIndex (samples : List Sample) (labels : LabelSet) :
    (valueIndex samples).lookup labels =
      (samples.find? fun s => s.labels = labels).map (·.value) := by
  -- Every prefix of the samples has its own index, so that the last sample is taken off.
  induction samples using List.reverseRecOn with
  | nil => rfl
  | append_singleton samples s ih =>
    have hlast : ([s].find? fun t => t.labels = labels).map (·.value) =
        [(s.labels, s.value)].lookup labels := by
      rw [lookup_singleton]
      by_cases hs : s.labels = labels <;> simp [hs]
    rw [List.find?_append, Option.map_or, ← ih, hlast, valueIndex_concat]
    split
    · rename_i hthere
      by_cases hs : s.labels = labels
      · -- The labels are there, with the value of an earlier sample.
        rw [hs] at hthere
        rw [Option.or_of_isSome hthere]
      · rw [lookup_singleton, if_neg hs, Option.or_none]
    · exact List.lookup_append

/-- What two nested loops make of two lists of samples: for each sample on the left, the right list
is gone through up to the first sample of the same labels. -/
def nestedJoin (op : BinaryOp) (left right : List Sample) : List Sample :=
  left.filterMap fun s =>
    (right.find? fun t => t.labels = s.labels).map fun t => s.withValue (op.apply s.value t.value)

/-- A join through an index is the join by nested loops. -/
theorem join_eq (op : BinaryOp) (left right : Batch) :
    join op left right =
      ofSamples left.context (nestedJoin op left.samples right.samples) := by
  unfold join nestedJoin
  simp only [lookup_valueIndex, Option.map_map]
  rfl

/-- The nested loops make one sample for each on the left that has a match on the right. -/
theorem forall₂_nestedJoin (op : BinaryOp) (left right : List Sample) :
    List.Forall₂ (op.Joins right) (left.filter fun s => ∃ t ∈ right, s.SameLabels t)
      (nestedJoin op left right) := by
  induction left with
  | nil => exact .nil
  | cons s left ih =>
    unfold nestedJoin at ih ⊢
    cases hfind : right.find? fun t => t.labels = s.labels with
    | none =>
      have hnone : ¬ ∃ t ∈ right, s.SameLabels t := by
        rintro ⟨t, ht, hsame⟩
        have hother := List.find?_eq_none.1 hfind t ht
        exact hother (decide_eq_true (Sample.sameLabels_iff.1 hsame))
      rw [List.filter_cons_of_neg (by simpa using hnone),
        List.filterMap_cons_none (by rw [hfind]; rfl)]
      exact ih
    | some first =>
      obtain ⟨hfirst, before, after, hright, hbefore⟩ := List.find?_eq_some_iff_append.1 hfind
      have hsame : s.SameLabels first := Sample.sameLabels_iff.2 (of_decide_eq_true hfirst)
      have hmem : first ∈ right := by simp [hright]
      have hmatch : ∃ t ∈ right, s.SameLabels t := ⟨first, hmem, hsame⟩
      rw [List.filter_cons_of_pos (by simpa using hmatch),
        List.filterMap_cons_some (by rw [hfind]; rfl)]
      refine .cons ⟨rfl, rfl, before, first, after, hright, fun t ht hsame => ?_, hsame, rfl⟩ ih
      have hother := hbefore t ht
      rw [Sample.sameLabels_iff] at hsame
      simp [hsame] at hother

/-- Nothing is joined exactly if no sample on the left has a match on the right. -/
theorem nestedJoin_eq_nil_iff {op : BinaryOp} {left right : List Sample} :
    nestedJoin op left right = [] ↔ ∀ s ∈ left, ∀ t ∈ right, ¬ s.SameLabels t := by
  unfold nestedJoin
  simp only [List.filterMap_eq_nil_iff, Option.map_eq_none_iff, List.find?_eq_none,
    decide_eq_true_eq, Sample.sameLabels_iff]

/-- A family is empty exactly if its list of samples is. -/
theorem isEmpty_ofSamples_iff {context : Context} {samples : List Sample} :
    (ofSamples context samples).isEmpty = true ↔ samples = [] := by
  by_cases hnil : samples = []
  · rw [ofSamples, dif_pos hnil]
    exact iff_of_true rfl hnil
  · rw [ofSamples, dif_neg hnil]
    exact iff_of_false Bool.false_ne_true hnil

/-- An operation on two batches makes, in order, one sample of each on the left that has the labels
of some sample on the right: with the labels and the instant on the left, and with the value of the
operation with the first sample on the right that has the labels. They are under the context on the
left, and there are none exactly if no labels are on both sides. -/
theorem binaryOp_joins_first_match (op : BinaryOp) (left right : Batch) :
    let joined := binaryOp op (populated left) (populated right)
    List.Forall₂ (op.Joins right.samples)
        (left.samples.filter fun s => ∃ t ∈ right.samples, s.SameLabels t) joined.samples ∧
      joined = ofSamples left.context joined.samples ∧
      (joined.isEmpty = true ↔ ∀ s ∈ left.samples, ∀ t ∈ right.samples, ¬ s.SameLabels t) := by
  intro joined
  have hjoined : joined = ofSamples left.context (nestedJoin op left.samples right.samples) :=
    (binaryOp_populated_populated op left right).trans (join_eq op left right)
  have hsamples : joined.samples = nestedJoin op left.samples right.samples := by
    rw [hjoined, samples_ofSamples]
  refine ⟨?_, ?_, ?_⟩
  · rw [hsamples]
    exact forall₂_nestedJoin op left.samples right.samples
  · rw [hsamples, hjoined]
  · rw [hjoined, isEmpty_ofSamples_iff]
    exact nestedJoin_eq_nil_iff

/-! ## Filters below operations -/

/-- The samples of a family whose labels pass a test. -/
def keepLabels (f : Family) (keep : LabelSet → Bool) : Family := f.filter fun s => keep s.labels

/-- A test on labels goes below the nested loops. -/
theorem filter_nestedJoin (op : BinaryOp) (left right : List Sample) (keep : LabelSet → Bool) :
    (nestedJoin op left right).filter (fun s => keep s.labels) =
      nestedJoin op (left.filter fun s => keep s.labels)
        (right.filter fun s => keep s.labels) := by
  unfold nestedJoin
  rw [List.filter_filterMap, List.filterMap_filter]
  refine List.filterMap_congr fun s _ => ?_
  split
  · rename_i hkeep
    -- A sample of the same labels passes the test too, so that the first match stays the first.
    have hfind : ((right.filter fun t => keep t.labels).find? fun t => t.labels = s.labels) =
        right.find? fun t => t.labels = s.labels := by
      rw [List.find?_filter]
      congr 1
      funext t
      by_cases ht : t.labels = s.labels
      · simp [ht, hkeep]
      · simp [ht]
    rw [hfind]
    cases right.find? fun t => t.labels = s.labels with
    | none => rfl
    | some t => simp [Sample.withValue, hkeep]
  · rename_i hdrop
    cases right.find? fun t => t.labels = s.labels with
    | none => rfl
    | some t => simpa [Sample.withValue] using hdrop

/-- The family of a list of samples with other values. -/
theorem mapValues_ofSamples (context : Context) (samples : List Sample) (g : Float → Float) :
    (ofSamples context samples).mapValues g =
      ofSamples context (samples.map fun s => s.withValue (g s.value)) := by
  by_cases hnil : samples = []
  · subst hnil
    rfl
  · conv_lhs => rw [ofSamples, dif_neg hnil]
    rfl

/-- Other values do not count for a test on labels. -/
theorem keepLabels_mapValues (f : Family) (g : Float → Float) (keep : LabelSet → Bool) :
    (f.mapValues g).keepLabels keep = (f.keepLabels keep).mapValues g := by
  obtain ⟨context, samples, rfl⟩ := exists_eq_ofSamples f
  unfold keepLabels
  rw [mapValues_ofSamples, filter_ofSamples, filter_ofSamples, mapValues_ofSamples, List.filter_map]
  rfl

/-- Other values do not make a family empty. -/
theorem isEmpty_mapValues (f : Family) (g : Float → Float) :
    (f.mapValues g).isEmpty = f.isEmpty := by
  obtain ⟨context, samples, rfl⟩ := exists_eq_ofSamples f
  rw [mapValues_ofSamples, Bool.eq_iff_iff, isEmpty_ofSamples_iff, isEmpty_ofSamples_iff,
    List.map_eq_nil_iff]

/-- What an operation makes of a family on the right, with no data on the left. -/
theorem binaryOp_empty_left (op : BinaryOp) (right : Family) :
    binaryOp op empty right =
      match op with
      | .mul => empty
      | .add => right
      | .sub => right.mapValues (-·)
      | .div => right.mapValues (0.0 / ·) := by
  cases op <;> cases right <;> rfl

/-- What an operation makes of a family on the left, with no data on the right. -/
theorem binaryOp_empty_right (op : BinaryOp) (left : Family) :
    binaryOp op left empty =
      match op with
      | .mul => empty
      | .add => left
      | .sub => left
      | .div => left.mapValues (· / 0.0) := by
  cases op <;> cases left <;> rfl

/-- With no data on one side, an operation other than a product has data if the other side has. -/
theorem isEmpty_binaryOp_empty {op : BinaryOp} (hop : op ≠ .mul) (f : Family) :
    (binaryOp op empty f).isEmpty = f.isEmpty ∧ (binaryOp op f empty).isEmpty = f.isEmpty := by
  rw [binaryOp_empty_left, binaryOp_empty_right]
  cases op with
  | mul => exact absurd rfl hop
  | add => exact ⟨rfl, rfl⟩
  | sub => exact ⟨isEmpty_mapValues f _, rfl⟩
  | div => exact ⟨isEmpty_mapValues f _, isEmpty_mapValues f _⟩

/-- With no data on one side, a test on labels goes below an operation. -/
theorem keepLabels_binaryOp_empty (op : BinaryOp) (f : Family) (keep : LabelSet → Bool) :
    (binaryOp op empty f).keepLabels keep = binaryOp op empty (f.keepLabels keep) ∧
      (binaryOp op f empty).keepLabels keep = binaryOp op (f.keepLabels keep) empty := by
  rw [binaryOp_empty_left, binaryOp_empty_left, binaryOp_empty_right, binaryOp_empty_right]
  cases op with
  | mul | add => exact ⟨rfl, rfl⟩
  | sub => exact ⟨keepLabels_mapValues f _ keep, rfl⟩
  | div => exact ⟨keepLabels_mapValues f _ keep, keepLabels_mapValues f _ keep⟩

/-- No samples are no data. -/
theorem ofSamples_nil (context : Context) : ofSamples context [] = empty := rfl

/-- Nothing is joined with no samples on the left. -/
theorem nestedJoin_nil_left (op : BinaryOp) (right : List Sample) :
    nestedJoin op [] right = [] := rfl

/-- Nothing is joined with no samples on the right. -/
theorem nestedJoin_nil_right (op : BinaryOp) (left : List Sample) : nestedJoin op left [] = [] :=
  nestedJoin_eq_nil_iff.2 fun _ _ _ h => nomatch h

/-- Two lists of samples that are both empty or both not are joined by nested loops, and for a
product this holds of all lists. -/
theorem binaryOp_ofSamples {op : BinaryOp} {left right : List Sample}
    (h : op = .mul ∨ (left = [] ↔ right = [])) (context context' : Context) :
    binaryOp op (ofSamples context left) (ofSamples context' right) =
      ofSamples context (nestedJoin op left right) := by
  by_cases hleft : left = []
  · -- No data on the left go with no data on the right, or into a product.
    subst hleft
    rw [nestedJoin_nil_left, ofSamples_nil, binaryOp_empty_left]
    rcases h with rfl | h
    · rfl
    · obtain rfl := h.1 rfl
      cases op <;> rfl
  · by_cases hright : right = []
    · subst hright
      rcases h with rfl | h
      · rw [nestedJoin_nil_right, ofSamples_nil, ofSamples_nil, binaryOp_empty_right]
      · exact absurd (h.2 rfl) hleft
    · have hpopulated (context : Context) {samples : List Sample} (h : samples ≠ []) :
          ofSamples context samples = populated ⟨samples, context, h⟩ := dif_neg h
      rw [hpopulated context hleft, hpopulated context' hright, binaryOp_populated_populated,
        join_eq]

/-- A test on labels goes below an operation on two families in all cases but one: two families with
data, of which the test leaves some of the one and none of the other, in an operation that is no
product. -/
theorem keepLabels_binaryOp_iff {op : BinaryOp} {left right : Family} {keep : LabelSet → Bool} :
    (binaryOp op left right).keepLabels keep =
        binaryOp op (left.keepLabels keep) (right.keepLabels keep) ↔
      op = .mul ∨ left = empty ∨ right = empty ∨
        ((left.keepLabels keep).isEmpty = true ↔ (right.keepLabels keep).isEmpty = true) := by
  cases left with
  | empty => exact iff_of_true (keepLabels_binaryOp_empty op right keep).1 (.inr (.inl rfl))
  | populated left =>
    cases right with
    | empty =>
      exact iff_of_true (keepLabels_binaryOp_empty op _ keep).2 (.inr (.inr (.inl rfl)))
    | populated right =>
      let lefts := left.samples.filter fun s => keep s.labels
      let rights := right.samples.filter fun s => keep s.labels
      have hleft : (populated left).keepLabels keep = ofSamples left.context lefts := rfl
      have hright : (populated right).keepLabels keep = ofSamples right.context rights := rfl
      -- On the left of the equation the operation is done first, and is a join.
      have hbelow : (binaryOp op (populated left) (populated right)).keepLabels keep =
          ofSamples left.context (nestedJoin op lefts rights) := by
        rw [binaryOp_populated_populated, join_eq, keepLabels, filter_ofSamples,
          filter_nestedJoin]
      rw [hbelow, hleft, hright, isEmpty_ofSamples_iff, isEmpty_ofSamples_iff]
      clear_value lefts rights
      constructor
      · -- If one side is left with nothing, so is the join, and then the other side is too.
        intro heq
        have hsame := congrArg Family.isEmpty heq
        refine or_iff_not_imp_left.2 fun hop => .inr (.inr ⟨fun hnil => ?_, fun hnil => ?_⟩)
        · subst hnil
          rw [nestedJoin_nil_left, ofSamples_nil, (isEmpty_binaryOp_empty hop _).1] at hsame
          exact isEmpty_ofSamples_iff.1 hsame.symm
        · subst hnil
          rw [nestedJoin_nil_right, ofSamples_nil, ofSamples_nil,
            (isEmpty_binaryOp_empty hop _).2] at hsame
          exact isEmpty_ofSamples_iff.1 hsame.symm
      · rintro (hop | h | h | hsides)
        · exact (binaryOp_ofSamples (.inl hop) _ _).symm
        · cases h
        · cases h
        · exact (binaryOp_ofSamples (.inr hsides) _ _).symm

/-- The arguments of a selection that succeeds make one test on labels, which all families are
filtered by. -/
theorem exists_keepLabels_of_matchLabels {E : PatternEngine} {f g : Family}
    {comparison : LabelComparison} {arguments : List String}
    (h : f.matchLabels E comparison arguments = .ok g) :
    ∃ keep, ∀ f : Family, f.matchLabels E comparison arguments = .ok (f.keepLabels keep) := by
  obtain ⟨filters, hfilters, -⟩ := exists_ok_of_bind h
  exact ⟨fun labels => filters.all fun filter => filter.acceptsLabels labels,
    fun f => matchLabels_of_ok hfilters f⟩

/-- A label filter goes below a product of two families, and below every operation on two families
if it leaves data of both. -/
theorem matchLabels_binaryOp (E : PatternEngine) (op : BinaryOp)
    (left right lefts rights : Family) (comparison : LabelComparison) (arguments : List String)
    (hleft : left.matchLabels E comparison arguments = .ok lefts)
    (hright : right.matchLabels E comparison arguments = .ok rights)
    (h : op = .mul ∨ lefts.isEmpty = false ∧ rights.isEmpty = false) :
    (binaryOp op left right).matchLabels E comparison arguments =
      .ok (binaryOp op lefts rights) := by
  obtain ⟨keep, hkeep⟩ := exists_keepLabels_of_matchLabels hleft
  obtain rfl : left.keepLabels keep = lefts := Except.ok.inj ((hkeep left).symm.trans hleft)
  obtain rfl : right.keepLabels keep = rights := Except.ok.inj ((hkeep right).symm.trans hright)
  rw [hkeep, Except.ok.injEq, keepLabels_binaryOp_iff]
  rcases h with hop | ⟨hlefts, hrights⟩
  · exact .inl hop
  · exact .inr (.inr (.inr (by rw [hlefts, hrights])))

/-- A difference of two families of which a filter leaves something each: of the two samples of one
zone on the right the first one counts, before the filter and after it. -/
theorem matchLabels_binaryOp_repeated_zone :
    let zone (name : String) : LabelSet := .ofPairs [("zone", name)]
    let left := populated ⟨[⟨zone "a", 1000, 5.0⟩, ⟨zone "b", 2000, 7.0⟩], {}, by simp⟩
    let right := populated ⟨[⟨zone "b", 9000, 3.0⟩, ⟨zone "a", 9000, 1.0⟩, ⟨zone "a", 9000, 2.0⟩],
      {}, by simp⟩
    (binaryOp .sub left right).matchLabels Pattern.engine .notEqual ["zone", "b"] =
      .ok (populated ⟨[⟨zone "a", 1000, 4.0⟩], {}, by simp⟩) := by
  intro zone left right
  let lefts := populated ⟨[⟨zone "a", 1000, 5.0⟩], {}, by simp⟩
  let rights := populated ⟨[⟨zone "a", 9000, 1.0⟩, ⟨zone "a", 9000, 2.0⟩], {}, by simp⟩
  have hzone (name : String) : (zone name).get? "zone" = some name := by
    simp [zone, LabelSet.get?_ofPairs]
  have hfilters : LabelFilter.ofArguments Pattern.engine .notEqual ["zone", "b"] =
      .ok [⟨"zone", .notEqual "b"⟩] := rfl
  have hleft : left.matchLabels Pattern.engine .notEqual ["zone", "b"] = .ok lefts := by
    rw [matchLabels_of_ok hfilters]
    simp [left, lefts, Family.filter, LabelFilter.accepts, Sample.label?, LabelTest.holds, hzone,
      ofSamples]
  have hright : right.matchLabels Pattern.engine .notEqual ["zone", "b"] = .ok rights := by
    rw [matchLabels_of_ok hfilters]
    simp [right, rights, Family.filter, LabelFilter.accepts, Sample.label?, LabelTest.holds, hzone,
      ofSamples]
  have hvalue : (5.0 - 1.0 : Float) = 4.0 := by decide +kernel
  refine (matchLabels_binaryOp Pattern.engine .sub left right lefts rights .notEqual ["zone", "b"]
    hleft hright (.inr ⟨rfl, rfl⟩)).trans ?_
  rw [binaryOp_populated_populated, join_eq, ← hvalue]
  simp [nestedJoin, ofSamples, Sample.withValue, BinaryOp.apply]

end Family

end MetricAlgebra
