import MetricAlgebra.Pattern
import MetricAlgebra.Proofs.FiniteMap
import MetricAlgebra.Proofs.FloatOrder
import MetricAlgebra.Proofs.Grouping
import MetricAlgebra.Proofs.Operator

/-!
# Aggregates group samples by labels

Tallies are kept while the samples are gone through once. In the end they are those of the groups
that a plain definition gives: the samples with the same values at the grouping names, in order
(`Family.aggregate_eq_groupBy`). What a reduction gives for the values of a group is said by
`Reduction.Reduces`, without tallies.

A filter on grouping labels keeps or drops a group as a whole, so that it can be applied before or
after grouping (`Family.matchLabels_aggregate`).
-/

namespace MetricAlgebra

open Binary64

/-! ## Values of groups -/

/-- Whether a value is what a reduction gives for the values of a group: their sum in order from
zero, their number, the quotient of the two, or an extreme of them. -/
def Reduction.Reduces : Reduction → List Float → Float → Prop
  | sum, xs, v => v = xs.foldl (· + ·) 0.0
  | avg, xs, v => v = xs.foldl (· + ·) 0.0 / Float.ofNat xs.length
  | max, xs, v => IsExtreme (fun x v => x ≤ v) xs v
  | min, xs, v => IsExtreme (fun x v => v ≤ x) xs v
  | count, xs, v => v = Float.ofNat xs.length

/-- A tally after some samples more, part by part. -/
theorem Tally.foldl_push (samples : List Sample) (t : Tally) :
    samples.foldl push t =
      { timestamp := t.timestamp
        sum := (samples.map (·.value)).foldl (· + ·) t.sum
        min := (samples.map (·.value)).foldl (keep fun x kept => decide (x < kept)) t.min
        max := (samples.map (·.value)).foldl (keep fun x kept => decide (x > kept)) t.max
        count := t.count + samples.length } := by
  induction samples generalizing t with
  | nil => rfl
  | cons s samples ih =>
    have hcount : (t.push s).count + samples.length = t.count + (s :: samples).length := by
      show t.count + 1 + samples.length = t.count + (samples.length + 1)
      omega
    rw [List.foldl_cons, ih, hcount]
    rfl

/-- The value that a tally gives is that of the reduction. -/
theorem Tally.reduces_value (how : Reduction) (first : Sample) (rest : List Sample) :
    how.Reduces ((first :: rest).map (·.value))
      (((first :: rest).foldl push (ofFirst first)).value how) := by
  have hxs : (first :: rest).map (·.value) ≠ [] := by simp
  have hcount : 0 + (first :: rest).length = ((first :: rest).map (·.value)).length := by simp
  rw [foldl_push]
  cases how with
  | sum => rfl
  | avg => exact congrArg (fun n => _ / Float.ofNat n) hcount
  | max => exact preference_greater.isExtreme_foldl_keep hxs
  | min => exact preference_less.isExtreme_foldl_keep hxs
  | count => exact congrArg Float.ofNat hcount

/-- Whether a sample is what a reduction makes of a group: it has the labels of the group, the
instant of the first member, and the value that the reduction gives for the members. -/
structure Reduction.MakesOf (how : Reduction) (part : LabelSet × List Sample) (made : Sample) :
    Prop where
  /-- The labels are those of the group. -/
  labels_eq : part.1 = made.labels
  /-- The instant is that of the first member. -/
  timestamp_eq : part.2.head?.map (·.timestamp) = some made.timestamp
  /-- The value is that of the members. -/
  reduces : how.Reduces (part.2.map (·.value)) made.value

namespace Family

open Grouping

/-- The labels of a sample at given names. -/
def groupKey (names : List String) (s : Sample) : LabelSet := s.labels.project names

/-- To be grouped by no labels at all is to be grouped by the values at no names. -/
theorem groupLabels_eq_groupKey (names : Option (List String)) :
    groupLabels names = groupKey (names.getD []) := by
  cases names with
  | some names => rfl
  | none => exact funext fun s => s.labels.project_nil.symm

/-- The samples that an aggregate has, one for each group. -/
def reduced (how : Reduction) (names : List String) (samples : List Sample) : List Sample :=
  (tallies (groupKey names) samples).map fun (labels, tally) =>
    ⟨labels, tally.timestamp, tally.value how⟩

/-- Each sample of an aggregate is made of its group. -/
theorem forall₂_reduced (how : Reduction) (names : List String) (samples : List Sample) :
    List.Forall₂ how.MakesOf (parts (groupKey names) samples) (reduced how names samples) := by
  unfold reduced tallies
  rw [List.forall₂_map_right_iff]
  refine (forall₂_collect (groupKey names) Tally.ofFirst Tally.push samples).imp ?_
  rintro ⟨labels, members⟩ ⟨labels', tally⟩ ⟨hlabels, first, rest, hmembers, htally⟩
  dsimp only at hlabels hmembers htally
  subst hlabels hmembers htally
  refine ⟨rfl, ?_, Tally.reduces_value how first rest⟩
  show some first.timestamp = some _
  rw [Tally.foldl_push]
  rfl

/-- The labels of an aggregate are those that the samples have at the grouping names, each once. -/
theorem map_labels_reduced (how : Reduction) (names : List String) (samples : List Sample) :
    (reduced how names samples).map (·.labels) =
      (samples.map (groupKey names)).eraseDups := by
  rw [← map_fst_parts]
  exact (map_eq_of_forall₂ (fun _ _ hmade => hmade.labels_eq)
    (forall₂_reduced how names samples)).symm

/-- Where there is a sample there is a group. -/
theorem reduced_eq_nil_iff {how : Reduction} {names : List String} {samples : List Sample} :
    reduced how names samples = [] ↔ samples = [] := by
  have hlabels := map_labels_reduced how names samples
  constructor
  · intro hnil
    rw [hnil] at hlabels
    cases samples with
    | nil => rfl
    | cons s samples =>
      rw [List.map_cons, List.eraseDups_cons] at hlabels
      cases hlabels
  · rintro rfl
    rfl

/-- An aggregate of a list of samples is the family of the samples made of the groups, also if
there are none. -/
theorem aggregate_ofSamples (context : Context) (samples : List Sample) (how : Reduction)
    (names : Option (List String)) :
    (ofSamples context samples).aggregate how names =
      ofSamples context (reduced how (names.getD []) samples) := by
  by_cases hnil : samples = []
  · subst hnil
    rfl
  · rw [reduced, ← groupLabels_eq_groupKey]
    conv_lhs => rw [ofSamples, dif_neg hnil]
    rfl

/-- The samples that an aggregate of a family has. -/
theorem samples_aggregate (f : Family) (how : Reduction) (names : Option (List String)) :
    (f.aggregate how names).samples = reduced how (names.getD []) f.samples := by
  cases f with
  | empty => rfl
  | populated batch =>
    rw [populated_eq_ofSamples, aggregate_ofSamples, samples_ofSamples, samples_ofSamples]

/-- An aggregate has the context of the family. -/
theorem context?_aggregate (f : Family) (how : Reduction) (names : Option (List String)) :
    (f.aggregate how names).context? = f.context? := by
  cases f with
  | empty => rfl
  | populated batch =>
    have hmade : reduced how (names.getD []) batch.samples ≠ [] := fun hnil =>
      batch.nonempty (reduced_eq_nil_iff.1 hnil)
    rw [populated_eq_ofSamples, aggregate_ofSamples, context?_ofSamples hmade,
      context?_ofSamples batch.nonempty]

/-- The group of a sample that an aggregate has. -/
theorem makesOf_of_mem_reduced {how : Reduction} {names : List String} {samples : List Sample}
    {made : Sample} (h : made ∈ reduced how names samples) :
    how.MakesOf (made.labels, samples.filter fun s => groupKey names s = made.labels) made := by
  obtain ⟨part, hpart, hmakes⟩ := exists_left_of_forall₂ (forall₂_reduced how names samples) h
  obtain ⟨hmembers, -⟩ := snd_eq_of_mem_parts hpart
  have hpair : part = (made.labels, samples.filter fun s => groupKey names s = made.labels) := by
    rw [← hmakes.labels_eq, ← hmembers]
  exact hpair ▸ hmakes

/-- An aggregate has one sample for each set of values that samples have at the grouping names,
where a missing name counts as the empty value, in the order in which these first appear. Each has
the instant of the first of its members and the value that the reduction gives for them in order,
and every sample is a member of one group. The context stays, and no grouping is that by no
names. -/
theorem aggregate_eq_groupBy (batch : Batch) (how : Reduction) (names : Option (List String)) :
    let key := fun s : Sample => s.labels.project (names.getD [])
    let members := fun made : Sample => batch.samples.filter fun s => key s = made.labels
    (∃ made : List Sample, ∃ h : made ≠ [],
      (populated batch).aggregate how names = populated ⟨made, batch.context, h⟩ ∧
      made.map (·.labels) = (batch.samples.map key).eraseDups ∧ (made.map (·.labels)).Nodup ∧
      (∀ m ∈ made, (members m).head?.map (·.timestamp) = some m.timestamp ∧
        how.Reduces ((members m).map (·.value)) m.value) ∧
      (made.flatMap members).Perm batch.samples) ∧
    (populated batch).aggregate how none = (populated batch).aggregate how (some []) := by
  intro key members
  have hmade : reduced how (names.getD []) batch.samples ≠ [] := fun hnil =>
    batch.nonempty (reduced_eq_nil_iff.1 hnil)
  have hlabels : (reduced how (names.getD []) batch.samples).map (·.labels) =
      (batch.samples.map key).eraseDups := map_labels_reduced how (names.getD []) batch.samples
  refine ⟨⟨reduced how (names.getD []) batch.samples, hmade, ?_, hlabels, ?_, ?_, ?_⟩, ?_⟩
  · rw [populated_eq_ofSamples batch, aggregate_ofSamples, ofSamples, dif_neg hmade]
  · rw [hlabels]
    exact nodup_eraseDups _
  · intro m hm
    have hmakes := makesOf_of_mem_reduced hm
    exact ⟨hmakes.timestamp_eq, hmakes.reduces⟩
  · have hmembers : (reduced how (names.getD []) batch.samples).flatMap members =
        (parts key batch.samples).flatMap Prod.snd := by
      rw [parts, List.flatMap_map, ← hlabels, List.flatMap_map]
    rw [hmembers]
    exact flatMap_parts_perm key batch.samples
  · rw [populated_eq_ofSamples batch, aggregate_ofSamples, aggregate_ofSamples]
    rfl

end Family

/-! ## Filters below grouping -/

namespace LabelFilter

variable {E : PatternEngine}

/-- Whether labels pass a filter. -/
def acceptsLabels (filter : LabelFilter E) (labels : LabelSet) : Bool :=
  (labels.get? filter.name).any filter.test.holds

/-- A filter that is made of arguments has the name of a pair, and the test that the text of the
pair makes. -/
theorem exists_pair_of_ofArguments {op : LabelComparison} {arguments : List String}
    {filters : List (LabelFilter E)} (h : ofArguments E op arguments = .ok filters)
    {filter : LabelFilter E} (hfilter : filter ∈ filters) :
    ∃ pair ∈ pairUp arguments, filter.name = pair.1 ∧ op.test E pair.2 = .ok filter.test := by
  unfold ofArguments at h
  split at h
  · cases h
  · obtain ⟨⟨name, text⟩, hpair, hmade⟩ :=
      Grouping.exists_left_of_forall₂ (Family.forall₂_of_mapM h) hfilter
    refine ⟨(name, text), hpair, ?_⟩
    dsimp only at hmade ⊢
    cases htest : op.test E text with
    | error e =>
      rw [htest] at hmade
      cases hmade
    | ok test =>
      rw [htest] at hmade
      obtain rfl := Except.ok.inj hmade
      exact ⟨rfl, rfl⟩

/-- The labels of a group pass a filter on a grouping name exactly if those of its members do, when
a member without the name is grouped under a value that the filter refuses. -/
theorem acceptsLabels_project {filter : LabelFilter E} {names : List String}
    (hname : filter.name ∈ names) {labels : LabelSet}
    (hempty : (labels.get? filter.name).isSome = true ∨ filter.test.holds "" = false) :
    filter.acceptsLabels (labels.project names) = filter.acceptsLabels labels := by
  unfold acceptsLabels
  rw [LabelSet.get?_project, if_pos hname]
  cases hvalue : labels.get? filter.name with
  | some value => rfl
  | none =>
    rw [hvalue] at hempty
    rcases hempty with h | h
    · cases h
    · exact h

end LabelFilter

namespace Family

open Grouping

/-- The samples of a list that pass a test are those of its family. -/
theorem filter_ofSamples (context : Context) (samples : List Sample) (keep : Sample → Bool) :
    (ofSamples context samples).filter keep = ofSamples context (samples.filter keep) := by
  by_cases hnil : samples = []
  · subst hnil
    rfl
  · conv_lhs => rw [ofSamples, dif_neg hnil]
    rfl

/-- A test on labels keeps the samples of an aggregate that are made of the groups whose labels pass
it. -/
theorem filter_reduced (how : Reduction) (names : List String) (samples : List Sample)
    (keep : LabelSet → Bool) :
    (reduced how names samples).filter (fun s => keep s.labels) =
      reduced how names (samples.filter fun s => keep (groupKey names s)) := by
  unfold reduced tallies
  rw [List.filter_map, collect_filter]
  rfl

/-- A filter on grouping names gives the same before and after grouping, for arguments that are
refused too, if each sample has the names of the filter or the filter refuses the empty value. -/
theorem matchLabels_aggregate (E : PatternEngine) (f : Family) (how : Reduction)
    (names : List String) (op : LabelComparison) (arguments : List String)
    (hnames : ∀ pair ∈ LabelFilter.pairUp arguments, pair.1 ∈ names)
    (hempty : ∀ pair ∈ LabelFilter.pairUp arguments, ∀ s ∈ f.samples,
      (s.label? pair.1).isSome = true ∨
        ∀ test, op.test E pair.2 = .ok test → test.holds "" = false) :
    (f.aggregate how (some names)).matchLabels E op arguments =
      (f.matchLabels E op arguments).map fun g => g.aggregate how (some names) := by
  unfold matchLabels
  cases hfilters : LabelFilter.ofArguments E op arguments with
  | error e => rfl
  | ok filters =>
    let keep := fun labels : LabelSet => filters.all fun filter => filter.acceptsLabels labels
    -- What the filters say of a sample they say of the group that it is in.
    have hkeep : ∀ s ∈ f.samples, keep (groupKey names s) = keep s.labels := by
      intro s hs
      have heach : ∀ filter ∈ filters,
          filter.acceptsLabels (groupKey names s) = filter.acceptsLabels s.labels := by
        intro filter hfilter
        obtain ⟨pair, hpair, hname, htest⟩ :=
          LabelFilter.exists_pair_of_ofArguments hfilters hfilter
        refine LabelFilter.acceptsLabels_project (hname ▸ hnames pair hpair) ?_
        rcases hempty pair hpair s hs with hlabel | hrefused
        · exact .inl (hname ▸ hlabel)
        · exact .inr (hrefused filter.test htest)
      rw [Bool.eq_iff_iff, List.all_eq_true, List.all_eq_true]
      exact forall₂_congr fun filter hfilter => by rw [heach filter hfilter]
    show Except.ok ((f.aggregate how (some names)).filter fun s => keep s.labels) =
      Except.ok ((f.filter fun s => keep s.labels).aggregate how (some names))
    congr 1
    cases f with
    | empty => rfl
    | populated batch =>
      have hsame : (batch.samples.filter fun s => keep (groupKey names s)) =
          batch.samples.filter fun s => keep s.labels := List.filter_congr hkeep
      rw [populated_eq_ofSamples, aggregate_ofSamples, filter_ofSamples, filter_ofSamples,
        aggregate_ofSamples, Option.getD_some, filter_reduced, hsame]

/-- Of four samples, one of which lacks the name of the filter, the sums by two names leave the same
one group whether they are filtered before or after. -/
theorem matchLabels_aggregate_missing_name :
    let series (service zone : String) : LabelSet :=
      .ofPairs [("service", service), ("zone", zone)]
    let f := populated ⟨[⟨series "x" "a", 1000, 3.0⟩, ⟨.ofPairs [("zone", "a")], 2000, 5.0⟩,
      ⟨series "y" "a", 3000, 6.0⟩, ⟨series "x" "a", 4000, 4.0⟩], {}, by simp⟩
    (f.aggregate .sum (some ["service", "zone"])).matchLabels Pattern.engine .fits
        ["service", "x|z"] = .ok (populated ⟨[⟨series "x" "a", 1000, 7.0⟩], {}, by simp⟩) := by
  intro series f
  let p : Pattern.engine.Pattern := Pattern.mk "^(?:x|z)$" (.seq (.look .textStart)
    (.seq (.alt (.one (.single 'x')) (.one (.single 'z'))) (.look .textEnd))) []
  have htest : LabelComparison.fits.test Pattern.engine "x|z" = .ok (.fits p) := rfl
  have hrefused : (LabelTest.fits p).holds "" = false := by decide +kernel
  have hpairs : LabelFilter.pairUp ["service", "x|z"] = [("service", "x|z")] := rfl
  have hfilters : LabelFilter.ofArguments Pattern.engine .fits ["service", "x|z"] =
      .ok [⟨"service", .fits p⟩] := rfl
  have hx : (series "x" "a").get? "service" = some "x" := by cbv
  have hy : (series "y" "a").get? "service" = some "y" := by cbv
  have hmissing : (LabelSet.ofPairs [("zone", "a")]).get? "service" = none := by cbv
  have hzone : (series "x" "a").get? "zone" = some "a" := by cbv
  have hkey : (series "x" "a").project ["service", "zone"] = series "x" "a" := by
    simp [LabelSet.project, LabelSet.getD, hx, hzone, series]
  have hsum : (0.0 + 3.0 + 4.0 : Float) = 7.0 := by decide +kernel
  refine (matchLabels_aggregate Pattern.engine f .sum ["service", "zone"] .fits ["service", "x|z"]
    ?_ ?_).trans ?_
  · rw [hpairs]
    simp
  · rw [hpairs]
    simp only [List.mem_singleton, forall_eq]
    intro s _
    refine .inr fun test h => ?_
    obtain rfl := Except.ok.inj (htest.symm.trans h)
    exact hrefused
  · have hkept : f.filter (fun s => [LabelFilter.mk "service" (.fits p)].all (·.accepts s)) =
        populated ⟨[⟨series "x" "a", 1000, 3.0⟩, ⟨series "x" "a", 4000, 4.0⟩], {}, by simp⟩ := by
      have hacceptsx : (LabelTest.fits p).holds "x" = true := by decide +kernel
      have hacceptsy : (LabelTest.fits p).holds "y" = false := by decide +kernel
      simp [f, filter, LabelFilter.accepts, Sample.label?, hx, hy, hmissing, hacceptsx, hacceptsy,
        ofSamples]
    rw [matchLabels, hfilters]
    show Except.ok ((f.filter _).aggregate .sum (some ["service", "zone"])) = _
    rw [hkept, ← hsum]
    simp [aggregate, tallies, groupLabels, collect, alter, hkey, ofSamples, Tally.push,
      Tally.ofFirst, Tally.value]

end Family

end MetricAlgebra
