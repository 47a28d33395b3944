import MetricAlgebra.Proofs.GroupBy
import MetricAlgebra.Proofs.WholeNumber

/-!
# Aggregates of aggregates

Grouping can go in two steps, by some names first and then by fewer of them. The samples that the
second step puts together are made of the groups into which the first one takes a coarse group
apart (`Family.forall₂_rollUp`), so that it is enough to compare, group by group, the value made in
two steps with the one made in one. Extremes of extremes are extremes, and the sum of the counts is
the count, as long as counts are exact (`Family.aggregate_aggregate`).
-/

namespace MetricAlgebra

open Binary64 Grouping

/-! ## Coarser groups -/

/-- Projecting onto names twice is projecting onto the names of the second projection, if these are
names of the first one. -/
theorem LabelSet.project_project {fine coarse : List String} (h : ∀ n ∈ coarse, n ∈ fine)
    (s : LabelSet) : (s.project fine).project coarse = s.project coarse := by
  refine ext_get? fun name => ?_
  rw [get?_project, get?_project, get?_project]
  by_cases hname : name ∈ coarse
  · -- A name that is missing has become one with the empty value.
    rw [if_pos hname, if_pos hname, if_pos (h name hname), Option.getD_some]
  · rw [if_neg hname, if_neg hname]

/-! ## Values of two steps -/

section Steps

variable {key : Sample → LabelSet} {members made : List Sample} {v w : Float}

/-- The first of the samples made of the groups of a list has the instant of its first member. -/
theorem Reduction.head?_timestamp_eq {how : Reduction}
    (hmade : List.Forall₂ how.MakesOf (parts key members) made) :
    made.head?.map (·.timestamp) = members.head?.map (·.timestamp) := by
  cases members with
  | nil =>
    cases hmade
    rfl
  | cons first rest =>
    obtain ⟨group, groups, hparts⟩ := exists_parts_cons key first rest
    rw [hparts] at hmade
    cases hmade with
    | cons hfirst _ => exact hfirst.timestamp_eq.symm

/-- An extreme of the extremes of the groups of a list is an extreme of the list. -/
theorem Binary64.IsExtreme.of_makesOf {how : Reduction} {r : Float → Float → Prop}
    (hmade : List.Forall₂ how.MakesOf (parts key members) made)
    (hreduces : ∀ xs x, how.Reduces xs x → IsExtreme r xs x)
    (htrans : ∀ x y z, r x y → r y z → r x z)
    (hv : IsExtreme r (made.map (·.value)) v) : IsExtreme r (members.map (·.value)) v := by
  refine hv.of_parts htrans ?_ ?_
  · -- The value of each sample is the extreme of a group, whose members are members of the list.
    intro w hw
    obtain ⟨m, hm, rfl⟩ := List.mem_map.1 hw
    obtain ⟨part, hpart, hmakes⟩ := exists_left_of_forall₂ hmade hm
    refine ⟨_, hreduces _ _ hmakes.reduces, fun x hx => ?_⟩
    obtain ⟨s, hs, rfl⟩ := List.mem_map.1 hx
    rw [(snd_eq_of_mem_parts hpart).1] at hs
    exact List.mem_map_of_mem (List.mem_filter.1 hs).1
  · -- Each member is in some group, of which one of the samples is made.
    intro x hx
    obtain ⟨s, hs, rfl⟩ := List.mem_map.1 hx
    have hcovered : s ∈ (parts key members).flatMap Prod.snd :=
      (flatMap_parts_perm key members).mem_iff.2 hs
    obtain ⟨part, hpart, hspart⟩ := List.mem_flatMap.1 hcovered
    obtain ⟨m, hm, hmakes⟩ := exists_right_of_forall₂ hmade hpart
    exact ⟨m.value, List.mem_map_of_mem hm, _, hreduces _ _ hmakes.reduces,
      List.mem_map_of_mem hspart⟩

/-- The sum of the counts of the groups of a list is the number of its members. -/
theorem Reduction.sum_count_eq (hmade : List.Forall₂ count.MakesOf (parts key members) made)
    (hlt : members.length < 2 ^ 53) :
    (made.map (·.value)).foldl (· + ·) 0.0 = Float.ofNat members.length := by
  have hvalues : made.map (·.value) =
      ((parts key members).map fun part => part.2.length).map Float.ofNat := by
    rw [List.map_map]
    refine (map_eq_of_forall₂ (fun part m hmakes => ?_) hmade).symm
    have hcount : m.value = Float.ofNat (part.2.map (·.value)).length := hmakes.reduces
    rw [hcount, List.length_map]
    rfl
  -- The counts are whole numbers below the number of members, so that nothing is rounded.
  have hsum := sum_length_parts key members
  have hadd := Decimal.foldl_add_ofNat ((parts key members).map fun part => part.2.length) 0
    (by omega)
  rw [hvalues, ← hsum]
  rwa [Nat.zero_add] at hadd

end Steps

/-! ## Families -/

/-- Whether two samples are the same but for values that are related. -/
structure Sample.SameBy (r : Float → Float → Prop) (s t : Sample) : Prop where
  /-- The labels are the same. -/
  labels_eq : s.labels = t.labels
  /-- The instants are the same. -/
  timestamp_eq : s.timestamp = t.timestamp
  /-- The values are related. -/
  value : r s.value t.value

namespace Family

/-- Whether two families are the same but for values that are related, sample by sample. -/
structure SameBy (r : Float → Float → Prop) (f g : Family) : Prop where
  /-- The contexts are the same, or both families are empty. -/
  context?_eq : f.context? = g.context?
  /-- The samples are the same in order, but for their values. -/
  samples : List.Forall₂ (Sample.SameBy r) f.samples g.samples

/-- What aggregates by coarser groups make of the aggregates of finer groups: of each coarse group,
the samples that its finer groups have given. -/
theorem forall₂_rollUp (inner outer : Reduction) {fine coarse : List String}
    (h : ∀ n ∈ coarse, n ∈ fine) (samples : List Sample) :
    List.Forall₂ (fun part made => ∃ steps,
        List.Forall₂ inner.MakesOf (parts (groupKey fine) part.2) steps ∧
          outer.MakesOf (part.1, steps) made)
      (parts (groupKey coarse) samples)
      (reduced outer coarse (reduced inner fine samples)) := by
  have hkey : (fun s : Sample => (groupKey fine s).project coarse) = groupKey coarse :=
    funext fun s => LabelSet.project_project h s.labels
  -- The samples of the first step have the labels of their groups, and are grouped like these.
  have hlabels : ∀ part s, inner.MakesOf part s → part.1.project coarse = groupKey coarse s :=
    fun part s hmakes => congrArg (·.project coarse) hmakes.labels_eq
  have hsteps := forall₂_parts hlabels (forall₂_reduced inner fine samples)
  rw [parts_parts (groupKey fine) (·.project coarse) samples, hkey,
    List.forall₂_map_left_iff] at hsteps
  refine (forall₂_of_common hsteps.flip (forall₂_reduced outer coarse _)).imp ?_
  rintro part made ⟨⟨labels, steps⟩, -, ⟨hlabels, hmade⟩, hmakes⟩
  dsimp only at hlabels hmade
  subst hlabels
  exact ⟨steps, hmade, hmakes⟩

/-- Aggregates in two steps are the same as in one but for their values, and these are related if
the values of each group are. -/
theorem sameBy_aggregate_aggregate {r : Float → Float → Prop} {inner outer whole : Reduction}
    {fine coarse : Option (List String)} (h : ∀ n ∈ coarse.getD [], n ∈ fine.getD []) (f : Family)
    (hvalue : ∀ members made v w, members.length ≤ f.samples.length →
      List.Forall₂ inner.MakesOf (parts (groupKey (fine.getD [])) members) made →
      outer.Reduces (made.map (·.value)) v → whole.Reduces (members.map (·.value)) w → r v w) :
    SameBy r ((f.aggregate inner fine).aggregate outer coarse) (f.aggregate whole coarse) := by
  constructor
  case context?_eq => rw [context?_aggregate, context?_aggregate, context?_aggregate]
  case samples =>
    rw [samples_aggregate, samples_aggregate, samples_aggregate]
    -- Sample by sample, both sides are made of the same coarse group.
    refine (forall₂_of_common (forall₂_rollUp inner outer h f.samples)
      (forall₂_reduced whole (coarse.getD []) f.samples)).imp ?_
    rintro made m ⟨⟨labels, members⟩, hpart, ⟨steps, hmade, hmakes⟩, hmakes'⟩
    obtain ⟨hmembers, -⟩ := snd_eq_of_mem_parts hpart
    dsimp only at hmembers hmade
    refine ⟨hmakes.labels_eq.symm.trans hmakes'.labels_eq, ?_, ?_⟩
    · have htimestamp := hmakes.timestamp_eq
      rw [Reduction.head?_timestamp_eq hmade] at htimestamp
      exact Option.some.inj (htimestamp.symm.trans hmakes'.timestamp_eq)
    · refine hvalue members steps _ _ ?_ hmade hmakes.reduces hmakes'.reduces
      rw [hmembers]
      exact List.length_filter_le _ _

/-- Families with the same values too are equal. -/
theorem SameBy.eq {f g : Family} (h : SameBy Eq f g) : f = g := by
  have hsamples : f.samples = g.samples := by
    have hsame := h.samples.imp (S := Eq) fun s t hst => by
      obtain ⟨labels, timestamp, value⟩ := s
      obtain ⟨rfl, rfl, rfl⟩ := hst
      rfl
    rwa [List.forall₂_eq_eq_eq] at hsame
  cases f with
  | empty =>
    cases g with
    | empty => rfl
    | populated b => cases h.context?_eq
  | populated a =>
    cases g with
    | empty => cases h.context?_eq
    | populated b =>
      obtain ⟨as, context, ha⟩ := a
      obtain ⟨bs, context', hb⟩ := b
      obtain rfl : as = bs := hsamples
      obtain rfl : context = context' := Option.some.inj h.context?_eq
      rfl

/-- Aggregating in two steps, by some names and then by some of these, gives what aggregating by the
latter alone gives: the greatest of the greatest values is the greatest, the least of the least
values is the least, both as numbers, and the sum of the counts is the count, if there are fewer
than `2 ^ 53` samples. -/
theorem aggregate_aggregate (f : Family) (fine coarse : Option (List String))
    (h : ∀ n ∈ coarse.getD [], n ∈ fine.getD []) :
    SameBy Alike ((f.aggregate .max fine).aggregate .max coarse) (f.aggregate .max coarse) ∧
    SameBy Alike ((f.aggregate .min fine).aggregate .min coarse) (f.aggregate .min coarse) ∧
    (f.samples.length < 2 ^ 53 →
      (f.aggregate .count fine).aggregate .sum coarse = f.aggregate .count coarse) := by
  refine ⟨?_, ?_, fun hsize => SameBy.eq ?_⟩
  · refine sameBy_aggregate_aggregate h f fun members made v w _ hmade hv hw => ?_
    have hextreme := IsExtreme.of_makesOf hmade (fun _ _ hx => hx) preference_greater.trans hv
    exact hextreme.alike preference_greater.antisymm hw
  · refine sameBy_aggregate_aggregate h f fun members made v w _ hmade hv hw => ?_
    have hextreme := IsExtreme.of_makesOf hmade (fun _ _ hx => hx) preference_less.trans hv
    exact hextreme.alike preference_less.antisymm hw
  · refine sameBy_aggregate_aggregate h f fun members made v w hlength hmade hv hw => ?_
    have hcount : w = Float.ofNat members.length := by
      rw [← List.length_map (·.value)]
      exact hw
    have hsum : v = (made.map (·.value)).foldl (· + ·) 0.0 := hv
    rw [hsum, hcount, Reduction.sum_count_eq hmade (by omega)]

/-- Three samples in two zones: the counts by service are the sums of the counts by service and
zone. -/
theorem aggregate_aggregate_two_zones :
    let series (service zone : String) : LabelSet :=
      .ofPairs [("service", service), ("zone", zone)]
    let byService (service : String) : LabelSet := .ofPairs [("service", service)]
    let f := populated ⟨[⟨series "x" "a", 1000, 3.0⟩, ⟨series "y" "a", 2000, 5.0⟩,
      ⟨series "x" "b", 3000, 4.0⟩], {}, by simp⟩
    (f.aggregate .count (some ["zone", "service"])).aggregate .sum (some ["service"]) =
      populated ⟨[⟨byService "x", 1000, 2.0⟩, ⟨byService "y", 2000, 1.0⟩], {}, by simp⟩ := by
  intro series byService f
  have hnames : ∀ n ∈ ["service"], n ∈ ["zone", "service"] := by decide
  obtain ⟨-, -, hcount⟩ :=
    aggregate_aggregate f (some ["zone", "service"]) (some ["service"]) hnames
  refine (hcount (by decide)).trans ?_
  have hxa : (series "x" "a").project ["service"] = byService "x" := LabelSet.ext (by cbv)
  have hya : (series "y" "a").project ["service"] = byService "y" := LabelSet.ext (by cbv)
  have hxb : (series "x" "b").project ["service"] = byService "x" := LabelSet.ext (by cbv)
  have hx : (byService "x").get? "service" = some "x" := by cbv
  have hy : (byService "y").get? "service" = some "y" := by cbv
  have hother : byService "x" ≠ byService "y" := fun heq => by
    rw [heq, hy] at hx
    exact absurd hx (by decide)
  have hone : Float.ofNat 1 = 1.0 := by decide +kernel
  have htwo : Float.ofNat 2 = 2.0 := by decide +kernel
  rw [← hone, ← htwo]
  simp [f, aggregate, tallies, groupLabels, collect, alter, hxa, hya, hxb, hother, ofSamples,
    Tally.push, Tally.ofFirst, Tally.value]

end Family

end MetricAlgebra
