import MetricAlgebra.Histogram
import MetricAlgebra.Proofs.Binary64
import MetricAlgebra.Proofs.FloatOrder
import MetricAlgebra.Proofs.Grouping
import MetricAlgebra.Proofs.Operator

/-!
# Cumulative buckets and the counts of intervals

What a histogram of cumulative buckets is turned into is said without the accumulators that carry
the last bound and the last count from bucket to bucket: in each group of samples that differ in
their bounds alone, the buckets are sorted stably by bounds, and each is put next to the one before
it (`Histogram.Deaccumulates`). A family is turned into the intervals of its groups, unless some
bound cannot be read, of which the first is the failure (`Family.histogram_eq_intervals`).
-/

namespace MetricAlgebra

open Binary64 Grouping

namespace Histogram

/-! ## Bounds -/

/-- The bound that a text writes, if it is a number. -/
def bound? (raw : String) : Option Float :=
  (Decimal.float? (Text.trim raw)).filter fun bound => !bound.isNaN

/-- Reading a bound gives it, or else a failure that has the text as it stands. -/
theorem readBound_eq (raw : String) :
    readBound raw = (bound? raw).elim (.error (.invalidBound raw)) .ok := by
  unfold readBound bound?
  cases Decimal.float? (Text.trim raw) with
  | none => rfl
  | some bound =>
    cases hnan : bound.isNaN with
    | true =>
      rw [Option.filter_some_neg (by rw [hnan]; decide)]
      exact if_pos hnan
    | false =>
      rw [Option.filter_some_pos (by rw [hnan]; decide)]
      exact if_neg (by rw [hnan]; decide)

/-- The bucket that a sample is, if it has a bound that can be read. -/
def bucket? (label : String) (s : Sample) : Option Bucket :=
  (s.label? label).bind fun raw => (bound? raw).map fun bound => ⟨bound, s⟩

/-- The bound of a bucket is a number. -/
theorem isNaN_bound {label : String} {s : Sample} {b : Bucket} (h : bucket? label s = some b) :
    b.bound.isNaN = false := by
  obtain ⟨raw, -, hbucket⟩ := Option.bind_eq_some_iff.1 h
  obtain ⟨bound, hbound, rfl⟩ := Option.map_eq_some_iff.1 hbucket
  have hnumber := (Option.filter_eq_some_iff.1 hbound).2
  exact Bool.not_eq_true' _ ▸ hnumber

/-- Going through a list with a step that can fail ends at the first item that the step fails for,
and otherwise gives all of the results. -/
theorem mapM_eq_of_option {ε α β : Type} (g? : α → Option β) (err : α → ε) (items : List α) :
    items.mapM (fun a => (g? a).elim (Except.error (err a)) Except.ok) =
      (items.find? fun a => (g? a).isNone).elim (Except.ok (items.filterMap g?))
        fun a => Except.error (err a) := by
  induction items with
  | nil => rfl
  | cons a items ih =>
    rw [List.mapM_cons, ih]
    cases ha : g? a with
    | none =>
      rw [List.find?_cons_of_pos (by simp [ha])]
      rfl
    | some b =>
      rw [List.find?_cons_of_neg (by simp [ha]), List.filterMap_cons_some ha]
      cases items.find? fun a => (g? a).isNone <;> rfl

/-- The groups of a list of samples are those of its buckets, unless some bound cannot be read. -/
theorem groups_eq (label : String) (samples : List Sample) :
    groups label samples =
      ((samples.filterMap (·.label? label)).find? fun raw => (bound? raw).isNone).elim
        (.ok (parts (fun b => b.sample.labels.erase label) (samples.filterMap (bucket? label))))
        fun raw => .error (.invalidBound raw) := by
  -- What the step goes through are the texts of bounds, next to the samples that have them.
  let pairs := samples.filterMap fun s => (s.label? label).map fun raw => (raw, s)
  let step : String × Sample → Except Error Bucket := fun pair =>
    (readBound pair.1).map fun bound => ⟨bound, pair.2⟩
  let read : String × Sample → Option Bucket := fun pair =>
    (bound? pair.1).map fun bound => ⟨bound, pair.2⟩
  have hraws : samples.filterMap (·.label? label) = pairs.map Prod.fst := by
    rw [List.map_filterMap]
    exact congrArg (samples.filterMap ·) (funext fun s => by cases s.label? label <;> rfl)
  have hbuckets : samples.filterMap (bucket? label) = pairs.filterMap read := by
    rw [List.filterMap_filterMap]
    exact congrArg (samples.filterMap ·) (funext fun s => by
      unfold bucket?
      cases s.label? label <;> rfl)
  have hstep : step = fun pair =>
      (read pair).elim (Except.error (.invalidBound pair.1)) Except.ok := by
    funext pair
    show (readBound pair.1).map _ = ((bound? pair.1).map _).elim _ _
    rw [readBound_eq]
    cases bound? pair.1 <;> rfl
  have hunread : (fun pair => (read pair).isNone) =
      (fun raw => (bound? raw).isNone) ∘ Prod.fst := by
    funext pair
    exact Option.isNone_map
  have hmapM := mapM_eq_of_option read (fun pair => Error.invalidBound pair.1) pairs
  rw [← hstep, hunread] at hmapM
  show (pairs.mapM step >>= fun buckets => pure _) = _
  rw [hmapM, hraws, List.find?_map, hbuckets, parts_eq_collect]
  cases pairs.find? ((fun raw => (bound? raw).isNone) ∘ Prod.fst) <;> rfl

/-! ## Stable sorting -/

section StableSorting

variable {α : Type} {key : α → ℤ}

/-- Whether a list is another one in rising order of keys, where members with the same key stay in
their order. -/
structure StablySorted (key : α → ℤ) (members sorted : List α) : Prop where
  /-- The members are the same. -/
  perm : sorted.Perm members
  /-- The keys do not fall. -/
  ascending : sorted.Pairwise fun a b => key a ≤ key b
  /-- Those of one key come in the same order. -/
  stable : ∀ k, (sorted.filter fun a => key a = k) = members.filter fun a => key a = k

/-- What is among the items of a list is among those of a list that has the same for each key. -/
theorem mem_of_filter_eq {as bs : List α}
    (h : ∀ k, (as.filter fun a => key a = k) = bs.filter fun a => key a = k) {a : α}
    (ha : a ∈ as) : a ∈ bs := by
  have hself : a ∈ as.filter fun b => key b = key a := List.mem_filter.2 ⟨ha, by simp⟩
  rw [h] at hself
  exact (List.mem_filter.1 hself).1

/-- Ascending lists that have the same items for each key, in the same order, are the same. -/
theorem eq_of_ascending {as bs : List α}
    (has : as.Pairwise fun a b => key a ≤ key b) (hbs : bs.Pairwise fun a b => key a ≤ key b)
    (h : ∀ k, (as.filter fun a => key a = k) = bs.filter fun a => key a = k) : as = bs := by
  induction as generalizing bs with
  | nil =>
    cases bs with
    | nil => rfl
    | cons b bs =>
      cases mem_of_filter_eq (fun k => (h k).symm) (List.mem_cons_self : b ∈ b :: bs)
  | cons a as ih =>
    cases bs with
    | nil => cases mem_of_filter_eq h (List.mem_cons_self : a ∈ a :: as)
    | cons b bs =>
      obtain ⟨ha, hrest⟩ := List.pairwise_cons.1 has
      obtain ⟨hb, hrest'⟩ := List.pairwise_cons.1 hbs
      -- Both first items have the least key, and are the first ones of that key.
      have hle : key a ≤ key b := by
        rcases List.mem_cons.1 (mem_of_filter_eq (fun k => (h k).symm) List.mem_cons_self) with
          heq | hmem
        · rw [heq]
        · exact ha b hmem
      have hge : key b ≤ key a := by
        rcases List.mem_cons.1 (mem_of_filter_eq h List.mem_cons_self) with heq | hmem
        · rw [heq]
        · exact hb a hmem
      have hkey : key b = key a := le_antisymm hge hle
      have hfirst := h (key a)
      rw [List.filter_cons_of_pos (by simp), List.filter_cons_of_pos (by simp [hkey])] at hfirst
      obtain ⟨rfl, -⟩ := List.cons.inj hfirst
      refine congrArg (a :: ·) (ih hrest hrest' fun k => ?_)
      have hk := h k
      by_cases hak : key a = k
      · rw [List.filter_cons_of_pos (by simp [hak]), List.filter_cons_of_pos (by simp [hak])] at hk
        exact (List.cons.inj hk).2
      · rw [List.filter_cons_of_neg (by simp [hak]), List.filter_cons_of_neg (by simp [hak])] at hk
        exact hk

/-- A list is sorted stably in one way. -/
theorem StablySorted.unique {members sorted sorted' : List α}
    (h : StablySorted key members sorted) (h' : StablySorted key members sorted') :
    sorted = sorted' :=
  eq_of_ascending h.ascending h'.ascending fun k => (h.stable k).trans (h'.stable k).symm

/-- Merging sorts stably. -/
theorem stablySorted_mergeSort (key : α → ℤ) (items : List α) :
    StablySorted key items (items.mergeSort fun a b => key a ≤ key b) := by
  let le := fun a b => decide (key a ≤ key b)
  have htrans : ∀ a b c, le a b = true → le b c = true → le a c = true := by
    intro a b c hab hbc
    exact decide_eq_true ((of_decide_eq_true hab).trans (of_decide_eq_true hbc))
  have htotal : ∀ a b, (le a b || le b a) = true := by
    intro a b
    rw [Bool.or_eq_true, decide_eq_true_iff, decide_eq_true_iff]
    exact le_total _ _
  refine ⟨List.mergeSort_perm items le, ?_, fun k => ?_⟩
  · exact (List.pairwise_mergeSort htrans htotal items).imp of_decide_eq_true
  · refine Search.filter_mergeSort htrans htotal (fun a b ha hb => ?_) items
    exact decide_eq_true ((of_decide_eq_true ha).trans (of_decide_eq_true hb).symm).le

end StableSorting

/-! ## Intervals -/

/-- The interval that ends at a bucket, from the bound and the count below it: it is labelled with
that bound in whole milliseconds, and has the count of the bucket without the one below. -/
def interval (label : String) (unit : TimeUnit) (series : LabelSet) (below : Float × Float)
    (b : Bucket) : Sample :=
  ⟨series.insert label (Int.repr (saturated (below.1 * Float.ofNat unit.millis))),
    b.sample.timestamp, b.sample.value - below.2⟩

/-- Whether samples are the intervals of some buckets: these are sorted stably by their bounds,
which do not fall as numbers then, and each gives the interval from the bucket before it, the first
one that from zero. -/
def Deaccumulates (label : String) (unit : TimeUnit) (series : LabelSet) (members : List Bucket)
    (made : List Sample) : Prop :=
  ∃ sorted, StablySorted (fun b => orderKey b.bound) members sorted ∧
    (sorted.Pairwise fun a b => a.bound ≤ b.bound) ∧
    made = List.zipWith (interval label unit series)
      ((0.0, 0.0) :: sorted.map fun b => (b.bound, b.sample.value)) sorted

/-- Going through buckets with the last bound and the last count puts each of them next to the one
before it. -/
theorem intervals_eq_zipWith (series : LabelSet) (label : String) (unit : TimeUnit)
    (bound count : Float) (buckets : List Bucket) :
    intervals series label unit.millis bound count buckets =
      List.zipWith (interval label unit series)
        ((bound, count) :: buckets.map fun b => (b.bound, b.sample.value)) buckets := by
  induction buckets generalizing bound count with
  | nil => rfl
  | cons b rest ih =>
    rw [intervals, ih, List.map_cons, List.zipWith_cons_cons, interval, ← toInt_truncate]
    rfl

/-- The intervals of a histogram are those of its buckets. -/
theorem deaccumulates_deaccumulate (label : String) (unit : TimeUnit) (series : LabelSet)
    {members : List Bucket} (hmembers : ∀ b ∈ members, b.bound.isNaN = false) :
    Deaccumulates label unit series members (deaccumulate label unit.millis series members) := by
  have hsorted : StablySorted (fun b => orderKey b.bound) members (sortBuckets members) :=
    stablySorted_mergeSort _ members
  refine ⟨sortBuckets members, hsorted, ?_, intervals_eq_zipWith ..⟩
  refine hsorted.ascending.imp_of_mem fun ha hb hle => ?_
  have ha := hmembers _ (hsorted.perm.mem_iff.1 ha)
  have hb := hmembers _ (hsorted.perm.mem_iff.1 hb)
  exact le_of_orderKey_le ha hb hle

/-- Buckets have one list of intervals. -/
theorem Deaccumulates.unique {label : String} {unit : TimeUnit} {series : LabelSet}
    {members : List Bucket} {made made' : List Sample}
    (h : Deaccumulates label unit series members made)
    (h' : Deaccumulates label unit series members made') : made = made' := by
  obtain ⟨sorted, hsorted, -, rfl⟩ := h
  obtain ⟨sorted', hsorted', -, rfl⟩ := h'
  rw [hsorted.unique hsorted']

/-- There are as many intervals as buckets. -/
theorem length_deaccumulate (label : String) (unit : TimeUnit) (series : LabelSet)
    (members : List Bucket) :
    (deaccumulate label unit.millis series members).length = members.length := by
  have hsorted : (sortBuckets members).length = members.length :=
    (List.mergeSort_perm members _).length_eq
  rw [deaccumulate, intervals_eq_zipWith, List.length_zipWith, List.length_cons, List.length_map]
  omega

/-- The intervals of all histograms among some buckets, one histogram after the other. -/
def allIntervals (label : String) (unit : TimeUnit) (buckets : List Bucket) : List Sample :=
  (buckets.map fun b => b.sample.labels.erase label).eraseDups.flatMap fun series =>
    deaccumulate label unit.millis series
      (buckets.filter fun b => b.sample.labels.erase label = series)

/-- No bucket is lost or used twice. -/
theorem length_allIntervals (label : String) (unit : TimeUnit) (buckets : List Bucket) :
    (allIntervals label unit buckets).length = buckets.length := by
  have hsum := sum_length_parts (fun b : Bucket => b.sample.labels.erase label) buckets
  rw [parts, List.map_map] at hsum
  rw [allIntervals, List.length_flatMap]
  simp only [length_deaccumulate]
  exact hsum

/-- If all bounds can be read, the buckets are the samples that have one. -/
theorem map_sample_bucket? {label : String} {samples : List Sample}
    (h : ∀ raw ∈ samples.filterMap (·.label? label), (bound? raw).isSome = true) :
    (samples.filterMap (bucket? label)).map (·.sample) =
      samples.filter fun s => (s.label? label).isSome := by
  rw [List.map_filterMap, ← List.filterMap_eq_filter]
  refine List.filterMap_congr fun s hs => ?_
  unfold bucket?
  cases hraw : s.label? label with
  | none => simp [Option.guard, hraw]
  | some raw =>
    obtain ⟨bound, hbound⟩ := Option.isSome_iff_exists.1
      (h raw (List.mem_filterMap.2 ⟨s, hs, hraw⟩))
    simp [Option.guard, hraw, hbound]

end Histogram

/-! ## Families -/

namespace Family

open Histogram

/-- The samples of a family with data are turned into the intervals of its buckets, unless some
bound cannot be read. -/
theorem histogram_populated (batch : Batch) (label : String) {unit : TimeUnit}
    (hunit : 0 < unit.millis) :
    (populated batch).histogram label unit =
      ((batch.samples.filterMap (·.label? label)).find? fun raw => (bound? raw).isNone).elim
        (.ok (ofSamples { batch.context with isHistogram := true }
          (allIntervals label unit (batch.samples.filterMap (bucket? label)))))
        fun raw => .error (.invalidBound raw) := by
  unfold histogram
  rw [if_neg hunit.ne']
  dsimp only
  rw [groups_eq]
  cases (batch.samples.filterMap (·.label? label)).find? fun raw => (bound? raw).isNone with
  | some raw => rfl
  | none =>
    show Except.ok (ofSamples _ ((parts _ _).flatMap _)) = _
    rw [parts, List.flatMap_map]
    rfl

/-- A family of cumulative buckets is turned into the intervals between their bounds. Samples
without the label of the bounds are left out. The first bound that is no number, in the order of the
samples, is the failure. Otherwise the samples are those of one histogram after the other, by the
remaining labels in the order in which these first appear: as many as there are buckets, none at all
if there are none, and marked as a histogram. -/
theorem histogram_eq_intervals (f : Family) (label : String) (unit : TimeUnit)
    (hunit : 0 < unit.millis) :
    let raws := f.samples.filterMap (·.label? label)
    let buckets := f.samples.filterMap (bucket? label)
    let series := fun b : Bucket => b.sample.labels.erase label
    (∀ raw, (raws.find? fun raw => (bound? raw).isNone) = some raw →
      f.histogram label unit = .error (.invalidBound raw)) ∧
    ((∀ raw ∈ raws, (bound? raw).isSome = true) →
      ∃ (g : Family) (made : LabelSet → List Sample), f.histogram label unit = .ok g ∧
        buckets.map (·.sample) = (f.samples.filter fun s => (s.label? label).isSome) ∧
        (∀ labels block, Deaccumulates label unit labels
          (buckets.filter fun b => series b = labels) block ↔ block = made labels) ∧
        g.samples = (buckets.map series).eraseDups.flatMap made ∧
        g.samples.length = buckets.length ∧ (buckets = [] → g = empty) ∧
        (buckets ≠ [] →
          g.context? = f.context?.map fun context => { context with isHistogram := true })) := by
  intro raws buckets series
  -- Sorting and going through a histogram gives its one list of intervals.
  have hintervals (labels : LabelSet) (block : List Sample) : Deaccumulates label unit labels
      (buckets.filter fun b => series b = labels) block ↔
        block = deaccumulate label unit.millis labels
          (buckets.filter fun b => series b = labels) := by
    have hnumbers : ∀ b ∈ buckets.filter fun b => series b = labels, b.bound.isNaN = false := by
      intro b hb
      obtain ⟨s, -, hs⟩ := List.mem_filterMap.1 (List.mem_filter.1 hb).1
      exact isNaN_bound hs
    have hmade := deaccumulates_deaccumulate label unit labels hnumbers
    exact ⟨fun h => h.unique hmade, fun h => h ▸ hmade⟩
  cases f with
  | empty =>
    refine ⟨fun raw hraw => absurd hraw (Option.some_ne_none raw).symm, fun _ => ?_⟩
    exact ⟨empty, _, if_neg hunit.ne', rfl, hintervals, rfl, rfl, fun _ => rfl, fun _ => rfl⟩
  | populated batch =>
    refine ⟨fun raw hraw => ?_, fun hread => ?_⟩
    · rw [histogram_populated batch label hunit]
      rw [show (batch.samples.filterMap (·.label? label)).find? _ = some raw from hraw]
      rfl
    · have hnone : (raws.find? fun raw => (bound? raw).isNone) = none := by
        rw [List.find?_eq_none]
        intro raw hraw
        simp [Option.isSome_iff_ne_none.1 (hread raw hraw)]
      have hlength := length_allIntervals label unit buckets
      refine ⟨ofSamples { batch.context with isHistogram := true }
        (allIntervals label unit buckets), _, ?_, map_sample_bucket? hread, hintervals, ?_, ?_,
        fun hnil => ?_, fun hnonempty => ?_⟩
      · rw [histogram_populated batch label hunit]
        rw [show (batch.samples.filterMap (·.label? label)).find? _ = none from hnone]
        rfl
      · rw [samples_ofSamples]
        rfl
      · rw [samples_ofSamples, hlength]
      · rw [hnil]
        rfl
      · have hmade : allIntervals label unit buckets ≠ [] := by
          rw [← List.length_pos_iff, hlength]
          exact List.length_pos_iff.2 hnonempty
        rw [context?_ofSamples hmade]
        rfl

/-- Of three samples one has no bound; the two others are put in order, and their second count is
less the first. -/
theorem histogram_eq_intervals_two_buckets :
    let bucket (bound : String) : LabelSet := .ofPairs [("le", bound), ("service", "x")]
    let f := populated ⟨[⟨bucket "2.5", 1000, 7.0⟩, ⟨.ofPairs [("service", "x")], 2000, 9.0⟩,
      ⟨bucket " 1 ", 3000, 3.0⟩], {}, by simp⟩
    0 < TimeUnit.seconds.millis ∧ ∃ g, f.histogram "le" .seconds = .ok g ∧
      g.samples = [⟨bucket "0", 3000, 3.0⟩, ⟨bucket "1000", 1000, 4.0⟩] := by
  intro bucket f
  let first : Bucket := ⟨1.0, ⟨bucket " 1 ", 3000, 3.0⟩⟩
  let second : Bucket := ⟨2.5, ⟨bucket "2.5", 1000, 7.0⟩⟩
  have hunit : 0 < TimeUnit.seconds.millis := by decide
  have hone : bound? " 1 " = some 1.0 := by decide +kernel
  have htwo : bound? "2.5" = some 2.5 := by decide +kernel
  have hlabel1 : (bucket " 1 ").get? "le" = some " 1 " := by cbv
  have hlabel2 : (bucket "2.5").get? "le" = some "2.5" := by cbv
  have hmissing : (LabelSet.ofPairs [("service", "x")]).get? "le" = none := by cbv
  have herase1 : (bucket " 1 ").erase "le" = .ofPairs [("service", "x")] := LabelSet.ext (by cbv)
  have herase2 : (bucket "2.5").erase "le" = .ofPairs [("service", "x")] := LabelSet.ext (by cbv)
  have hraws : f.samples.filterMap (·.label? "le") = ["2.5", " 1 "] := by
    simp [f, samples, Sample.label?, hlabel1, hlabel2, hmissing]
  have hbuckets : f.samples.filterMap (bucket? "le") = [second, first] := by
    simp [f, samples, bucket?, Sample.label?, hlabel1, hlabel2, hmissing, hone, htwo, first, second]
  have hlow : saturated (0.0 * Float.ofNat TimeUnit.seconds.millis) = 0 := by
    rw [← toInt_truncate]
    decide +kernel
  have hhigh : saturated (1.0 * Float.ofNat TimeUnit.seconds.millis) = 1000 := by
    rw [← toInt_truncate]
    decide +kernel
  have hzero : (LabelSet.ofPairs [("service", "x")]).insert "le" (Int.repr 0) = bucket "0" :=
    LabelSet.ext (by cbv)
  have hthousand : (LabelSet.ofPairs [("service", "x")]).insert "le" (Int.repr 1000) =
      bucket "1000" := LabelSet.ext (by cbv)
  have hthree : (3.0 - 0.0 : Float) = 3.0 := by decide +kernel
  have hfour : (7.0 - 3.0 : Float) = 4.0 := by decide +kernel
  have hkeys : orderKey first.bound < orderKey second.bound := by decide +kernel
  have hbounds : first.bound ≤ second.bound := by decide +kernel
  have hsorted : StablySorted (fun b => orderKey b.bound) [second, first] [first, second] := by
    refine ⟨List.Perm.swap _ _ _, by simp [hkeys.le], fun k => ?_⟩
    by_cases hfirst : orderKey first.bound = k
    · have hsecond : orderKey second.bound ≠ k := fun heq => hkeys.ne (hfirst.trans heq.symm)
      simp [hfirst, hsecond]
    · simp [List.filter_cons, hfirst]
  have hblock : Deaccumulates "le" .seconds (.ofPairs [("service", "x")]) [second, first]
      [⟨bucket "0", 3000, 3.0⟩, ⟨bucket "1000", 1000, 4.0⟩] := by
    refine ⟨[first, second], hsorted, by simp [hbounds], ?_⟩
    simp only [List.map_cons, List.map_nil, List.zipWith_cons_cons, List.zipWith_nil_right,
      interval, first, second, hlow, hhigh, hzero, hthousand, hthree, hfour]
  obtain ⟨-, hok⟩ := histogram_eq_intervals f "le" .seconds hunit
  rw [hraws, hbuckets] at hok
  obtain ⟨g, made, hg, -, hmade, hsamples, -, -⟩ := hok (by simp [hone, htwo])
  have hmembers : [second, first].filter (fun b => b.sample.labels.erase "le" =
      LabelSet.ofPairs [("service", "x")]) = [second, first] := by
    simp [first, second, herase1, herase2]
  have hmade := (hmade (.ofPairs [("service", "x")]) _).1 (hmembers ▸ hblock)
  refine ⟨hunit, g, hg, ?_⟩
  rw [hsamples, hmade]
  simp [first, second, herase1, herase2, List.eraseDups_cons]

end Family

end MetricAlgebra
