import MetricAlgebra.Proofs.Histogram.Edge

/-!
# Series that stay apart

Intervals of one histogram are told apart by their lower ends in whole milliseconds, and these alone
decide whether the intervals of a family have distinct labels (`Family.histogram_series_nodup`):
bounds that differ by less than a millisecond can have the same integer part, and a bound below one
has that of zero. Bounds that are a millisecond apart, from each other and from zero, stay apart
(`Histogram.Spaced.nodup_edges`).
-/

namespace MetricAlgebra

namespace Grouping

/-- Items are distinct if those of each key are. -/
theorem nodup_iff_filter {α κ : Type} [DecidableEq κ] (key : α → κ) (items : List α) :
    items.Nodup ↔ ∀ k, (items.filter fun a => key a = k).Nodup := by
  refine ⟨fun h k => h.sublist List.filter_sublist, fun h => ?_⟩
  rw [List.nodup_iff_sublist]
  intro a ha
  -- Two equal items have one key, and are both kept.
  have hpair : [a, a].Sublist (items.filter fun b => key b = key a) := by
    have hkept := ha.filter fun b => decide (key b = key a)
    rwa [List.filter_eq_self.2 (by simp)] at hkept
  exact List.nodup_iff_sublist.1 (h (key a)) a hpair

end Grouping

open Binary64 Grouping

namespace Histogram

/-- Labels of intervals are the same only where the lower ends are. -/
theorem insert_repr_injective (series : LabelSet) (label : String) :
    Function.Injective fun n : ℤ => series.insert label (Int.repr n) := by
  intro m n hsame
  have hvalue := congrArg (·.get? label) hsame
  simp only [LabelSet.get?_insert, if_pos] at hvalue
  exact Int.repr_inj.1 (Option.some.inj hvalue)

/-- Whether the bounds of sorted buckets, apart from the last, are so far from each other and from
zero that whole milliseconds tell them apart. -/
structure Spaced (unit : TimeUnit) (sorted : List Bucket) : Prop where
  /-- Each of them is at least one millisecond, and has a bit left behind the point. -/
  bounded : ∀ b ∈ sorted.dropLast, ∃ q, toRat? b.bound = some q ∧ 1 ≤ q * unit.millis ∧
    q * unit.millis ≤ 2 ^ 52
  /-- Each of them is at least one millisecond below those behind it. -/
  apart : sorted.dropLast.Pairwise fun a b => ∀ p q, toRat? a.bound = some p →
    toRat? b.bound = some q → p * unit.millis + 1 ≤ q * unit.millis

/-- The lower end above a bound of at least one millisecond is not zero. -/
theorem edge_pos {unit : TimeUnit} {bound : Float} {q : ℚ} (h : toRat? bound = some q)
    (hone : 1 ≤ q * unit.millis) (hle : q * unit.millis ≤ 2 ^ 52) : 0 < edge unit bound := by
  have hself : nearest ((1 : ℤ) : ℚ) = (1 : ℤ) := nearest_intCast (by norm_num)
  have hnearest : nearest ((1 : ℤ) : ℚ) ≤ nearest (q * unit.millis) := by
    refine nearest_mono ?_
    push_cast
    exact hone
  rw [hself] at hnearest
  rw [edge_eq h (by linarith) (by linarith)]
  exact Int.le_floor.2 hnearest

/-- The lower ends above bounds that are one millisecond apart are different. -/
theorem edge_lt_edge {unit : TimeUnit} {a b : Float} {p q : ℚ} (ha : toRat? a = some p)
    (hb : toRat? b = some q) (hone : 1 ≤ p * unit.millis)
    (hapart : p * unit.millis + 1 ≤ q * unit.millis) (hle : q * unit.millis ≤ 2 ^ 52) :
    edge unit a < edge unit b := by
  rw [edge_eq ha (by linarith) (by linarith), edge_eq hb (by linarith) (by linarith)]
  have hfloor := floor_nearest_add_one_le (by linarith : 0 < p * unit.millis) hapart hle
  omega

/-- The lower ends between some buckets are zero and those of all buckets but the last. -/
theorem edges_eq_cons (unit : TimeUnit) {sorted : List Bucket} (h : sorted ≠ []) :
    edges unit sorted = 0 :: sorted.dropLast.map fun b => edge unit b.bound := by
  cases sorted with
  | nil => exact absurd rfl h
  | cons b rest =>
    rw [edges, List.map_cons, List.dropLast_cons_cons, List.map_dropLast, List.map_cons]

/-- Bounds that are far enough from each other and from zero have distinct lower ends. -/
theorem Spaced.nodup_edges {unit : TimeUnit} {sorted : List Bucket} (h : Spaced unit sorted) :
    (edges unit sorted).Nodup := by
  rcases eq_or_ne sorted [] with rfl | hne
  · exact List.nodup_nil
  rw [edges_eq_cons unit hne, List.nodup_cons]
  constructor
  · -- Zero is the lower end of the first interval only.
    intro hzero
    obtain ⟨b, hb, hedge⟩ := List.mem_map.1 hzero
    obtain ⟨q, hq, hone, hle⟩ := h.bounded b hb
    exact (edge_pos hq hone hle).ne' hedge
  · rw [List.Nodup, List.pairwise_map]
    refine h.apart.imp_of_mem fun ha hb hapart => ?_
    obtain ⟨p, hp, hone, -⟩ := h.bounded _ ha
    obtain ⟨q, hq, -, hle⟩ := h.bounded _ hb
    exact (edge_lt_edge hp hq hone (hapart p q hp hq) hle).ne

end Histogram

namespace Family

open Histogram

/-- The labels of a family are distinct if those of each histogram are. -/
theorem nodup_labels_iff (g : Family) (label : String) :
    (g.samples.map (·.labels)).Nodup ↔
      ∀ series, ((g.blockOf label series).map (·.labels)).Nodup := by
  rw [nodup_iff_filter fun labels : LabelSet => labels.erase label]
  refine forall_congr' fun series => ?_
  rw [List.filter_map]
  rfl

/-- The labels of intervals are distinct if the lower ends in each histogram are. -/
theorem nodup_labels_histogram_iff {f g : Family} {label : String} {unit : TimeUnit}
    (h : f.histogram label unit = .ok g) :
    (g.samples.map (·.labels)).Nodup ↔ ∀ series sorted,
      StablySorted (fun b => orderKey b.bound) (f.bucketsOf label series) sorted →
        (edges unit sorted).Nodup := by
  rw [nodup_labels_iff g label]
  refine forall_congr' fun series => ?_
  have hmade := deaccumulates_blockOf h series
  constructor
  · intro hnodup sorted hsorted
    rw [hmade.map_labels hsorted] at hnodup
    exact hnodup.of_map _
  · intro hnodup
    obtain ⟨sorted, hsorted, -⟩ := deaccumulates_blockOf h series
    rw [hmade.map_labels hsorted]
    exact (hnodup sorted hsorted).map (insert_repr_injective series label)

/-- If all bounds can be read, the intervals of a family have distinct labels just where in each
histogram zero and the whole milliseconds of the bounds of all buckets but the last are distinct,
whatever the labels and the bounds of the buckets are; so they have if these bounds are one
millisecond apart from each other and from zero. -/
theorem histogram_series_nodup (f : Family) (label : String) (unit : TimeUnit)
    (hunit : 0 < unit.millis)
    (hread : ∀ raw ∈ f.samples.filterMap (·.label? label), (bound? raw).isSome = true) :
    ∃ g, f.histogram label unit = .ok g ∧
      ((g.samples.map (·.labels)).Nodup ↔ ∀ series sorted,
        StablySorted (fun b => orderKey b.bound) (f.bucketsOf label series) sorted →
          (edges unit sorted).Nodup) ∧
      ((∀ series sorted,
        StablySorted (fun b => orderKey b.bound) (f.bucketsOf label series) sorted →
          Spaced unit sorted) → (g.samples.map (·.labels)).Nodup) := by
  obtain ⟨g, hg, -⟩ := exists_histogram_eq_ok hunit hread
  have hiff := nodup_labels_histogram_iff hg
  exact ⟨g, hg, hiff, fun hspaced => hiff.2 fun series sorted hsorted =>
    (hspaced series sorted hsorted).nodup_edges⟩

/-- Two buckets, of which the first has a bound of half a second. -/
theorem histogram_series_nodup_two_buckets :
    let low : Sample := ⟨.ofPairs [("le", "0.5")], 1000, 3.0⟩
    let high : Sample := ⟨.ofPairs [("le", "2.5")], 1000, 7.0⟩
    let f := populated ⟨[low, high], {}, by simp⟩
    0 < TimeUnit.seconds.millis ∧
      (∀ raw ∈ f.samples.filterMap (·.label? "le"), (bound? raw).isSome = true) ∧
      ∃ g, f.histogram "le" .seconds = .ok g ∧ (g.samples.map (·.labels)).Nodup := by
  intro low high f
  have hlow : low.label? "le" = some "0.5" := by cbv
  have hhigh : high.label? "le" = some "2.5" := by cbv
  have hlowBound : bound? "0.5" = some 0.5 := by decide +kernel
  have hhighBound : bound? "2.5" = some 2.5 := by decide +kernel
  have hlowSeries : low.labels.erase "le" = .ofPairs [] := LabelSet.ext (by cbv)
  have hhighSeries : high.labels.erase "le" = .ofPairs [] := LabelSet.ext (by cbv)
  have hbuckets : f.buckets "le" = [⟨0.5, low⟩, ⟨2.5, high⟩] := by
    simp [f, buckets, samples, bucket?, hlow, hhigh, hlowBound, hhighBound]
  have hread : ∀ raw ∈ f.samples.filterMap (·.label? "le"), (bound? raw).isSome = true := by
    simp [f, samples, hlow, hhigh, hlowBound, hhighBound]
  have hkeys : orderKey 0.5 ≤ orderKey 2.5 := by decide +kernel
  have hedge : edge .seconds 0.5 = 500 := by
    rw [edge, ← toInt_truncate]
    decide +kernel
  have hunit : 0 < TimeUnit.seconds.millis := by decide
  obtain ⟨g, hg, hiff, -⟩ := histogram_series_nodup f "le" .seconds hunit hread
  refine ⟨hunit, hread, g, hg, hiff.2 fun series sorted hsorted => ?_⟩
  by_cases hseries : LabelSet.ofPairs [] = series
  · rw [← hseries] at hsorted
    have hself := stablySorted_bucketsOf (.ofPairs []) hbuckets
      (by simp [hlowSeries, hhighSeries]) (by simpa using hkeys)
    rw [hsorted.unique hself, edges]
    simp [hedge]
  · -- No bucket is of another histogram.
    have hnone : f.bucketsOf "le" series = [] := by
      rw [bucketsOf, hbuckets]
      simp [hlowSeries, hhighSeries, hseries]
    rw [hnone] at hsorted
    rw [hsorted.perm.eq_nil]
    exact List.nodup_nil

/-- Two buckets with distinct labels and distinct finite bounds, of which the first is less than one
millisecond, so that both intervals have the lower end zero. -/
theorem histogram_series_nodup_below_one :
    let low : Sample := ⟨.ofPairs [("le", "0.0005")], 1000, 3.0⟩
    let high : Sample := ⟨.ofPairs [("le", "2.5")], 1000, 7.0⟩
    let f := populated ⟨[low, high], {}, by simp⟩
    (f.samples.map (·.labels)).Nodup ∧
      (∀ b ∈ f.buckets "le", b.bound.isFinite = true) ∧
      (∀ series, (f.bucketsOf "le" series).Pairwise fun a b => ¬ a.bound == b.bound) ∧
      0 < TimeUnit.seconds.millis ∧
      ∃ g, f.histogram "le" .seconds = .ok g ∧ ¬ (g.samples.map (·.labels)).Nodup := by
  intro low high f
  have hlow : low.label? "le" = some "0.0005" := by cbv
  have hhigh : high.label? "le" = some "2.5" := by cbv
  have hlowBucket : bucket? "le" low = some ⟨0.0005, low⟩ :=
    bucket?_eq_some_iff.2 ⟨rfl, _, hlow, by decide +kernel⟩
  have hhighBucket : bucket? "le" high = some ⟨2.5, high⟩ :=
    bucket?_eq_some_iff.2 ⟨rfl, _, hhigh, by decide +kernel⟩
  have hlowSeries : low.labels.erase "le" = .ofPairs [] := LabelSet.ext (by cbv)
  have hhighSeries : high.labels.erase "le" = .ofPairs [] := LabelSet.ext (by cbv)
  have hunit : 0 < TimeUnit.seconds.millis := by decide
  obtain ⟨hbuckets, g, hg⟩ :=
    exists_histogram_of_forall₂ (f := f) hunit (.cons hlowBucket (.cons hhighBucket .nil))
  have hdistinct : low.labels ≠ high.labels := by
    intro hsame
    have hraw := congrArg (·.get? "le") hsame
    rw [show low.labels.get? "le" = some "0.0005" from hlow] at hraw
    rw [show high.labels.get? "le" = some "2.5" from hhigh] at hraw
    exact absurd hraw (by decide)
  have hfinite : (0.0005 : Float).isFinite = true ∧ (2.5 : Float).isFinite = true := by
    decide +kernel
  have hbounds : ¬ (0.0005 : Float) == 2.5 := by decide +kernel
  have hkeys : orderKey 0.0005 ≤ orderKey 2.5 := by decide +kernel
  have hedge : edge .seconds 0.0005 = 0 := by
    rw [edge, ← toInt_truncate]
    decide +kernel
  -- The second interval has the lower end of the first, which is zero.
  refine ⟨by simpa [f, samples] using hdistinct, ?_, fun series => ?_, hunit, g, hg, ?_⟩
  · rw [hbuckets]
    simpa using hfinite
  · rw [bucketsOf, hbuckets]
    exact List.Pairwise.filter _ (by simpa using hbounds)
  · rw [nodup_labels_histogram_iff hg]
    intro hnodup
    have hsorted := stablySorted_bucketsOf (.ofPairs []) hbuckets
      (by simp [hlowSeries, hhighSeries]) (by simpa using hkeys)
    have htwice := hnodup _ _ hsorted
    rw [edges] at htwice
    simp [hedge] at htwice

end Family

end MetricAlgebra
