import MetricAlgebra.Proofs.Deaccumulation
import MetricAlgebra.Proofs.FiniteMap

/-!
# The block of one histogram

Samples that agree in all labels but that of the bound make up one histogram, before and after its
buckets are turned into intervals. What a family is turned into has for each histogram the intervals
of its buckets, whatever other samples stand between these
(`Family.deaccumulates_blockOf`), and nothing else (`Family.samples_histogram`).
-/

namespace MetricAlgebra

namespace LabelSet

/-- A label that is put in can be dropped. -/
theorem erase_insert (s : LabelSet) (name value : String) :
    (s.insert name value).erase name = s.erase name := by
  refine ext_get? fun other => ?_
  rw [get?_erase, get?_erase, get?_insert]
  by_cases h : other = name
  · rw [if_pos h, if_pos h]
  · rw [if_neg h, if_neg h, if_neg h]

/-- A label that is dropped is not there to be dropped again. -/
theorem erase_erase (s : LabelSet) (name : String) :
    (s.erase name).erase name = s.erase name := by
  refine ext_get? fun other => ?_
  rw [get?_erase, get?_erase]
  by_cases h : other = name
  · rw [if_pos h, if_pos h]
  · rw [if_neg h]

end LabelSet

namespace Grouping

/-- Of blocks that are told apart by a key, the items of one key are one block. -/
theorem filter_flatMap_blocks {α κ : Type} [DecidableEq κ] {key : α → κ} {block : κ → List α}
    {ks : List κ} (hks : ks.Nodup) (hblock : ∀ k ∈ ks, ∀ a ∈ block k, key a = k) (k : κ) :
    ((ks.flatMap block).filter fun a => key a = k) = if k ∈ ks then block k else [] := by
  induction ks with
  | nil => rfl
  | cons first ks ih =>
    obtain ⟨hfirst, hks⟩ := List.nodup_cons.1 hks
    have ih := ih hks fun k hk => hblock k (List.mem_cons_of_mem _ hk)
    have hkey := hblock first List.mem_cons_self
    rw [List.flatMap_cons, List.filter_append, ih]
    by_cases hk : k = first
    · -- The first block is kept whole, and its key does not come again.
      have hall : ((block first).filter fun a => key a = first) = block first :=
        List.filter_eq_self.2 fun a ha => decide_eq_true (hkey a ha)
      rw [hk, hall, if_neg hfirst, if_pos List.mem_cons_self, List.append_nil]
    · have hnone : ((block first).filter fun a => key a = k) = [] := by
        rw [List.filter_eq_nil_iff]
        intro a ha
        have hne : key a ≠ k := fun heq => hk (heq.symm.trans (hkey a ha))
        rwa [decide_eq_true_iff]
      have hmem : k ∈ first :: ks ↔ k ∈ ks := by
        rw [List.mem_cons]
        exact or_iff_right hk
      rw [hnone, List.nil_append]
      exact if_congr hmem.symm rfl rfl

end Grouping

open Binary64 Grouping

namespace Histogram

/-- What is in order is sorted. -/
theorem StablySorted.of_ascending {α : Type} {key : α → ℤ} {members : List α}
    (h : members.Pairwise fun a b => key a ≤ key b) : StablySorted key members members :=
  ⟨.refl _, h, fun _ => rfl⟩

/-- What is known of a bucket is that its sample has a bound, and which one. -/
theorem bucket?_eq_some_iff {label : String} {s : Sample} {b : Bucket} :
    bucket? label s = some b ↔
      b.sample = s ∧ ∃ raw, s.label? label = some raw ∧ bound? raw = some b.bound := by
  unfold bucket?
  rw [Option.bind_eq_some_iff]
  constructor
  · rintro ⟨raw, hraw, hbucket⟩
    obtain ⟨bound, hbound, rfl⟩ := Option.map_eq_some_iff.1 hbucket
    exact ⟨rfl, raw, hraw, hbound⟩
  · rintro ⟨rfl, raw, hraw, hbound⟩
    refine ⟨raw, hraw, ?_⟩
    rw [hbound]
    rfl

/-- No bound is the first that cannot be read where all can. -/
theorem find?_unread_eq_none_iff {raws : List String} :
    raws.find? (fun raw => (bound? raw).isNone) = none ↔
      ∀ raw ∈ raws, (bound? raw).isSome = true := by
  rw [List.find?_eq_none]
  refine forall₂_congr fun raw _ => ?_
  rw [Bool.not_eq_true, Option.isNone_eq_false_iff]

/-- The intervals of a histogram have its labels, next to that of the bound. -/
theorem exists_labels_of_mem_intervals {series : LabelSet} {label : String} {scale : Nat}
    {bound count : Float} {buckets : List Bucket} {s : Sample}
    (hs : s ∈ intervals series label scale bound count buckets) :
    ∃ text, s.labels = series.insert label text := by
  induction buckets generalizing bound count with
  | nil => cases hs
  | cons b rest ih =>
    rcases List.mem_cons.1 hs with rfl | hrest
    · exact ⟨_, rfl⟩
    · exact ih hrest

/-- Of the intervals of all histograms, those with the labels of one are its intervals. -/
theorem filter_allIntervals (label : String) (unit : TimeUnit) (buckets : List Bucket)
    (series : LabelSet) :
    ((allIntervals label unit buckets).filter fun s => s.labels.erase label = series) =
      deaccumulate label unit.millis series
        (buckets.filter fun b => b.sample.labels.erase label = series) := by
  have hblock : ∀ k ∈ (buckets.map fun b => b.sample.labels.erase label).eraseDups,
      ∀ s ∈ deaccumulate label unit.millis k
        (buckets.filter fun b => b.sample.labels.erase label = k), s.labels.erase label = k := by
    intro k hk s hs
    obtain ⟨b, -, rfl⟩ := List.mem_map.1 (List.mem_eraseDups.1 hk)
    obtain ⟨text, hlabels⟩ := exists_labels_of_mem_intervals hs
    rw [hlabels, LabelSet.erase_insert, LabelSet.erase_erase]
  rw [allIntervals, filter_flatMap_blocks (nodup_eraseDups _) hblock]
  split
  · rfl
  · -- A histogram without buckets has no intervals.
    rename_i hseries
    have hnone : (buckets.filter fun b => b.sample.labels.erase label = series) = [] := by
      rw [List.filter_eq_nil_iff]
      intro b hb
      rw [decide_eq_true_iff]
      exact fun heq => hseries (List.mem_eraseDups.2 (List.mem_map.2 ⟨b, hb, heq⟩))
    rw [hnone]
    exact (List.length_eq_zero_iff.1 (length_deaccumulate label unit series [])).symm

end Histogram

namespace Family

open Histogram

/-- The buckets of a family: its samples with a bound that can be read. -/
def buckets (f : Family) (label : String) : List Bucket := f.samples.filterMap (bucket? label)

/-- The buckets of one histogram of a family. -/
def bucketsOf (f : Family) (label : String) (series : LabelSet) : List Bucket :=
  (f.buckets label).filter fun b => b.sample.labels.erase label = series

/-- The histograms of a family, in the order in which these first appear. -/
def seriesOf (f : Family) (label : String) : List LabelSet :=
  ((f.buckets label).map fun b => b.sample.labels.erase label).eraseDups

/-- The samples of a family that have the labels of one histogram. -/
def blockOf (f : Family) (label : String) (series : LabelSet) : List Sample :=
  f.samples.filter fun s => s.labels.erase label = series

variable {f g : Family} {label : String} {unit : TimeUnit}

/-- The buckets of a histogram have bounds, which are numbers. -/
theorem isNaN_of_mem_bucketsOf {series : LabelSet} {b : Bucket}
    (hb : b ∈ f.bucketsOf label series) : b.bound.isNaN = false := by
  obtain ⟨s, -, hs⟩ := List.mem_filterMap.1 (List.mem_filter.1 hb).1
  exact isNaN_bound hs

/-- Where all buckets are of one histogram and in order, its buckets are these, sorted. -/
theorem stablySorted_bucketsOf (series : LabelSet) {buckets : List Bucket}
    (hbuckets : f.buckets label = buckets)
    (hseries : ∀ b ∈ buckets, b.sample.labels.erase label = series)
    (hascending : buckets.Pairwise fun a b => orderKey a.bound ≤ orderKey b.bound) :
    StablySorted (fun b => orderKey b.bound) (f.bucketsOf label series) buckets := by
  have hall : f.bucketsOf label series = buckets := by
    rw [bucketsOf, hbuckets, List.filter_eq_self]
    exact fun b hb => decide_eq_true (hseries b hb)
  rw [hall]
  exact .of_ascending hascending

/-- A unit without a whole millisecond is not taken, whatever the samples are. -/
theorem histogram_of_millis_eq_zero (f : Family) (label : String) (h : unit.millis = 0) :
    f.histogram label unit = .error (.timeUnit (.tooFine unit)) := if_pos h

/-- Turning buckets into intervals fails for the first bound that is no number. -/
theorem histogram_eq_error (hunit : 0 < unit.millis) {raw : String}
    (h : (f.samples.filterMap (·.label? label)).find? (fun raw => (bound? raw).isNone) = some raw) :
    f.histogram label unit = .error (.invalidBound raw) := by
  cases f with
  | empty => cases h
  | populated batch =>
    rw [histogram_populated batch label hunit]
    exact congrArg (Option.elim · _ _) h

/-- Where all bounds can be read, there are the intervals of all histograms, marked as such. -/
theorem exists_histogram_eq_ok (hunit : 0 < unit.millis)
    (h : ∀ raw ∈ f.samples.filterMap (·.label? label), (bound? raw).isSome = true) :
    ∃ g, f.histogram label unit = .ok g ∧ g.samples = allIntervals label unit (f.buckets label) ∧
      g.context? = if g.samples = [] then none
        else f.context?.map fun context => { context with isHistogram := true } := by
  cases f with
  | empty => exact ⟨empty, if_neg hunit.ne', rfl, rfl⟩
  | populated batch =>
    let intervals := allIntervals label unit ((populated batch).buckets label)
    refine ⟨ofSamples { batch.context with isHistogram := true } intervals, ?_,
      samples_ofSamples _ _, ?_⟩
    · rw [histogram_populated batch label hunit]
      exact congrArg (Option.elim · _ _) (find?_unread_eq_none_iff.2 h)
    · rw [samples_ofSamples]
      by_cases hnone : intervals = []
      · rw [hnone, if_pos rfl]
        rfl
      · rw [context?_ofSamples hnone, if_neg hnone]
        rfl

/-- Where all samples are buckets, there are intervals between these. -/
theorem exists_histogram_of_forall₂ (hunit : 0 < unit.millis) {buckets : List Bucket}
    (h : List.Forall₂ (fun s b => bucket? label s = some b) f.samples buckets) :
    f.buckets label = buckets ∧ ∃ g, f.histogram label unit = .ok g := by
  have hread : ∀ raw ∈ f.samples.filterMap (·.label? label), (bound? raw).isSome = true := by
    intro raw hraw
    obtain ⟨s, hs, hlabel⟩ := List.mem_filterMap.1 hraw
    obtain ⟨b, -, hb⟩ := exists_right_of_forall₂ h hs
    obtain ⟨rfl, raw', hraw', hbound⟩ := bucket?_eq_some_iff.1 hb
    obtain rfl : raw' = raw := Option.some.inj (hraw'.symm.trans hlabel)
    exact Option.isSome_of_eq_some hbound
  obtain ⟨g, hg, -⟩ := exists_histogram_eq_ok hunit hread
  refine ⟨?_, g, hg⟩
  have hmap := map_eq_of_forall₂ (fun s b hb => hb) h
  calc f.buckets label = (f.samples.map (bucket? label)).filterMap id := by
        rw [List.filterMap_map]
        rfl
    _ = buckets := by
        rw [hmap, List.filterMap_map]
        exact List.filterMap_some

/-- What a family is turned into are the intervals of its buckets, all of which have been read. -/
theorem samples_histogram (h : f.histogram label unit = .ok g) :
    0 < unit.millis ∧ g.samples = allIntervals label unit (f.buckets label) := by
  have hunit : 0 < unit.millis := by
    rcases Nat.eq_zero_or_pos unit.millis with hzero | hpos
    · rw [histogram_of_millis_eq_zero f label hzero] at h
      cases h
    · exact hpos
  cases hfind : (f.samples.filterMap (·.label? label)).find? fun raw => (bound? raw).isNone with
  | some raw =>
    rw [histogram_eq_error hunit hfind] at h
    cases h
  | none =>
    obtain ⟨g', hg', hsamples, -⟩ :=
      exists_histogram_eq_ok hunit (find?_unread_eq_none_iff.1 hfind)
    obtain rfl : g' = g := Except.ok.inj (hg'.symm.trans h)
    exact ⟨hunit, hsamples⟩

/-- The samples of each histogram are turned into the intervals of its buckets. -/
theorem blockOf_histogram (h : f.histogram label unit = .ok g) (series : LabelSet) :
    g.blockOf label series =
      deaccumulate label unit.millis series (f.bucketsOf label series) := by
  rw [blockOf, (samples_histogram h).2]
  exact filter_allIntervals label unit (f.buckets label) series

/-- The samples of each histogram are sorted stably by bounds, and give the intervals from each
bucket to the next. -/
theorem deaccumulates_blockOf (h : f.histogram label unit = .ok g) (series : LabelSet) :
    Deaccumulates label unit series (f.bucketsOf label series) (g.blockOf label series) := by
  rw [blockOf_histogram h]
  exact deaccumulates_deaccumulate label unit series fun b => isNaN_of_mem_bucketsOf

/-- One histogram comes after the other. -/
theorem samples_eq_flatMap_blockOf (h : f.histogram label unit = .ok g) :
    g.samples = (f.seriesOf label).flatMap (g.blockOf label) := by
  rw [funext (blockOf_histogram h)]
  exact (samples_histogram h).2

end Family

end MetricAlgebra
