import MetricAlgebra.Proofs.Histogram.Block

/-!
# Buckets that arrive in another order

Buckets with distinct bounds are sorted in one way, in whatever order they come. So a family and a
permutation of it are turned into the same intervals for each histogram, and only the order of the
histograms follows that of the samples (`Family.histogram_perm`). A bound that cannot be read is a
failure in every order, and a unit that is too fine is one before any bound is read.
-/

namespace MetricAlgebra

open Binary64 Grouping

namespace Histogram

/-- Members with distinct keys are sorted in one way, in whatever order they come. -/
theorem StablySorted.eq_of_perm {α : Type} {key : α → ℤ} {members members' sorted sorted' : List α}
    (h : StablySorted key members sorted) (h' : StablySorted key members' sorted')
    (hperm : members.Perm members') (hdistinct : (members.map key).Nodup) : sorted = sorted' := by
  have hsame : sorted.Perm sorted' := h.perm.trans (hperm.trans h'.perm.symm)
  refine List.Perm.eq_of_pairwise (fun a b ha hb hab hba => ?_) h.ascending h'.ascending hsame
  -- Two members of one key are one member.
  have ha : a ∈ members := h.perm.mem_iff.1 ha
  have hb : b ∈ members := hperm.mem_iff.2 (h'.perm.mem_iff.1 hb)
  exact List.inj_on_of_nodup_map hdistinct ha hb (le_antisymm hab hba)

/-- Buckets with distinct bounds have the same intervals in whatever order they come. -/
theorem deaccumulate_eq_of_perm (label : String) (scale : Nat) (series : LabelSet)
    {members members' : List Bucket} (hperm : members.Perm members')
    (hdistinct : (members.map fun b => orderKey b.bound).Nodup) :
    deaccumulate label scale series members = deaccumulate label scale series members' := by
  have hsorted : sortBuckets members = sortBuckets members' :=
    (stablySorted_mergeSort _ members).eq_of_perm (stablySorted_mergeSort _ members') hperm
      hdistinct
  rw [deaccumulate, deaccumulate, hsorted]

end Histogram

namespace Family

open Histogram

variable {f f' : Family}

/-- Permuted samples are permuted buckets. -/
theorem buckets_perm (hperm : f.samples.Perm f'.samples) (label : String) :
    (f.buckets label).Perm (f'.buckets label) := hperm.filterMap _

/-- Permuted samples are permuted buckets of each histogram. -/
theorem bucketsOf_perm (hperm : f.samples.Perm f'.samples) (label : String) (series : LabelSet) :
    (f.bucketsOf label series).Perm (f'.bucketsOf label series) :=
  (buckets_perm hperm label).filter _

/-- Permuted samples make up the same histograms. -/
theorem seriesOf_perm (hperm : f.samples.Perm f'.samples) (label : String) :
    (f.seriesOf label).Perm (f'.seriesOf label) :=
  perm_eraseDups ((buckets_perm hperm label).map _)

/-- The intervals of histograms do not depend on the order of the samples, if no two buckets of one
histogram have the same bound. A family and a permutation of it both fail on a unit without a whole
millisecond, and otherwise they either both fail on a bound that is no number, or both have the same
block of intervals for each histogram, and nothing else but these blocks, one for each histogram, in
the order in which the histograms first appear. -/
theorem histogram_perm (f f' : Family) (label : String) (unit : TimeUnit)
    (hperm : f.samples.Perm f'.samples) (hcontext : f.context? = f'.context?)
    (hdistinct : ∀ series, ((f.bucketsOf label series).map fun b => orderKey b.bound).Nodup) :
    (unit.millis = 0 →
      f.histogram label unit = .error (.timeUnit (.tooFine unit)) ∧
        f'.histogram label unit = .error (.timeUnit (.tooFine unit))) ∧
    (0 < unit.millis →
      (∃ raw raw', f.histogram label unit = .error (.invalidBound raw) ∧
        f'.histogram label unit = .error (.invalidBound raw')) ∨
      ∃ g g', f.histogram label unit = .ok g ∧ f'.histogram label unit = .ok g' ∧
        (∀ series, g.blockOf label series = g'.blockOf label series) ∧
        g.samples = (f.seriesOf label).flatMap (g.blockOf label) ∧
        g'.samples = (f'.seriesOf label).flatMap (g.blockOf label) ∧
        (f.seriesOf label).Nodup ∧ (f.seriesOf label).Perm (f'.seriesOf label) ∧
        g.context? = g'.context?) := by
  refine ⟨fun hzero => ⟨histogram_of_millis_eq_zero f label hzero,
    histogram_of_millis_eq_zero f' label hzero⟩, fun hunit => ?_⟩
  let unread : String → Bool := fun raw => (bound? raw).isNone
  have hraws := hperm.filterMap (·.label? label)
  cases hfind : (f.samples.filterMap (·.label? label)).find? unread with
  | some raw =>
    -- The permutation has this bound too, though another one may come first there.
    have hmem := hraws.mem_iff.1 (List.mem_of_find?_eq_some hfind)
    have hsome := List.find?_isSome.2 ⟨raw, hmem, List.find?_some hfind⟩
    obtain ⟨raw', hfind'⟩ := Option.isSome_iff_exists.1 hsome
    exact .inl ⟨raw, raw', histogram_eq_error hunit hfind, histogram_eq_error hunit hfind'⟩
  | none =>
    have hread := find?_unread_eq_none_iff.1 hfind
    have hread' := fun raw hraw => hread raw (hraws.mem_iff.2 hraw)
    obtain ⟨g, hg, -, hgcontext⟩ := exists_histogram_eq_ok hunit hread
    obtain ⟨g', hg', -, hgcontext'⟩ := exists_histogram_eq_ok hunit hread'
    have hblock : ∀ series, g.blockOf label series = g'.blockOf label series := by
      intro series
      rw [blockOf_histogram hg, blockOf_histogram hg']
      exact deaccumulate_eq_of_perm label _ series (bucketsOf_perm hperm label series)
        (hdistinct series)
    have hsamples := samples_eq_flatMap_blockOf hg
    have hsamples' := samples_eq_flatMap_blockOf hg'
    rw [← funext hblock] at hsamples'
    refine .inr ⟨g, g', hg, hg', hblock, hsamples, hsamples', nodup_eraseDups _,
      seriesOf_perm hperm label, ?_⟩
    have hlength : g.samples.length = g'.samples.length := by
      rw [hsamples, hsamples']
      exact ((seriesOf_perm hperm label).flatMap_right _).length_eq
    have hnone : g.samples = [] ↔ g'.samples = [] := by
      rw [← List.length_eq_zero_iff, hlength, List.length_eq_zero_iff]
    rw [hgcontext, hgcontext', hcontext]
    exact if_congr hnone rfl rfl

/-- Two buckets come in either order, and have the same block of intervals. -/
theorem histogram_perm_two_buckets :
    let low : Sample := ⟨.ofPairs [("le", "0.5")], 1000, 3.0⟩
    let high : Sample := ⟨.ofPairs [("le", "2.5")], 1000, 7.0⟩
    let f := populated ⟨[low, high], {}, by simp⟩
    let f' := populated ⟨[high, low], {}, by simp⟩
    f.samples.Perm f'.samples ∧ f.context? = f'.context? ∧
      (∀ series, ((f.bucketsOf "le" series).map fun b => orderKey b.bound).Nodup) ∧
      ∃ g g', f.histogram "le" .seconds = .ok g ∧ f'.histogram "le" .seconds = .ok g' ∧
        ∀ series, g.blockOf "le" series = g'.blockOf "le" series := by
  intro low high f f'
  have hlow : bucket? "le" low = some ⟨0.5, low⟩ :=
    bucket?_eq_some_iff.2 ⟨rfl, "0.5", by cbv, by decide +kernel⟩
  have hhigh : bucket? "le" high = some ⟨2.5, high⟩ :=
    bucket?_eq_some_iff.2 ⟨rfl, "2.5", by cbv, by decide +kernel⟩
  have hunit : 0 < TimeUnit.seconds.millis := by decide
  obtain ⟨hbuckets, g₀, hg₀⟩ :=
    exists_histogram_of_forall₂ (f := f) hunit (.cons hlow (.cons hhigh .nil))
  have hkeys : orderKey 0.5 ≠ orderKey 2.5 := by decide +kernel
  have hperm : f.samples.Perm f'.samples := List.Perm.swap high low []
  have hdistinct : ∀ series, ((f.bucketsOf "le" series).map fun b => orderKey b.bound).Nodup := by
    intro series
    have hall : ((f.buckets "le").map fun b => orderKey b.bound).Nodup := by
      rw [hbuckets]
      simpa using hkeys
    exact hall.sublist (List.filter_sublist.map _)
  refine ⟨hperm, rfl, hdistinct, ?_⟩
  rcases (histogram_perm f f' "le" .seconds hperm rfl hdistinct).2 hunit with
    ⟨raw, -, hraw, -⟩ | ⟨g, g', hg, hg', hblock, -⟩
  · rw [hg₀] at hraw
    cases hraw
  · exact ⟨g, g', hg, hg', hblock⟩

/-- In a unit that is too fine, it is not the bound that fails, though it is no number. -/
theorem histogram_perm_fine_unit :
    let f := populated ⟨[⟨.ofPairs [("le", "fast")], 0, 1.0⟩], {}, by simp⟩
    f.samples.Perm f.samples ∧
      (∀ series, ((f.bucketsOf "le" series).map fun b => orderKey b.bound).Nodup) ∧
      ¬((∃ raw raw', f.histogram "le" .nanoseconds = .error (.invalidBound raw) ∧
          f.histogram "le" .nanoseconds = .error (.invalidBound raw')) ∨
        ∃ g g', f.histogram "le" .nanoseconds = .ok g ∧
          f.histogram "le" .nanoseconds = .ok g') := by
  intro f
  have hfine : f.histogram "le" .nanoseconds = .error (.timeUnit (.tooFine .nanoseconds)) :=
    histogram_of_millis_eq_zero f "le" rfl
  have hbound : bound? "fast" = none := by decide +kernel
  have hlabel : (LabelSet.ofPairs [("le", "fast")]).get? "le" = some "fast" := by cbv
  have hbuckets : f.buckets "le" = [] := by
    simp [f, buckets, samples, bucket?, Sample.label?, hlabel, hbound]
  refine ⟨List.Perm.refl _, fun series => ?_, ?_⟩
  · rw [bucketsOf, hbuckets]
    exact List.nodup_nil
  · rw [hfine]
    rintro (⟨raw, -, hraw, -⟩ | ⟨g, -, hg, -⟩)
    · cases hraw
    · cases hg

end Family

end MetricAlgebra
