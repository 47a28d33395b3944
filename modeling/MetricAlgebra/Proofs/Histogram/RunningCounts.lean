import MetricAlgebra.Proofs.Histogram.Block
import MetricAlgebra.Proofs.WholeNumber

/-!
# The counts of intervals add up

The counts of the intervals of a histogram are the differences of its cumulative counts, from zero
on, so that their running sums are the cumulative counts again, both as numbers and in the order in
which values are added (`Family.histogram_keeps_counts`), since integers of few bits are added and
subtracted without rounding. If the cumulative counts never fall, no interval has a negative count.
-/

namespace MetricAlgebra

namespace Binary64

/-- Running sums of integers that have few bits are exact. -/
theorem forall₂_isWhole_scanl {xs : List Float} {ns : List ℤ} (hxs : List.Forall₂ IsWhole xs ns)
    {x : Float} {n : ℤ} (hx : IsWhole x n) (hsums : ∀ m ∈ ns.scanl (· + ·) n, |m| ≤ 2 ^ 53) :
    List.Forall₂ IsWhole (xs.scanl (· + ·) x) (ns.scanl (· + ·) n) := by
  induction hxs generalizing x n with
  | nil => exact .cons hx .nil
  | @cons y k ys ks hy hys ih =>
    rw [List.scanl_cons] at hsums
    have hnext : |n + k| ≤ 2 ^ 53 := by
      refine hsums _ (List.mem_cons_of_mem _ ?_)
      cases ks <;> simp
    rw [List.scanl_cons, List.scanl_cons]
    exact .cons hx (ih (hx.add hy hnext) fun m hm => hsums m (List.mem_cons_of_mem _ hm))

end Binary64

open Binary64 Grouping

namespace Histogram

/-! ## Differences -/

/-- The differences of counts, each to the one before it. -/
def differences (before : ℤ) : List ℤ → List ℤ
  | [] => []
  | n :: rest => (n - before) :: differences n rest

/-- The running sums of differences are what these are differences of. -/
theorem scanl_differences (before : ℤ) (counts : List ℤ) :
    (differences before counts).scanl (· + ·) before = before :: counts := by
  induction counts generalizing before with
  | nil => rfl
  | cons n rest ih =>
    have hback : before + (n - before) = n := by omega
    rw [differences, List.scanl_cons, hback, ih]

/-- Differences add up to the last count, less that before the first. -/
theorem add_sum_differences (before : ℤ) (counts : List ℤ) :
    before + (differences before counts).sum = counts.getLastD before := by
  induction counts generalizing before with
  | nil => exact add_zero before
  | cons n rest ih =>
    rw [differences, List.sum_cons, List.getLastD_cons, ← ih n]
    omega

/-- Where counts do not fall, no difference is negative. -/
theorem nonneg_of_mem_differences {before : ℤ} {counts : List ℤ}
    (hrising : (before :: counts).IsChain (· ≤ ·)) : ∀ d ∈ differences before counts, 0 ≤ d := by
  induction counts generalizing before with
  | nil => exact fun d hd => absurd hd List.not_mem_nil
  | cons n rest ih =>
    obtain ⟨hle, hrest⟩ := List.isChain_cons_cons.1 hrising
    intro d hd
    rcases List.mem_cons.1 hd with rfl | hmem
    · omega
    · exact ih hrest d hmem

/-- The values of intervals are the differences of the counts, from the count before the first
bucket. -/
theorem forall₂_isWhole_intervals (series : LabelSet) (label : String) (scale : ℕ) (bound : Float)
    {buckets : List Bucket} {counts : List ℤ}
    (hcounts : List.Forall₂ (fun b n => IsWhole b.sample.value n) buckets counts)
    (hsmall : ∀ n ∈ counts, |n| ≤ 2 ^ 52) {count : Float} {before : ℤ}
    (hcount : IsWhole count before) (hbefore : |before| ≤ 2 ^ 52) :
    List.Forall₂ (fun s d => IsWhole s.value d) (intervals series label scale bound count buckets)
      (differences before counts) := by
  induction hcounts generalizing bound count before with
  | nil => exact .nil
  | @cons b n bs ns hb hbs ih =>
    have hn : |n| ≤ 2 ^ 52 := hsmall n List.mem_cons_self
    have hdiff : |n - before| ≤ 2 ^ 53 := by
      have htriangle := abs_sub n before
      omega
    -- The cumulative count is the one before the next bucket, and as small.
    refine .cons (hb.sub hcount hdiff) (ih b.bound (fun m hm => ?_) hb hn)
    exact hsmall m (List.mem_cons_of_mem _ hm)

/-- Of items next to each other, the last ones are next to each other. -/
theorem forall₂_getLast? {α β : Type} {r : α → β → Prop} {as : List α} {bs : List β}
    (h : List.Forall₂ r as bs) {a : α} (ha : as.getLast? = some a) (start : β) :
    r a (bs.getLastD start) := by
  induction h generalizing start with
  | nil => cases ha
  | @cons first b rest bs hfirst hrest ih =>
    rw [List.getLastD_cons]
    cases hrest with
    | nil =>
      obtain rfl : first = a := Option.some.inj ha
      exact hfirst
    | cons hsecond hrest => exact ih (by rwa [List.getLast?_cons_cons] at ha) b

/-- Whether the samples of a histogram have the counts between its buckets: their running sums are
the cumulative counts, which none of them loses. -/
structure AddsUp (members : List Bucket) (block : List Sample) (sorted : List Bucket)
    (counts gains : List ℤ) : Prop where
  /-- The buckets are sorted stably. -/
  stablySorted : StablySorted (fun b => orderKey b.bound) members sorted
  /-- Their bounds do not fall. -/
  ascending : sorted.Pairwise fun a b => a.bound ≤ b.bound
  /-- The cumulative counts, by rising bounds. -/
  cumulative : List.Forall₂ (fun b n => IsWhole b.sample.value n) sorted counts
  /-- The counts of the samples. -/
  own : List.Forall₂ (fun s d => IsWhole s.value d) block gains
  /-- As numbers, these have the cumulative counts as running sums. -/
  sums : gains.scanl (· + ·) 0 = 0 :: counts
  /-- The running sums that are made by adding values are the same. -/
  runningSums : List.Forall₂ IsWhole ((block.map (·.value)).scanl (· + ·) 0.0) (0 :: counts)
  /-- The total is the cumulative count of the bucket with the greatest bound. -/
  total : ∀ last, sorted.getLast? = some last → IsWhole last.sample.value gains.sum
  /-- Where the cumulative counts do not fall from zero on, no count is negative. -/
  nonneg : (0 :: counts).IsChain (· ≤ ·) → ∀ s ∈ block, 0.0 ≤ s.value

/-- The intervals of integer counts add up. -/
theorem exists_addsUp_deaccumulate (label : String) (unit : TimeUnit) (series : LabelSet)
    {members : List Bucket} (hnumbers : ∀ b ∈ members, b.bound.isNaN = false)
    (hwhole : ∀ b ∈ members, ∃ n : ℤ, IsWhole b.sample.value n ∧ |n| ≤ 2 ^ 52) :
    ∃ sorted counts gains,
      AddsUp members (deaccumulate label unit.millis series members) sorted counts gains := by
  obtain ⟨sorted, hsorted, hascending, hmade⟩ :=
    deaccumulates_deaccumulate label unit series hnumbers
  rw [← intervals_eq_zipWith] at hmade
  choose! count hcount using hwhole
  have hsorted_count : ∀ b ∈ sorted, IsWhole b.sample.value (count b) ∧ |count b| ≤ 2 ^ 52 :=
    fun b hb => hcount b (hsorted.perm.mem_iff.1 hb)
  have hcounts : List.Forall₂ (fun b n => IsWhole b.sample.value n) sorted (sorted.map count) := by
    rw [List.forall₂_map_right_iff, List.forall₂_same]
    exact fun b hb => (hsorted_count b hb).1
  have hsmall : ∀ n ∈ sorted.map count, |n| ≤ 2 ^ 52 := by
    intro n hn
    obtain ⟨b, hb, rfl⟩ := List.mem_map.1 hn
    exact (hsorted_count b hb).2
  let gains := differences 0 (sorted.map count)
  have hgains : List.Forall₂ (fun s d => IsWhole s.value d)
      (intervals series label unit.millis 0.0 0.0 sorted) gains :=
    forall₂_isWhole_intervals series label _ 0.0 hcounts hsmall .zero (by norm_num)
  have hsums : gains.scanl (· + ·) 0 = 0 :: sorted.map count := scanl_differences 0 _
  have htotal : gains.sum = (sorted.map count).getLastD 0 :=
    (zero_add _).symm.trans (add_sum_differences 0 _)
  rw [hmade]
  refine ⟨sorted, sorted.map count, gains, hsorted, hascending, hcounts, hgains, hsums, ?_, ?_, ?_⟩
  · -- The running sums are the cumulative counts again, so that all of them have few bits.
    rw [← hsums]
    refine forall₂_isWhole_scanl (List.forall₂_map_left_iff.2 hgains) .zero fun m hm => ?_
    rw [hsums] at hm
    rcases List.mem_cons.1 hm with rfl | hmem
    · norm_num
    · exact (hsmall m hmem).trans (by norm_num)
  · intro last hlast
    rw [htotal]
    exact forall₂_getLast? hcounts hlast 0
  · intro hrising s hs
    obtain ⟨d, hd, hvalue⟩ := exists_right_of_forall₂ hgains hs
    rw [IsWhole.zero.le_iff hvalue]
    exact nonneg_of_mem_differences hrising d hd

end Histogram

namespace Family

open Histogram

/-- The counts of intervals are those of the buckets, if these are integers of at most `2 ^ 52`: in
each histogram, the counts of the samples have as running sums the cumulative counts by rising
bounds. They add up to the count of the bucket with the greatest bound, and none of them is negative
unless the cumulative counts start below zero or fall. -/
theorem histogram_keeps_counts {f g : Family} {label : String} {unit : TimeUnit}
    (h : f.histogram label unit = .ok g)
    (hwhole : ∀ b ∈ f.buckets label, ∃ n : ℤ, IsWhole b.sample.value n ∧ |n| ≤ 2 ^ 52)
    (series : LabelSet) :
    ∃ sorted counts gains,
      AddsUp (f.bucketsOf label series) (g.blockOf label series) sorted counts gains := by
  rw [blockOf_histogram h]
  exact exists_addsUp_deaccumulate label _ series (fun b => isNaN_of_mem_bucketsOf) fun b hb =>
    hwhole b (List.mem_filter.1 hb).1

/-- Two buckets with the counts 3 and 7, of which the greater bound comes first. -/
theorem histogram_keeps_counts_two_buckets :
    let high : Sample := ⟨.ofPairs [("le", "2.5")], 1000, 7.0⟩
    let low : Sample := ⟨.ofPairs [("le", "0.5")], 1000, 3.0⟩
    let f := populated ⟨[high, low], {}, by simp⟩
    (∀ b ∈ f.buckets "le", ∃ n : ℤ, IsWhole b.sample.value n ∧ |n| ≤ 2 ^ 52) ∧
      ∃ g, f.histogram "le" .seconds = .ok g ∧ ∀ series, ∃ sorted counts gains,
        AddsUp (f.bucketsOf "le" series) (g.blockOf "le" series) sorted counts gains := by
  intro high low f
  have hhigh : bucket? "le" high = some ⟨2.5, high⟩ :=
    bucket?_eq_some_iff.2 ⟨rfl, "2.5", by cbv, by decide +kernel⟩
  have hlow : bucket? "le" low = some ⟨0.5, low⟩ :=
    bucket?_eq_some_iff.2 ⟨rfl, "0.5", by cbv, by decide +kernel⟩
  have hseven : IsWhole 7.0 7 := by unfold IsWhole; decide +kernel
  have hthree : IsWhole 3.0 3 := by unfold IsWhole; decide +kernel
  have hunit : 0 < TimeUnit.seconds.millis := by decide
  obtain ⟨hbuckets, g, hg⟩ :=
    exists_histogram_of_forall₂ (f := f) hunit (.cons hhigh (.cons hlow .nil))
  have hwhole : ∀ b ∈ f.buckets "le", ∃ n : ℤ, IsWhole b.sample.value n ∧ |n| ≤ 2 ^ 52 := by
    rw [hbuckets]
    intro b hb
    rcases List.mem_pair.1 hb with rfl | rfl
    · exact ⟨7, hseven, by norm_num⟩
    · exact ⟨3, hthree, by norm_num⟩
  exact ⟨hwhole, g, hg, fun series => histogram_keeps_counts hg hwhole series⟩

end Family

end MetricAlgebra
