import MetricAlgebra.Proofs.Histogram.Block
import MetricAlgebra.Proofs.RoundedArithmetic

/-!
# The lower ends of intervals

An interval is labelled with the bound below it in whole milliseconds. That bound is multiplied by
the milliseconds of its unit as a value, so that it is rounded to a value once more before its
integer part is taken (`Histogram.edge_eq`). The intervals of a histogram have zero and the bounds
of all its buckets but the last as their lower ends (`Histogram.map_labels_intervals`).
-/

namespace MetricAlgebra

/-- A unit has few milliseconds. -/
theorem TimeUnit.millis_le (unit : TimeUnit) : unit.millis ≤ 2 ^ 32 := by
  cases unit <;> decide

open Binary64

namespace Histogram

/-- The lower end of the interval above a bound: its whole milliseconds. -/
def edge (unit : TimeUnit) (bound : Float) : ℤ := saturated (bound * Float.ofNat unit.millis)

/-- The lower ends of the intervals between sorted buckets: zero, and those of all buckets but the
last. -/
def edges (unit : TimeUnit) (sorted : List Bucket) : List ℤ :=
  (0 :: sorted.map fun b => edge unit b.bound).dropLast

/-- A bound in milliseconds is rounded to a value. -/
theorem toRat?_mul_millis {unit : TimeUnit} {bound : Float} {q : ℚ} (h : toRat? bound = some q)
    (hlt : |q * unit.millis| < finiteBound) :
    toRat? (bound * Float.ofNat unit.millis) = some (nearest (q * unit.millis)) := by
  have hmillis : unit.millis ≤ 2 ^ 53 := unit.millis_le.trans (by norm_num)
  exact toRat?_mul h (Decimal.toRat?_ofNat hmillis) hlt

/-- The lower end above a bound is the integer part of what its milliseconds are rounded to. -/
theorem edge_eq {unit : TimeUnit} {bound : Float} {q : ℚ} (h : toRat? bound = some q)
    (hnonneg : 0 ≤ q * unit.millis) (hle : q * unit.millis ≤ 2 ^ 62) :
    edge unit bound = ⌊nearest (q * unit.millis)⌋ := by
  have hlt : |q * unit.millis| < finiteBound := by
    rw [abs_of_nonneg hnonneg]
    exact lt_finiteBound (by linarith)
  have hlow : 0 ≤ nearest (q * unit.millis) := nearest_nonneg hnonneg
  -- The bounds are values themselves, so that rounding keeps these, and nothing is saturated.
  have hhigh : nearest (q * unit.millis) ≤ 2 ^ 62 := by
    have hself : nearest ((1 : ℤ) * 2 ^ (62 : ℤ)) = (1 : ℤ) * 2 ^ (62 : ℤ) :=
      nearest_intCast_mul_zpow (by norm_num) (by norm_num)
    rw [Int.cast_one, one_mul] at hself
    calc nearest (q * unit.millis) ≤ nearest (2 ^ (62 : ℤ)) := nearest_mono hle
      _ = 2 ^ 62 := hself
  have hfloorLow : 0 ≤ ⌊nearest (q * unit.millis)⌋ := Int.floor_nonneg.2 hlow
  have hfloorHigh : ⌊nearest (q * unit.millis)⌋ ≤ 2 ^ 62 := by
    have hcast : ((⌊nearest (q * unit.millis)⌋ : ℤ) : ℚ) ≤ 2 ^ 62 :=
      (Int.floor_le _).trans hhigh
    exact_mod_cast hcast
  rw [edge, saturated, toRat?_mul_millis h hlt]
  simp only [intPart, if_pos hlow]
  omega

/-- Nothing is below the first interval. -/
theorem edge_zero (unit : TimeUnit) : edge unit 0.0 = 0 := by
  have hzero : toRat? 0.0 = some 0 := by rw [zero_eq, toRat?_zero]
  rw [edge_eq hzero (by norm_num) (by norm_num), zero_mul, nearest_zero, Int.floor_zero]

/-- The intervals between buckets are labelled with the bounds below them. -/
theorem map_labels_intervals (series : LabelSet) (label : String) (unit : TimeUnit)
    (bound count : Float) (buckets : List Bucket) :
    (intervals series label unit.millis bound count buckets).map (·.labels) =
      (edge unit bound :: buckets.map fun b => edge unit b.bound).dropLast.map fun n =>
        series.insert label (Int.repr n) := by
  -- The bound of each bucket is handed on to the interval above it, and that of the last to none.
  induction buckets generalizing bound count with
  | nil => rfl
  | cons b rest ih =>
    have hfirst : edgeText bound unit.millis = Int.repr (edge unit bound) := by
      rw [edgeText, toInt_truncate]
      rfl
    rw [intervals, List.map_cons, ih, hfirst, List.map_cons, List.dropLast_cons_cons, List.map_cons]

/-- The intervals of a histogram are labelled with their lower ends. -/
theorem Deaccumulates.map_labels {label : String} {unit : TimeUnit} {series : LabelSet}
    {members : List Bucket} {made : List Sample} (h : Deaccumulates label unit series members made)
    {sorted : List Bucket} (hsorted : StablySorted (fun b => orderKey b.bound) members sorted) :
    made.map (·.labels) =
      (edges unit sorted).map fun n => series.insert label (Int.repr n) := by
  obtain ⟨sorted', hsorted', -, rfl⟩ := h
  obtain rfl := hsorted.unique hsorted'
  rw [← intervals_eq_zipWith, map_labels_intervals, edge_zero]
  rfl

/-- The interval above a bucket ends at the next one. -/
theorem Deaccumulates.getElem?_succ {label : String} {unit : TimeUnit} {series : LabelSet}
    {members : List Bucket} {made : List Sample} (h : Deaccumulates label unit series members made)
    {sorted : List Bucket} (hsorted : StablySorted (fun b => orderKey b.bound) members sorted)
    {k : ℕ} {a b : Bucket} (ha : sorted[k]? = some a) (hb : sorted[k + 1]? = some b) :
    made[k + 1]? = some ⟨series.insert label (Int.repr (edge unit a.bound)), b.sample.timestamp,
      b.sample.value - a.sample.value⟩ := by
  obtain ⟨sorted', hsorted', -, rfl⟩ := h
  obtain rfl := hsorted.unique hsorted'
  rw [List.getElem?_zipWith, List.getElem?_cons_succ, List.getElem?_map, ha, hb]
  rfl

end Histogram

end MetricAlgebra
