import MetricAlgebra.Family
import MetricAlgebra.Grouping
import MetricAlgebra.Binary64
import MetricAlgebra.Decimal.Literal
import MetricAlgebra.Text.Blank

/-!
# Histograms

Cumulative buckets count all observations up to a bound. Here they are turned into the counts of
the intervals between neighbouring bounds, each labelled with the lower end of its interval.
-/

namespace MetricAlgebra

/-- A cumulative bucket: its bound and the sample that counts up to it. -/
structure Bucket where
  /-- The upper bound, a number or infinity. -/
  bound : Float
  /-- The sample. -/
  sample : Sample

namespace Histogram

/-- The label that holds the bound of a bucket where no other is given. -/
def boundLabel : String := "le"

/-- Reads the bound of a bucket, which may have white space around it. -/
def readBound (text : String) : Except Error Float :=
  match Decimal.float? (Text.trim text) with
  | some bound => if bound.isNaN then .error (.invalidBound text) else .ok bound
  | none => .error (.invalidBound text)

/-- A bound as the label of an interval: whole milliseconds, of which the unit has `scale`. -/
def edgeText (bound : Float) (scale : Nat) : String :=
  Int.repr (Binary64.truncate (bound * Float.ofNat scale)).toInt

/-- The buckets of a list of samples, by the labels other than the bound, in the order in which
these first appear. Samples without a bound are left out, and the first bound that cannot be read
is a failure. -/
def groups (label : String) (samples : List Sample) :
    Except Error (List (LabelSet × List Bucket)) := do
  let buckets ← (samples.filterMap fun s => (s.label? label).map fun raw => (raw, s)).mapM
    fun (raw, s) => (readBound raw).map fun bound => (⟨bound, s⟩ : Bucket)
  pure (Grouping.collect (fun b => b.sample.labels.erase label) (fun _ => [])
    (fun members b => members ++ [b]) buckets)

/-- Buckets in rising order of bounds; those of one bound keep their order. -/
def sortBuckets (buckets : List Bucket) : List Bucket :=
  buckets.mergeSort fun a b => Binary64.orderKey a.bound ≤ Binary64.orderKey b.bound

/-- The intervals between sorted buckets, from the bound and count before the first of them. -/
def intervals (series : LabelSet) (label : String) (scale : Nat) (bound count : Float) :
    List Bucket → List Sample
  | [] => []
  | b :: rest =>
    ⟨series.insert label (edgeText bound scale), b.sample.timestamp, b.sample.value - count⟩ ::
      intervals series label scale b.bound b.sample.value rest

/-- The intervals of one histogram. -/
def deaccumulate (label : String) (scale : Nat) (series : LabelSet) (buckets : List Bucket) :
    List Sample :=
  intervals series label scale 0.0 0.0 (sortBuckets buckets)

end Histogram

namespace Family

/-- Turns cumulative buckets into the counts of intervals. The bounds are in the label given, in
the unit given, which has to have a whole millisecond. -/
def histogram (f : Family) (label : String) (unit : TimeUnit) : Except Error Family :=
  if unit.millis = 0 then .error (.timeUnit (.tooFine unit))
  else match f with
    | empty => .ok empty
    | populated batch => do
      let groups ← Histogram.groups label batch.samples
      pure (ofSamples { batch.context with isHistogram := true }
        (groups.flatMap fun (series, buckets) =>
          Histogram.deaccumulate label unit.millis series buckets))

/-- Whether a rank is a percentile rank. -/
def isRank (rank : Int32) : Bool := 0 ≤ rank.toInt && rank.toInt ≤ 100

/-- Asks for percentiles of the histograms. The values are not computed here. -/
def histogramPercentile (f : Family) (ranks : List Int32) : Except Error Family :=
  match ranks.find? (!isRank ·) with
  | some rank => .error (.invalidPercentile rank)
  | none => match f with
    | empty => .ok empty
    | populated batch =>
      if batch.context.isHistogram then
        .ok (f.mapContext fun context => { context with percentiles := some ranks })
      else .error .notHistogram

end Family

end MetricAlgebra
