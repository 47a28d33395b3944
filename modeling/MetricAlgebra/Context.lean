import MetricAlgebra.Error

/-!
# Contexts

What travels with a family of samples to its consumer: whether the samples are buckets of
histograms, which percentiles are wanted of them, and how to reduce them to fewer points.
-/

namespace MetricAlgebra

/-- How points are reduced to one per reporting interval. -/
inductive Downsampling where
  | avg | sum | latest | sumPerMin | max | min
  deriving DecidableEq, Repr

namespace Downsampling

/-- Every kind of downsampling. -/
def all : List Downsampling := [avg, sum, latest, sumPerMin, max, min]

/-- The name of the kind, in capitals. -/
def name : Downsampling → String
  | avg => "AVG"
  | sum => "SUM"
  | latest => "LATEST"
  | sumPerMin => "SUM_PER_MIN"
  | max => "MAX"
  | min => "MIN"

/-- The kind with exactly the given name. -/
def ofName? (name : String) : Option Downsampling :=
  all.find? fun kind => kind.name == name

/-- Reads the name of a kind, in any ASCII case. -/
def read (text : String) : Except Error Downsampling :=
  match ofName? text.toUpper with
  | some kind => .ok kind
  | none => .error (.configuration (.unknownDownsampling text))

end Downsampling

/-- What travels with a family to its consumer. -/
structure Context where
  /-- Whether the samples are buckets of histograms. -/
  isHistogram : Bool := false
  /-- The percentile ranks wanted of the histograms. -/
  percentiles : Option (List Int32) := none
  /-- How to reduce the points of a reporting interval to one. -/
  downsampling : Downsampling := .avg
  deriving DecidableEq, Repr

instance : Inhabited Context := ⟨{}⟩

end MetricAlgebra
