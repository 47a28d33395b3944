import MetricAlgebra.Label

/-!
# Samples

One data point of one series. Operators never change a sample: they make new ones.
-/

namespace MetricAlgebra

/-- Milliseconds since the epoch. -/
abbrev Timestamp := Int64

/-- The instant `window` milliseconds before `t`, and the first instant where there is none. -/
def Timestamp.back (t window : Int64) : Timestamp :=
  Int64.ofIntClamp (t.toInt - window.toInt)

/-- The value of a series at an instant. -/
structure Sample where
  /-- The labels that identify the series. -/
  labels : LabelSet
  /-- The instant. -/
  timestamp : Timestamp
  /-- The value. -/
  value : Float
  deriving DecidableEq

namespace Sample

/-- The value of one label of the series. -/
def label? (s : Sample) (name : String) : Option String := s.labels.get? name

/-- The same series and instant with another value. -/
def withValue (s : Sample) (value : Float) : Sample := { s with value }

/-- The same instant and value for another series. -/
def withLabels (s : Sample) (labels : LabelSet) : Sample := { s with labels }

/-- Whether two samples agree, their values as numbers: zeros of both signs agree, and what is not
a number agrees with nothing. -/
def agrees (a b : Sample) : Bool :=
  a.labels == b.labels && a.timestamp == b.timestamp && a.value.beq b.value

end Sample

end MetricAlgebra
