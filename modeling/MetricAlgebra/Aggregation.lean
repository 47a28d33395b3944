import MetricAlgebra.Family
import MetricAlgebra.Grouping

/-!
# Aggregation

Samples are grouped by the values of some labels, and each group gives one sample. Groups come in
the order of their first members, whose instants they take.
-/

namespace MetricAlgebra

/-- A way to make one value of the values of a group. -/
inductive Reduction where
  | sum | avg | max | min | count
  deriving DecidableEq, Repr

/-- The name of the reduction. -/
def Reduction.name : Reduction → String
  | sum => "sum"
  | avg => "avg"
  | max => "max"
  | min => "min"
  | count => "count"

/-- What is known of a group after some of its members. -/
structure Tally where
  /-- The instant of the first member. -/
  timestamp : Timestamp
  /-- The sum, from zero and in order. -/
  sum : Float := 0.0
  /-- The least value; not a number once a member is none. -/
  min : Float := 1.0 / 0.0
  /-- The greatest value; not a number once a member is none. -/
  max : Float := -1.0 / 0.0
  /-- The number of members. -/
  count : Nat := 0

namespace Tally

/-- The tally of a group before its members, given the first one. -/
def ofFirst (s : Sample) : Tally := { timestamp := s.timestamp }

/-- The tally with one member more. What is not a number stays once it is there: no value is below
or above it. -/
def push (t : Tally) (s : Sample) : Tally :=
  { t with
    sum := t.sum + s.value
    min := if s.value.isNaN || s.value < t.min then s.value else t.min
    max := if s.value.isNaN || s.value > t.max then s.value else t.max
    count := t.count + 1 }

/-- The value that a reduction gives the group. -/
def value (t : Tally) : Reduction → Float
  | .sum => t.sum
  | .avg => t.sum / Float.ofNat t.count
  | .max => t.max
  | .min => t.min
  | .count => Float.ofNat t.count

end Tally

namespace Family

/-- The labels that a sample is grouped by: its values at the given names, and no labels at all if
no names are given. -/
def groupLabels (names : Option (List String)) (s : Sample) : LabelSet :=
  match names with
  | some names => s.labels.project names
  | none => .empty

/-- The tallies of the groups of samples with the same key, in the order of their first members. -/
def tallies (key : Sample → LabelSet) (samples : List Sample) : List (LabelSet × Tally) :=
  Grouping.collect key Tally.ofFirst Tally.push samples

/-- One sample per group of samples that agree on the given labels, where a label that is missing
counts as empty. Without labels all samples are one group. -/
def aggregate (f : Family) (how : Reduction) (names : Option (List String)) : Family :=
  match f with
  | empty => empty
  | populated batch =>
    ofSamples batch.context
      ((tallies (groupLabels names) batch.samples).map fun (labels, tally) =>
        ⟨labels, tally.timestamp, tally.value how⟩)

end Family

end MetricAlgebra
