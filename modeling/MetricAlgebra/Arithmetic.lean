import MetricAlgebra.Family

/-!
# Arithmetic on families

The four operations on values, of a family with a number and of two families series by series. Two
families are joined on equal label sets; the left one gives labels, instants and context.
-/

namespace MetricAlgebra

/-- An arithmetic operation on values. -/
inductive BinaryOp where
  | add | sub | mul | div
  deriving DecidableEq, Repr

namespace BinaryOp

/-- The sign of the operation. -/
def symbol : BinaryOp → String
  | add => "+"
  | sub => "-"
  | mul => "*"
  | div => "/"

/-- The operation in floating point: a quotient by zero is infinite or not a number. -/
def apply : BinaryOp → Float → Float → Float
  | add, x, y => x + y
  | sub, x, y => x - y
  | mul, x, y => x * y
  | div, x, y => x / y

end BinaryOp

namespace Family

/-- The operation with a number on the right. -/
def scalarOp (f : Family) (op : BinaryOp) (y : Float) : Family :=
  f.mapValues fun x => op.apply x y

/-- Every value negated. -/
def negative (f : Family) : Family := f.mapValues (-·)

/-- The values of a list of samples by label set; of two samples of one set the first one counts. -/
def valueIndex (samples : List Sample) : List (LabelSet × Float) :=
  samples.foldl
    (fun index s =>
      if (index.lookup s.labels).isSome then index else index ++ [(s.labels, s.value)])
    []

/-- Joins two batches on equal label sets: the left sample with the value of the operation, for each
left sample whose label set the right batch has. -/
def join (op : BinaryOp) (left right : Batch) : Family :=
  let index := valueIndex right.samples
  ofSamples left.context
    (left.samples.filterMap fun s =>
      (index.lookup s.labels).map fun y => s.withValue (op.apply s.value y))

/-- Combines two families series by series. Where one of them is empty it counts as zero at every
series of the other, save that a product with no data is no data. -/
def binaryOp (op : BinaryOp) (left right : Family) : Family :=
  match op, left, right with
  | _, empty, empty => empty
  | .mul, empty, _ => empty
  | .mul, _, empty => empty
  | .add, empty, right => right
  | .add, left, empty => left
  | .sub, empty, right => right.negative
  | .sub, left, empty => left
  | .div, empty, right => right.mapValues (0.0 / ·)
  | .div, left, empty => left.scalarOp .div 0.0
  | op, populated left, populated right => join op left right

end Family

end MetricAlgebra
