import MetricAlgebra.Json.Decode
import MetricAlgebra.Aggregation
import MetricAlgebra.Arithmetic
import MetricAlgebra.LabelFilter
import MetricAlgebra.Lookback
import MetricAlgebra.ValueFilter

/-!
# Choices in JSON

The names by which JSON texts refer to units, policies and operations.
-/

namespace MetricAlgebra

/-- Reads the name of a unit. -/
def TimeUnit.ofJson? : Json → Option TimeUnit := Json.toChoice? all name

/-- The name of a unit. -/
def TimeUnit.toJson (unit : TimeUnit) : Json := .ofString unit.name

/-- Reads the name of a kind of downsampling. -/
def Downsampling.ofJson? : Json → Option Downsampling := Json.toChoice? all name

/-- The name of a kind of downsampling. -/
def Downsampling.toJson (kind : Downsampling) : Json := .ofString kind.name

/-- Reads the name of a policy. -/
def MissPolicy.ofJson? : Json → Option MissPolicy := Json.toChoice? all name

/-- The name of a policy. -/
def MissPolicy.toJson (policy : MissPolicy) : Json := .ofString policy.name

namespace BinaryOp

/-- The word for an operation. -/
def word : BinaryOp → String
  | add => "Add"
  | sub => "Sub"
  | mul => "Mul"
  | div => "Div"

/-- Reads the word for an operation. -/
def ofJson? : Json → Option BinaryOp := Json.toChoice? [add, sub, mul, div] word

/-- The word for an operation. -/
def toJson (op : BinaryOp) : Json := .ofString op.word

end BinaryOp

namespace Reduction

/-- The word for a reduction. -/
def word : Reduction → String
  | sum => "Sum"
  | avg => "Avg"
  | max => "Max"
  | min => "Min"
  | count => "Count"

/-- Reads the word for a reduction. -/
def ofJson? : Json → Option Reduction := Json.toChoice? [sum, avg, max, min, count] word

/-- The word for a reduction. -/
def toJson (how : Reduction) : Json := .ofString how.word

end Reduction

namespace LabelComparison

/-- The word for a comparison. -/
def word : LabelComparison → String
  | equal => "Equal"
  | notEqual => "NotEqual"
  | fits => "MatchRegexp"
  | fitsNot => "NotMatchRegexp"

/-- Reads the word for a comparison. -/
def ofJson? : Json → Option LabelComparison := Json.toChoice? all word

/-- The word for a comparison. -/
def toJson (op : LabelComparison) : Json := .ofString op.word

end LabelComparison

namespace Comparison

/-- The word for a relation. -/
def word : Comparison → String
  | equal => "Equal"
  | notEqual => "NotEqual"
  | greater => "Greater"
  | greaterEqual => "GreaterEqual"
  | less => "Less"
  | lessEqual => "LessEqual"

/-- Reads the word for a relation. -/
def ofJson? : Json → Option Comparison :=
  Json.toChoice? [equal, notEqual, greater, greaterEqual, less, lessEqual] word

/-- The word for a relation. -/
def toJson (relation : Comparison) : Json := .ofString relation.word

end Comparison

end MetricAlgebra
