import MetricAlgebra.Family

/-!
# Value filters

The samples of a family whose values stand in a given relation to a threshold.
-/

namespace MetricAlgebra

/-- A relation between a value and a threshold. -/
inductive Comparison where
  | equal | notEqual | greater | greaterEqual | less | lessEqual
  deriving DecidableEq, Repr

/-- Whether the relation holds. What is not a number is unequal to everything, and neither below
nor above anything. -/
def Comparison.holds : Comparison → Float → Float → Bool
  | equal, x, t => x.beq t
  | notEqual, x, t => !x.beq t
  | greater, x, t => t.lt x
  | greaterEqual, x, t => t.le x
  | less, x, t => x.lt t
  | lessEqual, x, t => x.le t

/-- The samples whose values stand in the relation to the threshold. -/
def Family.filterValues (f : Family) (relation : Comparison) (threshold : Float) : Family :=
  f.filter fun s => relation.holds s.value threshold

end MetricAlgebra
