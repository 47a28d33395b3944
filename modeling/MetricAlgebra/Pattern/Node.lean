import MetricAlgebra.Pattern.CharSet
import MetricAlgebra.Pattern.Look

/-!
# Pattern trees

What a pattern says, as a tree. The order of the branches of a choice, and whether a repetition is
greedy, do not matter for what a pattern matches, but for which of several matches is taken.
-/

namespace MetricAlgebra.Pattern

/-- A pattern as a tree. -/
inductive Node where
  /-- The empty text. -/
  | empty
  /-- One character of a set. -/
  | one (s : CharSet)
  /-- The empty text at a place that passes an assertion. -/
  | look (l : Look)
  /-- What the inner pattern matches, which is remembered under a number. -/
  | capture (index : Nat) (n : Node)
  /-- A match of the first pattern and one of the second behind it. -/
  | seq (a b : Node)
  /-- A match of the first pattern, or else of the second. -/
  | alt (a b : Node)
  /-- At least `min` and, if there is a `max`, at most `max` matches one behind the other; as many
  as can be if greedy, and as few as can be if not. -/
  | rep (n : Node) (min : Nat) (max : Option Nat) (greedy : Bool)
  deriving DecidableEq, Repr

namespace Node

/-- Whether the pattern takes no character whatever it matches. -/
def takesNothing : Node → Bool
  | empty | look _ => true
  | one _ => false
  | capture _ n => n.takesNothing
  | seq a b => a.takesNothing && b.takesNothing
  | alt a b => a.takesNothing && b.takesNothing
  | rep n _ max _ => max == some 0 || n.takesNothing

/-- Whether the pattern may match without taking a character, as far as its shape shows. -/
def mayTakeNothing : Node → Bool
  | empty | look _ => true
  | one _ => false
  | capture _ n => n.mayTakeNothing
  | seq a b => a.mayTakeNothing && b.mayTakeNothing
  | alt a b => a.mayTakeNothing || b.mayTakeNothing
  | rep n min _ _ => min == 0 || n.mayTakeNothing

/-- A repetition. What takes nothing needs no more than one repetition. -/
def repeated (n : Node) (min : Nat) (max : Option Nat) (greedy : Bool) : Node :=
  if n.takesNothing then
    rep n (Nat.min min 1) (some (match max with | some m => Nat.min m 1 | none => 1)) greedy
  else rep n min max greedy

/-- A sequence without needless empty ends. -/
def followedBy (a b : Node) : Node :=
  match b with
  | empty => a
  | b => seq a b

end Node

end MetricAlgebra.Pattern
