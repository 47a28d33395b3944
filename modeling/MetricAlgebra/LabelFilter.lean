import MetricAlgebra.Family
import MetricAlgebra.Pattern.Engine

/-!
# Filters on labels

The samples of a family whose labels pass tests. A sample that lacks the label of a test does not
pass it, also where the test is a negative one.
-/

namespace MetricAlgebra

/-- How the value of a label is compared with a text. -/
inductive LabelComparison where
  /-- The value is the text. -/
  | equal
  /-- The value is another text. -/
  | notEqual
  /-- The text is a pattern that matches the whole value. -/
  | fits
  /-- The text is a pattern that does not match the whole value. -/
  | fitsNot
  deriving DecidableEq, Repr

namespace LabelComparison

/-- Every comparison. -/
def all : List LabelComparison := [equal, notEqual, fits, fitsNot]

/-- The sign of the comparison. -/
def symbol : LabelComparison → String
  | equal => "="
  | notEqual => "!="
  | fits => "=~"
  | fitsNot => "!~"

/-- Whether the text is a pattern. -/
def isPattern : LabelComparison → Bool
  | equal | notEqual => false
  | fits | fitsNot => true

/-- Whether the comparison is the opposite of another one. -/
def isNegative : LabelComparison → Bool
  | equal | fits => false
  | notEqual | fitsNot => true

end LabelComparison

/-- A test on the value of a label, with the patterns of an engine. -/
inductive LabelTest (E : PatternEngine) where
  /-- The value is a text. -/
  | equal (value : String)
  /-- The value is not a text. -/
  | notEqual (value : String)
  /-- The value matches a pattern. -/
  | fits (p : E.Pattern)
  /-- The value does not match a pattern. -/
  | fitsNot (p : E.Pattern)

namespace LabelTest

/-- Whether a value passes the test. -/
def holds {E : PatternEngine} : LabelTest E → String → Bool
  | equal value, actual => actual == value
  | notEqual value, actual => actual != value
  | fits p, actual => E.isMatch p actual
  | fitsNot p, actual => !E.isMatch p actual

end LabelTest

/-- The test that compares a value with a text. -/
def LabelComparison.test (E : PatternEngine) (op : LabelComparison) (text : String) :
    Except Error (LabelTest E) :=
  match op with
  | equal => .ok (.equal text)
  | notEqual => .ok (.notEqual text)
  | fits => (E.compileAnchored text).map .fits
  | fitsNot => (E.compileAnchored text).map .fitsNot

/-- A label and a test on its value. -/
structure LabelFilter (E : PatternEngine) where
  /-- The name of the label. -/
  name : String
  /-- The test. -/
  test : LabelTest E

namespace LabelFilter

/-- Whether a sample has the label, with a value that passes the test. -/
def accepts {E : PatternEngine} (filter : LabelFilter E) (s : Sample) : Bool :=
  (s.label? filter.name).any filter.test.holds

/-- The elements of a list by twos. -/
def pairUp : List String → List (String × String)
  | name :: text :: rest => (name, text) :: pairUp rest
  | _ => []

/-- The filters of a list of names and texts in turn, which has to have an even length. -/
def ofArguments (E : PatternEngine) (op : LabelComparison) (arguments : List String) :
    Except Error (List (LabelFilter E)) :=
  if arguments.length % 2 ≠ 0 then .error (.oddLabelArguments arguments.length)
  else (pairUp arguments).mapM fun (name, text) => (op.test E text).map fun test => ⟨name, test⟩

end LabelFilter

/-- The samples that pass all of the filters that names and texts in turn make. The arguments are
checked also where there are no samples. -/
def Family.matchLabels (E : PatternEngine) (f : Family) (op : LabelComparison)
    (arguments : List String) : Except Error Family := do
  let filters ← LabelFilter.ofArguments E op arguments
  pure (f.filter fun s => filters.all fun filter => filter.accepts s)

end MetricAlgebra
