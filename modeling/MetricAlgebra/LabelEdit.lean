import MetricAlgebra.Family
import MetricAlgebra.Pattern.Engine

/-!
# Edits of labels

Changes to the labels of samples, one after the other. Values and instants stay, and so does the
order of the samples.
-/

namespace MetricAlgebra

/-- A change to a set of labels. -/
inductive LabelEdit where
  /-- Puts a value at a name. -/
  | set (name value : String)
  /-- Drops the label of a name. -/
  | remove (name : String)
  /-- Moves the value at one name to another; nothing if there is none. -/
  | rename (source target : String)
  /-- Puts the value at one name at another too; nothing if there is none. -/
  | copy (source target : String)
  /-- If a pattern matches the whole value at a name, puts a template at another name, filled with
  what the groups of the pattern have matched. A missing value counts as the empty text. -/
  | replace (source pattern template target : String)
  deriving DecidableEq, Repr

namespace LabelEdit

/-- The set of labels after a change. -/
def apply (E : PatternEngine) (edit : LabelEdit) (labels : LabelSet) : Except Error LabelSet :=
  match edit with
  | set name value => .ok (labels.insert name value)
  | remove name => .ok (labels.erase name)
  | rename source target =>
    match labels.get? source with
    | some value => .ok ((labels.erase source).insert target value)
    | none => .ok labels
  | copy source target =>
    match labels.get? source with
    | some value => .ok (labels.insert target value)
    | none => .ok labels
  | replace source pattern template target => do
    let p ← E.compileAnchored pattern
    match E.captures? p (labels.getD source) with
    | some captures => pure (labels.insert target (E.expand captures template))
    | none => pure labels

/-- The set of labels after a list of changes, the first one first. -/
def applyAll (E : PatternEngine) (edits : List LabelEdit) (labels : LabelSet) :
    Except Error LabelSet :=
  edits.foldlM (fun labels edit => edit.apply E labels) labels

end LabelEdit

namespace Family

/-- The samples with their labels changed; the first failure is that of the whole. -/
def relabel (f : Family) (change : LabelSet → Except Error LabelSet) : Except Error Family :=
  match f with
  | empty => .ok empty
  | populated batch => do
    let samples ← batch.samples.mapM fun s => (change s.labels).map s.withLabels
    pure (ofSamples batch.context samples)

/-- The samples with their labels edited. -/
def edit (E : PatternEngine) (f : Family) (edits : List LabelEdit) : Except Error Family :=
  f.relabel (LabelEdit.applyAll E edits)

end Family

end MetricAlgebra
