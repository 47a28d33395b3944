import MetricAlgebra.Decimal.Literal

/-!
# Templates

Texts with places for what the groups of a pattern have matched: `$` before a number or a name, with
or without braces around it. Two dollar signs stand for one, and one that no group follows stands
for itself.
-/

namespace MetricAlgebra.Pattern

/-- A part of a template. -/
inductive TemplatePart where
  /-- A character that stands for itself. -/
  | literal (c : Char)
  /-- What the group of a number has matched. -/
  | numbered (group : Nat)
  /-- What the group of a name has matched. -/
  | named (group : String)
  deriving DecidableEq, Repr

namespace TemplatePart

/-- Whether a character can be of a group that is not in braces. -/
def isGroupChar (c : Char) : Bool := c.isAlphanum || c == '_'

/-- The reference to a group, by its number if the text is one, and by its name if not. -/
def ofGroup (text : List Char) : TemplatePart :=
  match Decimal.natValue? text with
  | some n => numbered n
  | none => named (String.ofList text)

/-- What is behind a dollar sign, if it makes a part, and the rest of the text. -/
def reference? (text : List Char) : Option (TemplatePart × List Char) :=
  match text with
  | '$' :: rest => some (literal '$', rest)
  | '{' :: rest =>
    match rest.dropWhile (· != '}') with
    | _ :: behind => some (ofGroup (rest.takeWhile (· != '}')), behind)
    | [] => none
  | text =>
    let group := text.takeWhile isGroupChar
    if group.isEmpty then none else some (ofGroup group, text.dropWhile isGroupChar)

/-- The parts of a template. At most `limit` of them are read; a text has no more than
characters. -/
def parts : Nat → List Char → List TemplatePart
  | 0, _ | _, [] => []
  | limit + 1, '$' :: rest =>
    match reference? rest with
    | some (part, rest) => part :: parts limit rest
    | none => literal '$' :: parts limit rest
  | limit + 1, c :: rest => literal c :: parts limit rest

/-- The text of a part, given what groups have matched. -/
def expand (numberedGroup : Nat → List Char) (namedGroup : String → List Char) :
    TemplatePart → List Char
  | literal c => [c]
  | numbered group => numberedGroup group
  | named group => namedGroup group

end TemplatePart

end MetricAlgebra.Pattern
