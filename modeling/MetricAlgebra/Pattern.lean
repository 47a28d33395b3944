import MetricAlgebra.Pattern.Engine
import MetricAlgebra.Pattern.Parser
import MetricAlgebra.Pattern.Program
import MetricAlgebra.Pattern.Template

/-!
# Patterns

Regular expressions over texts of Unicode characters, read by a parser and matched by programs of
their nodes. They make an engine (`Pattern.engine`).
-/

namespace MetricAlgebra

/-- A pattern that has been read. -/
structure Pattern where
  /-- The text of the pattern. -/
  source : String
  /-- What it says. -/
  node : Pattern.Node
  /-- The names of groups and their numbers. -/
  names : List (String × Nat)

namespace Pattern

/-- Reads a pattern. What is reported of a text that is none is the text. -/
def compile (source : String) : Except String Pattern :=
  match read? source.toList with
  | some st => .ok ⟨source, st.groupNode, st.names⟩
  | none => .error source

/-- Whether the pattern matches somewhere in a text. -/
def isMatch (p : Pattern) (text : String) : Bool := p.node.isMatch text.toList.toArray

/-- What the groups of a pattern have matched in a text. -/
structure Captures where
  /-- The text. -/
  text : Array Char
  /-- The names of groups and their numbers. -/
  names : List (String × Nat)
  /-- The marks of the match, latest first: the start of group `n` in slot `2 * n` and its end in
  the slot behind. -/
  marks : List (Nat × Nat)

namespace Captures

/-- What a group has matched, and nothing if it has taken no part. -/
def group (captures : Captures) (n : Nat) : List Char :=
  match captures.marks.lookup (2 * n), captures.marks.lookup (2 * n + 1) with
  | some start, some stop => (captures.text.extract start stop).toList
  | _, _ => []

/-- What the group of a name has matched, and nothing if there is none. -/
def namedGroup (captures : Captures) (name : String) : List Char :=
  match captures.names.lookup name with
  | some n => captures.group n
  | none => []

/-- A template with what the groups have matched put in. -/
def expand (captures : Captures) (template : String) : String :=
  let parts := TemplatePart.parts template.toList.length template.toList
  String.ofList (parts.flatMap (TemplatePart.expand captures.group captures.namedGroup))

end Captures

/-- The match in a text, of which there is one exactly if the pattern matches somewhere. -/
def captures? (p : Pattern) (text : String) : Option Captures :=
  let chars := text.toList.toArray
  if p.node.isMatch chars then
    let (program, start) := Program.ofNode p.node
    some ⟨chars, p.names, (program.search start chars).getD []⟩
  else none

/-- The engine of these patterns. -/
def engine : PatternEngine where
  Pattern := Pattern
  Captures := Captures
  compile := compile
  isMatch := isMatch
  captures? := captures?
  expand := Captures.expand

end Pattern

end MetricAlgebra
