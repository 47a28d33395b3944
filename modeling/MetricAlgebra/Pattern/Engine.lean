import MetricAlgebra.Error

/-!
# Engines for patterns

Regular expressions are read and matched by an engine. Nothing here says how it does that: filters
and edits of labels take an engine and use its operations, and its reports go into their failures.
A pattern for whole texts is made of one for a part of it by anchors at both ends of the text of
the pattern.
-/

namespace MetricAlgebra

/-- An engine for regular expressions over texts of Unicode characters. -/
structure PatternEngine where
  /-- Patterns that have been read. -/
  Pattern : Type
  /-- What the groups of a pattern have matched in a text. -/
  Captures : Type
  /-- Reads a pattern, or reports why the text is none. -/
  compile : String → Except String Pattern
  /-- Whether a pattern matches somewhere in a text. -/
  isMatch : Pattern → String → Bool
  /-- The match of a pattern in a text, if there is one. -/
  captures? : Pattern → String → Option Captures
  /-- A template with what the groups have matched put in. -/
  expand : Captures → String → String

namespace PatternEngine

/-- The text of a pattern between anchors at the start and the end of the text. -/
def anchored (source : String) : String := "^(?:" ++ source ++ ")$"

/-- Reads a pattern for whole texts. A failure has the report of the engine. -/
def compileAnchored (E : PatternEngine) (source : String) : Except Error E.Pattern :=
  match E.compile (anchored source) with
  | .ok p => .ok p
  | .error report => .error (.invalidPattern report)

end PatternEngine

end MetricAlgebra
