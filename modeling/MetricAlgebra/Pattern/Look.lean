import MetricAlgebra.Unicode.Property

/-!
# Assertions

What a pattern can ask of a place in a text without taking a character. Every assertion is decided
by the characters next to the place.
-/

namespace MetricAlgebra.Pattern

/-- How a place lies to words. -/
inductive WordEdge where
  /-- A word starts or stops. -/
  | boundary
  /-- No word starts or stops. -/
  | notBoundary
  /-- A word starts. -/
  | start
  /-- A word stops. -/
  | stop
  /-- There is no word character before. -/
  | startHalf
  /-- There is no word character after. -/
  | stopHalf
  deriving DecidableEq, Repr

/-- Whether an edge lies between what is before and after, given by being of words. -/
def WordEdge.holds : WordEdge → Bool → Bool → Bool
  | boundary, before, after => before != after
  | notBoundary, before, after => before == after
  | start, before, after => !before && after
  | stop, before, after => before && !after
  | startHalf, before, _ => !before
  | stopHalf, _, after => !after

/-- An assertion on a place in a text. -/
inductive Look where
  /-- The start of the text. -/
  | textStart
  /-- The end of the text. -/
  | textEnd
  /-- The start of a line, after a line feed. -/
  | lineStart
  /-- The end of a line, before a line feed. -/
  | lineEnd
  /-- The start of a line, where a carriage return may end lines too. -/
  | lineStartCrlf
  /-- The end of a line, where a carriage return may end lines too. -/
  | lineEndCrlf
  /-- A place at a word, where words are of every script or of ASCII alone. -/
  | word (edge : WordEdge) (ascii : Bool)
  deriving DecidableEq, Repr

namespace Look

/-- Whether a character belongs to words of ASCII. -/
def isAsciiWord (c : Char) : Bool := c.isAlphanum || c == '_'

/-- Whether a character belongs to words of any script. -/
def isWord (c : Char) : Bool :=
  if c.toNat < 128 then isAsciiWord c else Unicode.wordCharacters.contains c.toNat

/-- Whether the assertion holds between two characters, either of which may be missing. -/
def holds (look : Look) (before after : Option Char) : Bool :=
  match look with
  | textStart => before.isNone
  | textEnd => after.isNone
  | lineStart => before.isNone || before == some '\n'
  | lineEnd => after.isNone || after == some '\n'
  | lineStartCrlf =>
    before.isNone || before == some '\n' || (before == some '\r' && after != some '\n')
  | lineEndCrlf =>
    after.isNone || after == some '\r' || (after == some '\n' && before != some '\r')
  | word edge ascii =>
    let isWordChar := if ascii then isAsciiWord else isWord
    edge.holds (before.any isWordChar) (after.any isWordChar)

end Look

end MetricAlgebra.Pattern
