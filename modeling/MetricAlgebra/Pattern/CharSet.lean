import MetricAlgebra.Unicode.RangeTable
import MetricAlgebra.Unicode.CaseFold

/-!
# Character sets

What a pattern can ask of a single character, as an expression: ranges and tables, the operations of
set algebra, and the closure under case folding.
-/

namespace MetricAlgebra.Pattern

open Unicode

/-- A set of characters. -/
inductive CharSet where
  /-- No character. -/
  | none
  /-- The characters from the first to the last. -/
  | range (first last : Char)
  /-- The characters of a table. -/
  | table (t : RangeTable)
  /-- The characters that are not in the set. -/
  | compl (s : CharSet)
  /-- The characters of one set or the other. -/
  | union (s t : CharSet)
  /-- The characters of both sets. -/
  | inter (s t : CharSet)
  /-- The characters of the first set that are not in the second. -/
  | diff (s t : CharSet)
  /-- The characters of exactly one of the sets. -/
  | symmDiff (s t : CharSet)
  /-- The characters that share a simple folding with one of the set. -/
  | folded (s : CharSet)
  /-- The characters that an ASCII change of case makes one of the set. -/
  | foldedAscii (s : CharSet)
  deriving DecidableEq, Repr

namespace CharSet

/-- Whether a character is in the set. -/
def contains : CharSet → Char → Bool
  | none, _ => false
  | range first last, c => first ≤ c && c ≤ last
  | table t, c => t.contains c.toNat
  | compl s, c => !s.contains c
  | union s t, c => s.contains c || t.contains c
  | inter s t, c => s.contains c && t.contains c
  | diff s t, c => s.contains c && !t.contains c
  | symmDiff s t, c => s.contains c != t.contains c
  | folded s, c => s.contains c || (foldGroup c.toNat).any fun d => s.contains (Char.ofNat d)
  | foldedAscii s, c => s.contains c || s.contains c.toLower || s.contains c.toUpper

/-- The set of one character. -/
def single (c : Char) : CharSet := range c c

/-- The union of ranges given by their ends. -/
def ofRanges : List (Char × Char) → CharSet
  | [] => none
  | (first, last) :: rest => (range first last).union (ofRanges rest)

/-! ## Sets of ASCII characters -/

/-- The ASCII digits. -/
def asciiDigit : CharSet := range '0' '9'

/-- The ASCII letters. -/
def asciiLetter : CharSet := ofRanges [('A', 'Z'), ('a', 'z')]

/-- The ASCII letters, digits and the underscore. -/
def asciiWord : CharSet := ofRanges [('0', '9'), ('A', 'Z'), ('_', '_'), ('a', 'z')]

/-- The ASCII characters of white space. -/
def asciiSpace : CharSet := ofRanges [('\t', '\r'), (' ', ' ')]

/-- The sets of ASCII characters that have a name. -/
def asciiNamed : List (String × CharSet) :=
  [("alnum", ofRanges [('0', '9'), ('A', 'Z'), ('a', 'z')]),
   ("alpha", asciiLetter),
   ("ascii", range '\x00' '\x7f'),
   ("blank", ofRanges [('\t', '\t'), (' ', ' ')]),
   ("cntrl", ofRanges [('\x00', '\x1f'), ('\x7f', '\x7f')]),
   ("digit", asciiDigit),
   ("graph", range '!' '~'),
   ("lower", range 'a' 'z'),
   ("print", range ' ' '~'),
   ("punct", ofRanges [('!', '/'), (':', '@'), ('[', '\x60'), ('\x7b', '~')]),
   ("space", asciiSpace),
   ("upper", range 'A' 'Z'),
   ("word", asciiWord),
   ("xdigit", ofRanges [('0', '9'), ('A', 'F'), ('a', 'f')])]

end CharSet

end MetricAlgebra.Pattern
