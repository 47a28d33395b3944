import MetricAlgebra.LruMap
import MetricAlgebra.Pattern.Engine

/-!
# A cache of patterns

The patterns used last, by their texts, in a map that forgets the others. Requests and misses are
counted, also across a clearing.
-/

namespace MetricAlgebra

/-- A cache of the patterns of an engine. -/
structure PatternCache (E : PatternEngine) (M : LruMap E.Pattern) where
  /-- The number of patterns that the cache holds at most. -/
  capacity : Nat
  /-- The patterns by their keys. -/
  patterns : M.State
  /-- How often a pattern has been asked for. -/
  requests : Nat := 0
  /-- How often it was not there. -/
  misses : Nat := 0

namespace PatternCache

variable {E : PatternEngine} {M : LruMap E.Pattern}

/-- The empty cache of a capacity, which is at least one. -/
def ofCapacity (capacity : Nat) : PatternCache E M where
  capacity := max capacity 1
  patterns := M.withCapacity (max capacity 1)

/-- The number of patterns in the cache. -/
def size (c : PatternCache E M) : Nat := M.size c.patterns

/-- Whether no pattern is in the cache. -/
def isEmpty (c : PatternCache E M) : Bool := c.size == 0

/-- Asks for a pattern. -/
def get (c : PatternCache E M) (key : String) : Option E.Pattern × PatternCache E M :=
  match M.get c.patterns key with
  | (some p, patterns) => (some p, { c with patterns, requests := c.requests + 1 })
  | (none, patterns) =>
    (none, { c with patterns, requests := c.requests + 1, misses := c.misses + 1 })

/-- Puts a pattern in. -/
def put (c : PatternCache E M) (key : String) (p : E.Pattern) : PatternCache E M :=
  { c with patterns := M.insert c.patterns key p }

/-- Asks for the pattern for whole texts that a text describes, and reads and puts in what is not
there. A text that is no pattern is not put in. -/
def getOrCompile (c : PatternCache E M) (source : String) :
    Except Error E.Pattern × PatternCache E M :=
  match c.get source with
  | (some p, c) => (.ok p, c)
  | (none, c) =>
    match E.compileAnchored source with
    | .ok p => (.ok p, c.put source p)
    | .error e => (.error e, c)

/-- Drops all patterns. -/
def clear (c : PatternCache E M) : PatternCache E M := { c with patterns := M.clear c.patterns }

end PatternCache

end MetricAlgebra
