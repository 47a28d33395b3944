/-!
# Tables of code point ranges

A set of code points as an array of ranges, its reading from text, its set algebra and a membership
test by bisection. The tables of the properties are written as text, such as `41-5A 61-7A AA`.
-/

namespace MetricAlgebra.Unicode

/-- The largest code point. -/
def maxCodePoint : Nat := 0x10FFFF

/-- Cuts a text at every occurrence of `sep`; there is always at least one piece. -/
def splitAt (sep : Char) (text : List Char) : List (List Char) :=
  text.foldr
    (fun c pieces =>
      if c = sep then [] :: pieces
      else match pieces with
        | [] => [[c]]
        | piece :: rest => (c :: piece) :: rest)
    [[]]

/-- The words of a text, between spaces and line ends. -/
def words (text : List Char) : List (List Char) :=
  (splitAt ' ' (text.map fun c => if c = '\n' then ' ' else c)).filter (!·.isEmpty)

/-- Whether a character is a hexadecimal digit. -/
def isHexDigit (c : Char) : Bool :=
  c.isDigit || ('a' ≤ c && c ≤ 'f') || ('A' ≤ c && c ≤ 'F')

/-- The value of a hexadecimal digit, and zero for any other character. -/
def hexDigitValue (c : Char) : Nat :=
  if '0' ≤ c ∧ c ≤ '9' then c.toNat - '0'.toNat
  else if 'A' ≤ c ∧ c ≤ 'F' then c.toNat - 'A'.toNat + 10
  else if 'a' ≤ c ∧ c ≤ 'f' then c.toNat - 'a'.toNat + 10
  else 0

/-- The number that hexadecimal digits write. -/
def hexValue (digits : List Char) : Nat :=
  digits.foldl (fun n c => 16 * n + hexDigitValue c) 0

/-- A set of code points, as ranges in rising order with both ends included. -/
structure RangeTable where
  /-- The ranges. Neighbours neither overlap nor touch. -/
  ranges : Array (Nat × Nat)
  deriving DecidableEq, Repr

namespace RangeTable

/-- Joins a range to the ranges before it, given latest first, all starting no later than it. -/
def join (joined : List (Nat × Nat)) (next : Nat × Nat) : List (Nat × Nat) :=
  match joined with
  | [] => [next]
  | last :: rest =>
    if next.1 ≤ last.2 + 1 then (last.1, max last.2 next.2) :: rest else next :: joined

/-- The table of all code points in any of the given ranges. -/
def ofList (ranges : List (Nat × Nat)) : RangeTable :=
  let sorted := ranges.mergeSort fun a b => a.1 ≤ b.1
  ⟨(sorted.foldl join []).reverse.toArray⟩

/-- Reads one range: two ends with a dash between, or a single code point. -/
def readRange (word : List Char) : Nat × Nat :=
  match splitAt '-' word with
  | [low, high] => (hexValue low, hexValue high)
  | _ => (hexValue word, hexValue word)

/-- Reads a table: hexadecimal ranges with white space between. -/
def ofText (text : String) : RangeTable := ofList ((words text.toList).map readRange)

/-- Whether the table holds the code point. -/
def contains (table : RangeTable) (c : Nat) : Bool :=
  go 0 table.ranges.size
where
  /-- Bisects the ranges with positions in `[lo, hi)`. -/
  go (lo hi : Nat) : Bool :=
    if lo < hi then
      let mid := (lo + hi) / 2
      match table.ranges[mid]? with
      | none => false
      | some (first, last) =>
        if c < first then go lo mid else if last < c then go (mid + 1) hi else true
    else false
  termination_by hi - lo

/-- The code points in one table or the other. -/
def union (a b : RangeTable) : RangeTable :=
  ofList (a.ranges.toList ++ b.ranges.toList)

/-- The gaps that ranges leave from `start` on. -/
def gaps (start : Nat) : List (Nat × Nat) → List (Nat × Nat)
  | [] => if start ≤ maxCodePoint then [(start, maxCodePoint)] else []
  | (first, last) :: rest =>
    if start < first then (start, first - 1) :: gaps (last + 1) rest else gaps (last + 1) rest

/-- The code points that a table does not hold. -/
def compl (a : RangeTable) : RangeTable :=
  ⟨(gaps 0 a.ranges.toList).toArray⟩

/-- The code points that both tables hold. -/
def inter (a b : RangeTable) : RangeTable :=
  (a.compl.union b.compl).compl

/-- The code points of the first table that the second does not hold. -/
def diff (a b : RangeTable) : RangeTable :=
  a.inter b.compl

end RangeTable

end MetricAlgebra.Unicode
