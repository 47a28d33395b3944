import MetricAlgebra.Unicode.RangeTable

/-!
# Runs of a property

A property that gives every code point one value, kept as the places where the value changes: the
text `0:Cc 20:Zs 21:Po` says that the value is `Cc` below 20, `Zs` at 20 and `Po` from 21 on.
-/

namespace MetricAlgebra.Unicode

/-- The places where the value of a property changes, in rising order, each with the value that
holds from there on. -/
structure Runs where
  /-- First code point and value of each run. -/
  starts : List (Nat × String)
  deriving Repr

namespace Runs

/-- Reads one run: where it starts, a colon and the value. -/
def readStart (word : List Char) : Nat × String :=
  match splitAt ':' word with
  | [start, value] => (hexValue start, String.ofList value)
  | _ => (0, "")

/-- Reads runs with white space between. -/
def ofText (text : String) : Runs := ⟨(words text.toList).map readStart⟩

/-- The runs whose value passes a test, as ranges; the last run goes on to the last code point. -/
def selectRanges (keep : String → Bool) : List (Nat × String) → List (Nat × Nat)
  | [] => []
  | [(start, value)] => if keep value then [(start, maxCodePoint)] else []
  | (start, value) :: (next, value') :: rest =>
    let later := selectRanges keep ((next, value') :: rest)
    if keep value then (start, next - 1) :: later else later

/-- The code points whose value passes a test. -/
def select (runs : Runs) (keep : String → Bool) : RangeTable :=
  RangeTable.ofList (selectRanges keep runs.starts)

end Runs

end MetricAlgebra.Unicode
