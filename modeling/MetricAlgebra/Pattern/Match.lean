import MetricAlgebra.Pattern.Node

/-!
# Matching

Where the matches of a pattern end, for all the places where they may start at once. A text of `n`
characters has the places `0` to `n`, and a set of places is a number whose bits are its members, so
that the choice between two patterns is the union of what they reach.
-/

namespace MetricAlgebra.Pattern

/-- A set of places in a text: the place `p` is in it if bit `p` is set. -/
abbrev Places := Nat

namespace Places

/-- The places of a text of `size` characters that pass a test. -/
def ofTest (size : Nat) (test : Nat → Bool) : Places :=
  (List.range (size + 1)).foldl (fun set p => if test p then set ||| 1 <<< p else set) 0

/-- All places of a text of `size` characters. -/
def all (size : Nat) : Places := 1 <<< (size + 1) - 1

/-- What a step reaches from a set in at most `limit` steps, the set itself included. -/
def spread (step : Places → Places) : Nat → Places → Places
  | 0, set => set
  | limit + 1, set =>
    let wider := set ||| step set
    if wider = set then set else spread step limit wider

end Places

/-- How a pattern leads from the places where matches start to those where they end. -/
structure Reach where
  /-- The places where matches from a set of places end. -/
  ends : Places → Places

namespace Reach

/-- First one pattern and then another from where its matches end. Like its companions it is not
inlined, so that what a pattern reaches is prepared once for a text and not again for each set. -/
@[noinline] def andThen (r s : Reach) : Reach := ⟨fun set => s.ends (r.ends set)⟩

/-- One pattern or another. -/
@[noinline] def orElse (r s : Reach) : Reach := ⟨fun set => r.ends set ||| s.ends set⟩

/-- A pattern `least` times, and then up to `more` times. -/
@[noinline] def times (r : Reach) (least more : Nat) : Reach :=
  ⟨fun set => Places.spread r.ends more (Nat.repeat r.ends least set)⟩

/-- Nothing, at some places. -/
@[noinline] def stayAt (places : Places) : Reach := ⟨fun set => set &&& places⟩

/-- One character, from the places before it. -/
@[noinline] def stepFrom (places : Places) : Reach := ⟨fun set => (set &&& places) <<< 1⟩

end Reach

namespace Node

/-- The places before a character of a set. -/
def placesBefore (text : Array Char) (s : CharSet) : Places :=
  Places.ofTest text.size fun p => text[p]?.any s.contains

/-- The characters before and after a place. -/
def neighbours (text : Array Char) (p : Nat) : Option Char × Option Char :=
  (if p = 0 then none else text[p - 1]?, text[p]?)

/-- Whether an assertion holds at a place. -/
def looksTrue (text : Array Char) (l : Look) (p : Nat) : Bool :=
  let (before, after) := neighbours text p
  l.holds before after

/-- How a pattern leads through a text. An unbounded repetition adds a place with every round that
adds anything, so that there are no more rounds than places. -/
def reach (text : Array Char) : Node → Reach
  | empty => ⟨id⟩
  | one s => .stepFrom (placesBefore text s)
  | look l => .stayAt (Places.ofTest text.size (looksTrue text l))
  | capture _ n => n.reach text
  | seq a b => (a.reach text).andThen (b.reach text)
  | alt a b => (a.reach text).orElse (b.reach text)
  | rep n min (some max) _ => (n.reach text).times min (max - min)
  | rep n min none _ => (n.reach text).times min (text.size + 1)

/-- Whether a pattern matches somewhere in a text. -/
def isMatch (n : Node) (text : Array Char) : Bool :=
  (n.reach text).ends (Places.all text.size) != 0

/-- Whether a pattern matches the whole of a text. -/
def isFullMatch (n : Node) (text : Array Char) : Bool :=
  ((n.reach text).ends 1).testBit text.size

end Node

end MetricAlgebra.Pattern
