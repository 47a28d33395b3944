import MetricAlgebra.Pattern.Match

/-!
# Searching for one match

A pattern has at most one match that counts: of those that start first, the one that every choice
prefers. It is found by a search that follows a program of small moves and tries the preferred way
first. A way that comes to a place where an earlier one has been, at the same move, fails as that
one did, and is given up.
-/

namespace MetricAlgebra.Pattern

/-- A move of a search; other moves are given by their number in the program. -/
inductive Move where
  /-- Takes a character of a set. -/
  | take (s : CharSet) (next : Nat)
  /-- Goes on if an assertion holds. -/
  | check (l : Look) (next : Nat)
  /-- Marks the place. -/
  | mark (slot : Nat) (next : Nat)
  /-- Goes one way, and the other one if that fails. -/
  | fork (first second : Nat)
  /-- Ends the search. -/
  | accept

/-- The moves of a search. -/
abbrev Program := Array Move

namespace Program

/-- Writes moves before the one with the given number, and gives the number of the first. -/
abbrev Emitter := Nat → StateM Program Nat

/-- Adds a move. -/
def add (m : Move) : StateM Program Nat :=
  modifyGet fun program => (program.size, program.push m)

/-- The way through a pattern or past it, in the order of preference. -/
def choose (greedy : Bool) (through past : Nat) : Move :=
  if greedy then .fork through past else .fork past through

/-- The pattern a number of times. -/
def emitTimes (body : Emitter) : Nat → Emitter
  | 0, next => pure next
  | n + 1, next => do body (← emitTimes body n next)

/-- The pattern at most a number of times, each but for the one before. -/
def emitUpTo (greedy : Bool) (body : Emitter) (next : Nat) : Nat → StateM Program Nat
  | 0 => pure next
  | n + 1 => do
    let through ← body (← emitUpTo greedy body next n)
    add (choose greedy through next)

/-- A loop: the numbers of the fork behind the pattern and of the pattern. -/
def emitLoop (greedy : Bool) (body : Emitter) (next : Nat) : StateM Program (Nat × Nat) := do
  let fork ← add .accept
  let through ← body fork
  modify fun program => program.setIfInBounds fork (choose greedy through next)
  pure (fork, through)

/-- The moves of a pattern. A pattern that may take nothing is looped at least once, or not at all,
so that a loop does not come back to its fork before the pattern has been tried. -/
def emit : Node → Emitter
  | .empty, next => pure next
  | .one s, next => add (.take s next)
  | .look l, next => add (.check l next)
  | .capture index n, next => do
    let stop ← add (.mark (2 * index + 1) next)
    add (.mark (2 * index) (← emit n stop))
  | .seq a b, next => do emit a (← emit b next)
  | .alt a b, next => do
    let second ← emit b next
    let first ← emit a next
    add (.fork first second)
  | .rep n min max greedy, next =>
    let body := emit n
    match max with
    | some max => do emitTimes body min (← emitUpTo greedy body next (max - min))
    | none => do
      let (fork, through) ← emitLoop greedy body next
      if min = 0 then
        if n.mayTakeNothing then add (choose greedy through next) else pure fork
      else emitTimes body (min - 1) through

/-- The program of a pattern, which marks its whole match as group zero, and its first move. -/
def ofNode (n : Node) : Program × Nat :=
  let ((start, program) : Nat × Program) :=
    (do emit (.capture 0 n) (← add .accept) : StateM Program Nat).run #[]
  (program, start)

/-- A way that is still to be tried: the move and the place to go on from, and the marks made, the
latest first. -/
structure Way where
  /-- The number of the move. -/
  move : Nat
  /-- The place in the text. -/
  place : Nat
  /-- The slots marked and their places. -/
  marks : List (Nat × Nat)

/-- The ways to go on from a way, preferred ones first. -/
def goOn (text : Array Char) (way : Way) : Move → List Way
  | .take s next =>
    if text[way.place]?.any s.contains then [{ way with move := next, place := way.place + 1 }]
    else []
  | .check l next =>
    if Node.looksTrue text l way.place then [{ way with move := next }] else []
  | .mark slot next => [{ way with move := next, marks := (slot, way.place) :: way.marks }]
  | .fork first second => [{ way with move := first }, { way with move := second }]
  | .accept => []

/-- Tries ways in order, and gives the marks of the first that is accepted. What has been tried is
kept by move and place. -/
def firstAccepted? (program : Program) (text : Array Char) :
    Nat → ByteArray → List Way → Option (List (Nat × Nat))
  | 0, _, _ | _, _, [] => none
  | limit + 1, tried, way :: ways =>
    let key := way.move * (text.size + 1) + way.place
    if tried[key]?.any (· != 0) then firstAccepted? program text limit tried ways
    else match program[way.move]? with
      | some .accept => some way.marks
      | some move =>
        firstAccepted? program text limit (tried.set! key 1) (goOn text way move ++ ways)
      | none => firstAccepted? program text limit tried ways

/-- The marks of the match in a text that counts. Every move is tried once at every place and leads
to no more than two others, which limits the number of ways. -/
def search (program : Program) (start : Nat) (text : Array Char) : Option (List (Nat × Nat)) :=
  let places := text.size + 1
  let ways := (List.range places).map fun place => ⟨start, place, []⟩
  firstAccepted? program text (places + 2 * program.size * places + 1)
    ⟨Array.replicate (program.size * places) 0⟩ ways

end Program

end MetricAlgebra.Pattern
