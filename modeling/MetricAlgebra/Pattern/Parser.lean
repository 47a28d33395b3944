import MetricAlgebra.Pattern.Node
import MetricAlgebra.Pattern.Property
import MetricAlgebra.Text.Blank

/-!
# Reading patterns

The grammar of patterns. A text is read from left to right, one step at a time; a step takes at
least one character. The state holds the flags in force, what has been read of the current branch,
and the groups that are still open. Every reader gives `none` for a text that is no pattern.
-/

namespace MetricAlgebra.Pattern

open Unicode Text

/-! ## Flags and space -/

/-- The flags in force at a place in a pattern. -/
structure Flags where
  /-- Case does not matter. -/
  caseless : Bool := false
  /-- `^` and `$` also match at the ends of lines. -/
  multiLine : Bool := false
  /-- `.` also matches a line feed. -/
  dotAll : Bool := false
  /-- Repetitions are lazy, and greedy with a question mark. -/
  swapGreed : Bool := false
  /-- Classes are of every script, not of ASCII alone. -/
  unicode : Bool := true
  /-- A carriage return may end a line too. -/
  crlf : Bool := false
  /-- White space and comments do not count. -/
  verbose : Bool := false
  deriving DecidableEq, Repr

/-- Drops white space and comments, each from a `#` to the end of its line. -/
def skipBlank (inComment : Bool) : List Char → List Char
  | [] => []
  | c :: rest =>
    if inComment then skipBlank (c != '\n') rest
    else if isBlank c then skipBlank false rest
    else if c = '#' then skipBlank true rest
    else c :: rest

/-- Drops what does not count under the flags. -/
def skip (flags : Flags) (text : List Char) : List Char :=
  if flags.verbose then skipBlank false text else text

/-- Takes the characters up to a closing brace, and what is behind it. -/
def untilBrace (flags : Flags) : Nat → List Char → Option (List Char × List Char)
  | 0, _ => none
  | fuel + 1, text =>
    match skip flags text with
    | [] => none
    | '}' :: rest => some ([], rest)
    | c :: rest => (untilBrace flags fuel rest).map fun (inner, rest) => (c :: inner, rest)

/-- Takes as many characters of a kind as there are. -/
def takeRun (flags : Flags) (keep : Char → Bool) : Nat → List Char → List Char × List Char
  | 0, text => ([], text)
  | fuel + 1, text =>
    match text with
    | [] => ([], [])
    | c :: rest =>
      if keep c then
        let (run, rest) := takeRun flags keep fuel (skip flags rest)
        (c :: run, rest)
      else ([], c :: rest)

/-! ## Escapes -/

/-- What an escape or a plain character stands for. -/
inductive Atom where
  /-- A character; `isByte` if it is written with exactly two hexadecimal digits. -/
  | literal (c : Char) (isByte : Bool)
  /-- An assertion. -/
  | look (l : Look)
  /-- A class of characters. -/
  | charSet (s : CharSet)

/-- The character that hexadecimal digits number, of which there has to be one. -/
def hexChar? (digits : List Char) : Option Char :=
  let n := hexValue digits
  if digits.isEmpty || !digits.all isHexDigit then none
  else if h : n.isValidChar then some (Char.ofNatAux n h) else none

/-- Takes a given number of characters. -/
def takeExactly (flags : Flags) : Nat → List Char → Option (List Char × List Char)
  | 0, text => some ([], text)
  | n + 1, text =>
    match skip flags text with
    | [] => none
    | c :: rest => (takeExactly flags n rest).map fun (taken, rest) => (c :: taken, rest)

/-- A character by its number: braces around any number of digits, or `width` digits. -/
def hexEscape? (flags : Flags) (width : Nat) (text : List Char) : Option (Atom × List Char) :=
  match skip flags text with
  | '{' :: rest =>
    (untilBrace flags (rest.length + 1) rest).bind fun (digits, rest) =>
      (hexChar? digits).map fun c => (.literal c false, rest)
  | text =>
    (takeExactly flags width text).bind fun (digits, rest) =>
      (hexChar? digits).map fun c => (.literal c (width == 2), rest)

/-- A set closed under case folding if the flags say that case does not matter. -/
def fold (flags : Flags) (s : CharSet) : CharSet :=
  if flags.caseless then (if flags.unicode then s.folded else s.foldedAscii) else s

/-- A set or its complement. Without Unicode there is no complement: it would hold bytes that are
no characters. -/
def negateIf (flags : Flags) (negated : Bool) (s : CharSet) : Option CharSet :=
  if negated then (if flags.unicode then some s.compl else none) else some s

/-- The class of digits, white space or word characters that a letter stands for; its complement
if the letter is a capital. -/
def letterClass? (flags : Flags) (letter : Char) : Option CharSet :=
  let set? : Option CharSet := match letter.toLower with
    | 'd' => some (if flags.unicode then .table decimalDigits else .asciiDigit)
    | 's' => some (if flags.unicode then .table whiteSpace else .asciiSpace)
    | 'w' => some (if flags.unicode then .table wordCharacters else .asciiWord)
    | _ => none
  set?.bind (negateIf flags letter.isUpper)

/-- Reads the name of a class: in braces, or a single letter. -/
def classTable? (flags : Flags) : List Char → Option (RangeTable × List Char)
  | [] => none
  | '{' :: rest =>
    (untilBrace flags (rest.length + 1) rest).bind fun (inner, rest) =>
      (braceClass? inner).map fun table => (table, rest)
  | '\\' :: _ => none
  | c :: rest => (namedClass? [c]).map fun table => (table, rest)

/-- A class named behind `p` or `P`. -/
def namedClassEscape? (flags : Flags) (negated : Bool) (text : List Char) :
    Option (Atom × List Char) :=
  if flags.unicode then
    (classTable? flags (skip flags text)).bind fun (table, rest) =>
      (negateIf flags negated (fold flags (.table table))).map fun s => (.charSet s, rest)
  else none

/-- Whether a character may stand in the name of an edge of words. -/
def isEdgeChar (c : Char) : Bool := c.isAlpha || c == '-'

/-- The edge of words that a name in braces asks for. -/
def namedEdge? (name : List Char) : Option WordEdge :=
  match String.ofList name with
  | "start" => some .start
  | "end" => some .stop
  | "start-half" => some .startHalf
  | "end-half" => some .stopHalf
  | _ => none

/-- Reads the name of an edge of words up to the closing brace. -/
def edgeName? (flags : Flags) (text : List Char) : Option (WordEdge × List Char) :=
  match takeRun flags isEdgeChar text.length text with
  | (name, '}' :: rest) => (namedEdge? name).map fun edge => (edge, rest)
  | _ => none

/-- The edge of words behind `b`: a plain boundary, or one that braces name. Braces that name
nothing are left for a repetition. -/
def edgeEscape? (flags : Flags) (text : List Char) : Option (WordEdge × List Char) :=
  match text with
  | '{' :: rest =>
    let behind := skip flags rest
    if behind.head?.any isEdgeChar then edgeName? flags behind else some (.boundary, text)
  | _ => some (.boundary, text)

/-- Whether a character stands for itself behind a backslash: ASCII characters do that are neither
letters nor digits nor angle brackets. -/
def isEscapable (c : Char) : Bool :=
  c.toNat < 128 && !c.isAlphanum && c != '<' && c != '>'

/-- The characters that letters behind a backslash stand for. -/
def letterEscape? : Char → Option Char
  | 'a' => some '\x07'
  | 'f' => some '\x0c'
  | 't' => some '\t'
  | 'n' => some '\n'
  | 'r' => some '\r'
  | 'v' => some '\x0b'
  | _ => none

/-- Reads an escape, given what is behind the backslash. -/
def escape? (flags : Flags) : List Char → Option (Atom × List Char)
  | [] => none
  | c :: rest =>
    let edge (e : WordEdge) : Atom := .look (.word e !flags.unicode)
    match c with
    | 'x' => hexEscape? flags 2 rest
    | 'u' => hexEscape? flags 4 rest
    | 'U' => hexEscape? flags 8 rest
    | 'p' => namedClassEscape? flags false rest
    | 'P' => namedClassEscape? flags true rest
    | 'A' => some (.look .textStart, rest)
    | 'z' => some (.look .textEnd, rest)
    | 'b' => (edgeEscape? flags rest).map fun (e, rest) => (edge e, rest)
    | 'B' => some (edge .notBoundary, rest)
    | '<' => some (edge .start, rest)
    | '>' => some (edge .stop, rest)
    | c =>
      if isEscapable c then some (.literal c false, rest)
      else match letterEscape? c with
        | some d => some (.literal d false, rest)
        | none => (letterClass? flags c).map fun s => (.charSet s, rest)

/-- The character of a literal. Without Unicode two hexadecimal digits are a byte, which has to be
ASCII. -/
def literalChar? (flags : Flags) (c : Char) (isByte : Bool) : Option Char :=
  if !flags.unicode && isByte && 128 ≤ c.toNat then none else some c

/-! ## Classes in brackets -/

/-- An operation between two parts of a class. -/
inductive SetOp where
  | inter | diff | symmDiff
  deriving DecidableEq, Repr

/-- The operation on sets. -/
def SetOp.apply : SetOp → CharSet → CharSet → CharSet
  | inter => .inter
  | diff => .diff
  | symmDiff => .symmDiff

/-- Joins the part of a class just read to the parts before it. -/
def combine (flags : Flags) (pending : Option (SetOp × CharSet)) (part : CharSet) : CharSet :=
  match pending with
  | none => part
  | some (op, before) => op.apply (fold flags before) (fold flags part)

/-- The set of a whole class. -/
def finishClass (flags : Flags) (negated : Bool) (s : CharSet) : Option CharSet :=
  negateIf flags negated (fold flags s)

/-- Takes a circumflex, which asks for a complement. -/
def circumflex : List Char → Bool × List Char
  | '^' :: rest => (true, rest)
  | rest => (false, rest)

/-- Reads the name of an ASCII class up to the colon and the bracket that close it. -/
def asciiName? (text : List Char) : Option (String × List Char) :=
  match text.dropWhile (· != ':') with
  | ':' :: ']' :: rest =>
    let name := String.ofList (text.takeWhile (· != ':'))
    if CharSet.asciiNamed.any (·.1 == name) then some (name, rest) else none
  | _ => none

/-- A named ASCII class, given what is behind its opening bracket: whether it is a complement, and
the name. -/
def asciiClass? : List Char → Option ((Bool × String) × List Char)
  | ':' :: rest =>
    let (negated, rest) := circumflex rest
    (asciiName? rest).map fun (name, rest) => ((negated, name), rest)
  | _ => none

/-- The set of a named ASCII class. -/
def asciiClassSet? (flags : Flags) (negated : Bool) (name : String) : Option CharSet :=
  (CharSet.asciiNamed.lookup name).bind (finishClass flags negated)

/-- Takes hyphens, each as itself, at the start of a class; something has to be behind them. -/
def leadingHyphens (flags : Flags) : Nat → CharSet → List Char → Option (CharSet × List Char)
  | 0, _, _ => none
  | fuel + 1, s, text =>
    match skip flags text with
    | [] => none
    | '-' :: rest => leadingHyphens flags fuel (s.union (.single '-')) rest
    | rest => some (s, rest)

/-- Takes a closing bracket, which stands for itself where nothing is before it; something has to
be behind it. -/
def leadingBracket? (flags : Flags) (s : CharSet) (text : List Char) :
    Option (CharSet × List Char) :=
  match s, text with
  | .none, ']' :: rest =>
    match skip flags rest with
    | [] => none
    | rest => some (.single ']', rest)
  | s, rest => some (s, rest)

/-- Reads what opens a class, given what is behind its bracket: whether it is a complement, and the
characters that stand for themselves only at the start. -/
def openClass? (flags : Flags) (text : List Char) : Option ((Bool × CharSet) × List Char) :=
  let (negated, text) := circumflex (skip flags text)
  (leadingHyphens flags (text.length + 1) .none text).bind fun (s, rest) =>
    (leadingBracket? flags s rest).map fun (s, rest) => ((negated, s), rest)

/-- Reads a character or an escape in a class. -/
def classAtom? (flags : Flags) : List Char → Option (Atom × List Char)
  | [] => none
  | '\\' :: rest => escape? flags rest
  | c :: rest => some (.literal c false, rest)

/-- The character of a literal in a class, which is ASCII where there is no Unicode. -/
def classChar? (flags : Flags) : Atom → Option Char
  | .literal c isByte =>
    (literalChar? flags c isByte).bind fun c =>
      if !flags.unicode && 128 ≤ c.toNat then none else some c
  | _ => none

/-- The set of an item of a class that is not the end of a range. -/
def classAtomSet? (flags : Flags) : Atom → Option CharSet
  | .charSet s => some s
  | atom => (classChar? flags atom).map .single

/-- The set of a range. Both ends are characters, in order. -/
def rangeSet? (flags : Flags) (first last : Atom) : Option CharSet :=
  match classChar? flags first, classChar? flags last with
  | some first, some last => if first ≤ last then some (.range first last) else none
  | _, _ => none

/-- The character behind a hyphen in a class that decides whether the hyphen makes a range. -/
def peekBehind (flags : Flags) (text : List Char) : Option Char :=
  if flags.verbose then
    match text.dropWhile isBlank with
    | '#' :: rest => (rest.dropWhile isBlank).head?
    | rest => rest.head?
  else text.head?

/-- Reads the rest of an item of a class, given its first character: a hyphen and the end of a
range, or nothing. -/
def itemBehind? (flags : Flags) (atom : Atom) (text : List Char) : Option (CharSet × List Char) :=
  match skip flags text with
  | [] => none
  | '-' :: rest =>
    let ahead := peekBehind flags rest
    if ahead = some ']' ∨ ahead = some '-' then
      (classAtomSet? flags atom).map fun s => (s, '-' :: rest)
    else
      (classAtom? flags (skip flags rest)).bind fun (atom', rest) =>
        (rangeSet? flags atom atom').map fun s => (s, rest)
  | rest => (classAtomSet? flags atom).map fun s => (s, rest)

/-- Reads a range or a single item of a class. -/
def classItem? (flags : Flags) (text : List Char) : Option (CharSet × List Char) :=
  (classAtom? flags text).bind fun (atom, rest) => itemBehind? flags atom rest

/-- An operation between two parts of a class. -/
def setOp? : List Char → Option (SetOp × List Char)
  | '&' :: '&' :: rest => some (.inter, rest)
  | '-' :: '-' :: rest => some (.diff, rest)
  | '~' :: '~' :: rest => some (.symmDiff, rest)
  | _ => none

/-- Reads a class up to its closing bracket: `part` is what has been read since the last operation,
and `pending` the operation and what was before it. -/
def classBody? (flags : Flags) :
    Nat → Option (SetOp × CharSet) → CharSet → List Char → Option (CharSet × List Char)
  | 0, _, _, _ => none
  | fuel + 1, pending, part, text =>
    match skip flags text with
    | [] => none
    | ']' :: rest => some (combine flags pending part, rest)
    | '[' :: rest =>
      match asciiClass? rest with
      | some ((negated, name), rest) =>
        (asciiClassSet? flags negated name).bind fun s =>
          classBody? flags fuel pending (part.union s) rest
      | none =>
        (openClass? flags rest).bind fun ((negated, start), rest) =>
          (classBody? flags fuel none start rest).bind fun (s, rest) =>
            (finishClass flags negated s).bind fun s =>
              classBody? flags fuel pending (part.union s) rest
    | text =>
      match setOp? text with
      | some (op, rest) =>
        classBody? flags fuel (some (op, combine flags pending part)) .none rest
      | none =>
        (classItem? flags text).bind fun (s, rest) =>
          classBody? flags fuel pending (part.union s) rest

/-- Reads a class, given what is behind its opening bracket. -/
def bracketClass? (flags : Flags) (text : List Char) : Option (CharSet × List Char) :=
  (openClass? flags text).bind fun ((negated, start), rest) =>
    (classBody? flags (rest.length + 1) none start rest).bind fun (s, rest) =>
      (finishClass flags negated s).map fun s => (s, rest)

/-! ## Repetitions -/

/-- Reads a number below `2 ^ 32`, which may have white space around it. -/
def count? (flags : Flags) (text : List Char) : Option (Nat × List Char) :=
  let (digits, rest) := takeRun flags Char.isDigit (text.length + 1) (text.dropWhile isBlank)
  let n := digits.foldl (fun n c => 10 * n + (c.toNat - '0'.toNat)) 0
  if digits.isEmpty || UInt32.size ≤ n then none else some (n, rest.dropWhile isBlank)

/-- Takes the brace that closes bounds, which have to be in order. -/
def closeBounds? (least most : Nat) : List Char → Option ((Nat × Option Nat) × List Char)
  | '}' :: rest => if least ≤ most then some ((least, some most), rest) else none
  | _ => none

/-- Reads the greatest number of repetitions, which may be missing, up to the closing brace. -/
def mostBound? (flags : Flags) (least : Nat) :
    List Char → Option ((Nat × Option Nat) × List Char)
  | '}' :: rest => some ((least, none), rest)
  | text => (count? flags text).bind fun (most, rest) => closeBounds? least most rest

/-- Reads the rest of the bounds of a repetition, given the least number. -/
def upperBound? (flags : Flags) (least : Nat) :
    List Char → Option ((Nat × Option Nat) × List Char)
  | '}' :: rest => some ((least, some least), rest)
  | ',' :: rest => mostBound? flags least (skip flags rest)
  | _ => none

/-- Reads the bounds of a repetition, given what is behind the opening brace. -/
def bounds? (flags : Flags) (text : List Char) : Option ((Nat × Option Nat) × List Char) :=
  (count? flags (skip flags text)).bind fun (least, rest) => upperBound? flags least rest

/-! ## Groups -/

/-- Whether a character may stand in the name of a group; letters and underscores may come first. -/
def isNameChar (first : Bool) (c : Char) : Bool :=
  if first then c == '_' || alphabetic.contains c.toNat
  else c == '_' || c == '.' || c == '[' || c == ']' || alphanumeric.contains c.toNat

/-- Reads the name of a group up to its closing angle bracket. -/
def groupName? (text : List Char) : Option (String × List Char) :=
  match text.takeWhile (· != '>'), text.dropWhile (· != '>') with
  | c :: name, _ :: rest =>
    if isNameChar true c && name.all (isNameChar false) then
      some (String.ofList (c :: name), rest)
    else none
  | _, _ => none

/-- A letter of a flag, or the hyphen before the flags that are taken back. -/
inductive FlagItem where
  | negation
  | flag (letter : Char)
  deriving DecidableEq

/-- Sets or takes back one flag; the letter has to be one. -/
def setFlag? (flags : Flags) (letter : Char) (on : Bool) : Option Flags :=
  match letter with
  | 'i' => some { flags with caseless := on }
  | 'm' => some { flags with multiLine := on }
  | 's' => some { flags with dotAll := on }
  | 'U' => some { flags with swapGreed := on }
  | 'u' => some { flags with unicode := on }
  | 'R' => some { flags with crlf := on }
  | 'x' => some { flags with verbose := on }
  | _ => none

/-- The items of a list of flags. -/
def flagItem (c : Char) : FlagItem := if c = '-' then .negation else .flag c

/-- Applies flags one by one; those behind the hyphen are taken back. -/
def applyFlags? (flags : Flags) (on : Bool) : List FlagItem → Option Flags
  | [] => some flags
  | .negation :: rest => applyFlags? flags false rest
  | .flag letter :: rest =>
    (setFlag? flags letter on).bind fun flags => applyFlags? flags on rest

/-- Reads flags up to a colon or a closing parenthesis, which is given back with the flags and
whether there were any. No item comes twice, and the hyphen has a flag behind it. -/
def flagList? (flags : Flags) (text : List Char) : Option ((Flags × Bool × Char) × List Char) :=
  let isEnd (c : Char) : Bool := c == ':' || c == ')'
  let items := (text.takeWhile (!isEnd ·)).map flagItem
  match text.dropWhile (!isEnd ·) with
  | [] => none
  | stop :: rest =>
    if items.Nodup ∧ items.getLast? ≠ some .negation then
      (applyFlags? flags true items).map fun flags => ((flags, items.isEmpty, stop), rest)
    else none

/-! ## Patterns -/

/-- Something that has been read in a branch. -/
inductive Item where
  /-- A pattern. -/
  | node (n : Node)
  /-- A change of flags, which cannot be repeated. -/
  | directive

/-- An open group: what is to be restored and joined when it closes. -/
structure Scope where
  /-- The number under which the match of the group is remembered, if it is. -/
  index : Option Nat
  /-- The flags outside. -/
  flags : Flags
  /-- The branches finished outside, latest first. -/
  branches : List Node
  /-- The items of the current branch outside, latest first. -/
  items : List Item

/-- What has been read of a pattern. -/
structure State where
  /-- The flags in force. -/
  flags : Flags := {}
  /-- The finished branches of the current group, latest first. -/
  branches : List Node := []
  /-- The items of the current branch, latest first. -/
  items : List Item := []
  /-- The open groups, innermost first. -/
  scopes : List Scope := []
  /-- The number of remembering groups so far. -/
  groups : Nat := 0
  /-- The names of groups, latest first. -/
  names : List (String × Nat) := []

namespace State

/-- The items of a branch, latest first, one behind the other. -/
def branchNode (items : List Item) : Node :=
  items.foldl
    (fun behind item => match item with
      | .node n => n.followedBy behind
      | .directive => behind)
    .empty

/-- The choice between the finished branches, latest first, and the last one. -/
def choiceNode (branches : List Node) (last : Node) : Node :=
  branches.foldl (fun later n => .alt n later) last

/-- All that has been read of the current group. -/
def groupNode (st : State) : Node := choiceNode st.branches (branchNode st.items)

/-- Adds a pattern to the current branch. -/
def push (st : State) (n : Node) : State := { st with items := .node n :: st.items }

/-- Opens a group, under the flags given. -/
def openGroup (st : State) (index : Option Nat) (flags : Flags) : State :=
  { st with
    flags, branches := [], items := []
    scopes := ⟨index, st.flags, st.branches, st.items⟩ :: st.scopes }

/-- Opens a group that remembers its match. -/
def openCapture (st : State) : State :=
  { st.openGroup (some (st.groups + 1)) st.flags with groups := st.groups + 1 }

/-- Closes the innermost group. -/
def closeGroup? (st : State) : Option State :=
  match st.scopes with
  | [] => none
  | scope :: scopes =>
    let inner := match scope.index with
      | some index => .capture index st.groupNode
      | none => st.groupNode
    some { st with
      flags := scope.flags, branches := scope.branches
      items := .node inner :: scope.items, scopes }

/-- Ends the current branch and begins another. -/
def nextBranch (st : State) : State :=
  { st with branches := branchNode st.items :: st.branches, items := [] }

/-- Repeats the last item, which has to be a pattern. -/
def repeatLast? (st : State) (least : Nat) (most : Option Nat) (marked : Bool) : Option State :=
  match st.items with
  | .node n :: items =>
    some { st with items := .node (n.repeated least most (marked == st.flags.swapGreed)) :: items }
  | _ => none

/-- Gives the next remembering group a name, which no other has. -/
def nameNext? (st : State) (name : String) : Option State :=
  if st.names.any (·.1 == name) then none
  else some { st with names := (name, st.groups + 1) :: st.names }

end State

/-- Takes a question mark. -/
def questionMark : List Char → Bool × List Char
  | '?' :: rest => (true, rest)
  | rest => (false, rest)

/-- Takes a question mark that may have white space and comments in front. -/
def questionMarkBehind (flags : Flags) (text : List Char) : Bool × List Char :=
  match skip flags text with
  | '?' :: rest => (true, rest)
  | _ => (false, text)

/-- Whether what is behind the question mark of a group asks for a look ahead or behind, which
patterns do not have. -/
def looksAround : List Char → Bool
  | '=' :: _ | '!' :: _ | '<' :: '=' :: _ | '<' :: '!' :: _ => true
  | _ => false

/-- Opens a named group, given what is behind the opening angle bracket. -/
def openNamed? (st : State) (text : List Char) : Option (State × List Char) :=
  (groupName? text).bind fun (name, rest) =>
    (st.nameNext? name).map fun st => (st.openCapture, rest)

/-- Opens a group under the flags of a list, or changes the flags of the current one. -/
def openFlagged? (st : State) (text : List Char) : Option (State × List Char) :=
  (flagList? st.flags text).bind fun ((flags, none?, stop), rest) =>
    if stop = ':' then some (st.openGroup none flags, rest)
    else if none? then none
    else some ({ st with flags, items := .directive :: st.items }, rest)

/-- Opens a group or changes flags, given what is behind the question mark. -/
def openMarked? (st : State) : List Char → Option (State × List Char)
  | 'P' :: '<' :: rest => openNamed? st rest
  | '<' :: rest => openNamed? st rest
  | text => openFlagged? st text

/-- Opens a group or changes flags, given what is behind the opening parenthesis. -/
def openParen? (st : State) (text : List Char) : Option (State × List Char) :=
  match skip st.flags text with
  | '?' :: rest => if looksAround rest then none else openMarked? st rest
  | _ => some (st.openCapture, text)

/-- The pattern of a literal character. -/
def literalNode (flags : Flags) (c : Char) : Node := .one (fold flags (.single c))

/-- The pattern of an escape. -/
def atomNode? (flags : Flags) : Atom → Option Node
  | .literal c isByte => (literalChar? flags c isByte).map (literalNode flags)
  | .look l => some (.look l)
  | .charSet s => some (.one s)

/-- The pattern of a full stop, which needs Unicode: without, it would match bytes. -/
def dotNode? (flags : Flags) : Option Node :=
  if !flags.unicode then none
  else if flags.dotAll then some (.one (.compl .none))
  else if flags.crlf then some (.one (.compl (.ofRanges [('\n', '\n'), ('\r', '\r')])))
  else some (.one (.compl (.single '\n')))

/-- The assertion of a circumflex. -/
def startLook (flags : Flags) : Look :=
  if flags.multiLine then (if flags.crlf then .lineStartCrlf else .lineStart) else .textStart

/-- The assertion of a dollar sign. -/
def endLook (flags : Flags) : Look :=
  if flags.multiLine then (if flags.crlf then .lineEndCrlf else .lineEnd) else .textEnd

/-- Reads one element, given its first character and what is behind it. -/
def step? (st : State) (c : Char) (rest : List Char) : Option (State × List Char) :=
  match c with
  | '(' => openParen? st rest
  | ')' => st.closeGroup?.map fun st => (st, rest)
  | '|' => some (st.nextBranch, rest)
  | '[' => (bracketClass? st.flags rest).map fun (s, rest) => (st.push (.one s), rest)
  | '?' => repeatSimply 0 (some 1)
  | '*' => repeatSimply 0 none
  | '+' => repeatSimply 1 none
  | '{' =>
    (bounds? st.flags rest).bind fun ((least, most), rest) =>
      let (marked, rest) := questionMarkBehind st.flags rest
      (st.repeatLast? least most marked).map fun st => (st, rest)
  | '\\' =>
    (escape? st.flags rest).bind fun (atom, rest) =>
      (atomNode? st.flags atom).map fun n => (st.push n, rest)
  | '.' => (dotNode? st.flags).map fun n => (st.push n, rest)
  | '^' => some (st.push (.look (startLook st.flags)), rest)
  | '$' => some (st.push (.look (endLook st.flags)), rest)
  | c => some (st.push (literalNode st.flags c), rest)
where
  /-- Repeats the last item by a single sign, which a question mark may follow. -/
  repeatSimply (least : Nat) (most : Option Nat) : Option (State × List Char) :=
    let (marked, rest) := questionMark rest
    (st.repeatLast? least most marked).map fun st => (st, rest)

/-- Reads elements to the end of the text. Each takes a character at least, so that the length of
the text is limit enough. -/
def run? : Nat → State → List Char → Option State
  | limit, st, text =>
    match limit, skip st.flags text with
    | _, [] => some st
    | 0, _ => none
    | limit + 1, c :: rest => (step? st c rest).bind fun (st, rest) => run? limit st rest

/-- Reads a whole pattern; every group is closed at its end. -/
def read? (text : List Char) : Option State :=
  (run? text.length {} text).bind fun st => if st.scopes.isEmpty then some st else none

end MetricAlgebra.Pattern
