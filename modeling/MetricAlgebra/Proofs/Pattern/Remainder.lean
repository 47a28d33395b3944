import Mathlib.Data.List.Infix
import MetricAlgebra.Pattern.Parser

/-!
# What readers of patterns leave

Every reader of a part of a pattern takes characters from the start of its text and leaves the rest,
an end of the text (`Leaves`). The lemma on a reader has its name with `_leaves` behind it. Readers
that skip white space and comments first leave an end of what is then left, and those of classes and
their items take a character at least, which the lemmas on them say too. A step of the whole reader
so goes on strictly behind the character that it starts with (`step?_leaves`).
-/

namespace MetricAlgebra.Pattern

open Text

/-- What a reader leaves, if it gives anything, is an end of a text. -/
def Leaves {α : Type} (bound : List Char) (found : Option (α × List Char)) : Prop :=
  ∀ p ∈ found, p.2 <:+ bound

namespace Leaves

variable {α β : Type} {bound bound' rest : List Char} {found : Option (α × List Char)}

/-- What is not found leaves nothing. -/
theorem none : Leaves bound (.none : Option (α × List Char)) := by
  simp [Leaves]

/-- What is found leaves what it says. -/
theorem some (a : α) (h : rest <:+ bound) : Leaves bound (.some (a, rest)) := by
  simpa [Leaves] using h

/-- An end of an end is an end. -/
theorem mono (h : Leaves bound found) (hbound : bound <:+ bound') : Leaves bound' found :=
  fun p hp => (h p hp).trans hbound

/-- A reader behind another one. -/
theorem bind {f : α × List Char → Option (β × List Char)} (h : Leaves bound found)
    (hf : ∀ a rest, rest <:+ bound → Leaves bound' (f (a, rest))) :
    Leaves bound' (found.bind f) := by
  intro p hp
  obtain ⟨⟨a, rest⟩, hfound, hp⟩ := Option.mem_bind_iff.1 hp
  exact hf a rest (h _ hfound) p hp

/-- What is made of the value does not matter. -/
theorem map {f : α × List Char → β × List Char} (h : Leaves bound found)
    (hf : ∀ a rest, (f (a, rest)).2 = rest) : Leaves bound (found.map f) := by
  intro p hp
  obtain ⟨⟨a, rest⟩, hfound, rfl⟩ := Option.map_eq_some_iff.1 hp
  rw [hf]
  exact h _ hfound

/-- A value may still be refused. -/
theorem bindValue {value : Option α} {f : α → Option (β × List Char)}
    (hf : ∀ a, Leaves bound (f a)) : Leaves bound (value.bind f) := by
  intro p hp
  obtain ⟨a, -, hp⟩ := Option.mem_bind_iff.1 hp
  exact hf a p hp

/-- A value that may be missing. -/
theorem mapValue {value : Option α} {f : α → β × List Char} (hf : ∀ a, (f a).2 <:+ bound) :
    Leaves bound (value.map f) := by
  intro p hp
  obtain ⟨a, -, rfl⟩ := Option.map_eq_some_iff.1 hp
  exact hf a

end Leaves

/-! ## Space -/

/-- Dropping white space and comments leaves an end of the text. -/
theorem skipBlank_suffix (inComment : Bool) (text : List Char) :
    skipBlank inComment text <:+ text := by
  induction text generalizing inComment with
  | nil => exact List.nil_suffix
  | cons c text ih =>
    unfold skipBlank
    split
    · exact (ih _).trans (List.suffix_cons c text)
    · split
      · exact (ih _).trans (List.suffix_cons c text)
      · split
        · exact (ih _).trans (List.suffix_cons c text)
        · exact List.suffix_rfl

/-- Dropping what does not count leaves an end of the text. -/
theorem skip_suffix (flags : Flags) (text : List Char) : skip flags text <:+ text := by
  unfold skip
  split
  · exact skipBlank_suffix false text
  · exact List.suffix_rfl

/-- Dropping what does not count leaves an end of an end of a text. -/
theorem skip_suffix_cons (flags : Flags) (c : Char) (text : List Char) :
    skip flags text <:+ c :: text :=
  (skip_suffix flags text).trans (List.suffix_cons c text)

/-- Dropping characters of a kind leaves an end of the text. -/
theorem takeRun_suffix (flags : Flags) (keep : Char → Bool) (fuel : Nat) (text : List Char) :
    (takeRun flags keep fuel text).2 <:+ text := by
  induction fuel generalizing text with
  | zero => exact List.suffix_rfl
  | succ fuel ih =>
    unfold takeRun
    split
    · exact List.suffix_rfl
    · split
      · exact (ih _).trans (skip_suffix_cons flags _ _)
      · exact List.suffix_rfl

/-! ## Escapes -/

/-- A search for a closing brace leaves what is behind the brace. -/
theorem untilBrace_leaves (flags : Flags) (fuel : Nat) (text : List Char) :
    Leaves (skip flags text) (untilBrace flags fuel text) := by
  induction fuel generalizing text with
  | zero => exact .none
  | succ fuel ih =>
    unfold untilBrace
    generalize skip flags text = text
    split
    · exact .none
    · exact .some _ (List.suffix_cons _ _)
    · exact ((ih _).mono (skip_suffix_cons flags _ _)).map fun _ _ => rfl

/-- Some characters are taken from what counts. -/
theorem takeExactly_succ_leaves (flags : Flags) (count : Nat) (text : List Char) :
    Leaves (skip flags text) (takeExactly flags (count + 1) text) := by
  induction count generalizing text with
  | zero =>
    unfold takeExactly
    cases skip flags text with
    | nil => exact .none
    | cons c rest => exact .some _ (List.suffix_cons _ _)
  | succ count ih =>
    unfold takeExactly
    cases skip flags text with
    | nil => exact .none
    | cons c rest => exact ((ih rest).mono (skip_suffix_cons flags c rest)).map fun _ _ => rfl

/-- A number of characters leaves an end of the text. -/
theorem takeExactly_leaves (flags : Flags) (count : Nat) (text : List Char) :
    Leaves text (takeExactly flags count text) := by
  cases count with
  | zero => exact .some _ List.suffix_rfl
  | succ count => exact (takeExactly_succ_leaves flags count text).mono (skip_suffix flags text)

/-- The number of a character starts where the text counts. -/
theorem hexEscape?_leaves (flags : Flags) (width : Nat) (text : List Char) :
    Leaves (skip flags text) (hexEscape? flags width text) := by
  unfold hexEscape?
  generalize skip flags text = text
  split
  · rename_i rest
    have hdigits := (untilBrace_leaves flags (rest.length + 1) rest).mono
      (skip_suffix_cons flags '{' rest)
    exact hdigits.bind fun digits rest h => .mapValue fun _ => h
  · refine (takeExactly_leaves _ _ _).bind fun digits rest h => ?_
    exact .mapValue fun _ => h

/-- The name of a class starts where the text counts. -/
theorem classTable?_leaves (flags : Flags) (text : List Char) :
    Leaves text (classTable? flags text) := by
  unfold classTable?
  split
  · exact .none
  · rename_i rest
    have hname := (untilBrace_leaves flags (rest.length + 1) rest).mono
      (skip_suffix_cons flags '{' rest)
    exact hname.bind fun name rest h => .mapValue fun _ => h
  · exact .none
  · exact .mapValue fun _ => List.suffix_cons _ _

/-- A class that is named leaves an end of the text. -/
theorem namedClassEscape?_leaves (flags : Flags) (negated : Bool) (text : List Char) :
    Leaves (skip flags text) (namedClassEscape? flags negated text) := by
  unfold namedClassEscape?
  split
  · exact (classTable?_leaves _ _).bind fun table rest h => .mapValue fun _ => h
  · exact .none

/-- The name of an edge of words leaves an end of the text. -/
theorem edgeName?_leaves (flags : Flags) (text : List Char) :
    Leaves text (edgeName? flags text) := by
  have h := takeRun_suffix flags isEdgeChar text.length text
  unfold edgeName?
  split
  · rename_i name rest hrun
    rw [hrun] at h
    exact .mapValue fun _ => (List.suffix_cons '}' rest).trans h
  · exact .none

/-- An edge of words leaves an end of the text, with or without a name. -/
theorem edgeEscape?_leaves (flags : Flags) (text : List Char) :
    Leaves text (edgeEscape? flags text) := by
  unfold edgeEscape?
  split
  · dsimp only
    split
    · exact (edgeName?_leaves _ _).mono (skip_suffix_cons flags _ _)
    · exact .some _ List.suffix_rfl
  · exact .some _ List.suffix_rfl

/-- An escape takes the character behind the backslash at least. -/
theorem escape?_leaves (flags : Flags) (text : List Char) :
    Leaves text (escape? flags text) := by
  unfold escape?
  split
  · exact .none
  · rename_i c rest
    have hskip := skip_suffix_cons flags c rest
    have hrest : rest <:+ c :: rest := List.suffix_cons c rest
    split
    · exact (hexEscape?_leaves _ _ _).mono hskip
    · exact (hexEscape?_leaves _ _ _).mono hskip
    · exact (hexEscape?_leaves _ _ _).mono hskip
    · exact (namedClassEscape?_leaves _ _ _).mono hskip
    · exact (namedClassEscape?_leaves _ _ _).mono hskip
    · exact .some _ hrest
    · exact .some _ hrest
    · exact ((edgeEscape?_leaves _ _).mono hrest).map fun _ _ => rfl
    · exact .some _ hrest
    · exact .some _ hrest
    · exact .some _ hrest
    · split
      · exact .some _ hrest
      · split
        · exact .some _ hrest
        · exact .mapValue fun _ => hrest

/-! ## Classes in brackets -/

/-- A circumflex leaves an end of the text. -/
theorem circumflex_suffix (text : List Char) : (circumflex text).2 <:+ text := by
  unfold circumflex
  split
  · exact List.suffix_cons _ _
  · exact List.suffix_rfl

/-- The name of an ASCII class leaves an end of the text. -/
theorem asciiName?_leaves (text : List Char) : Leaves text (asciiName? text) := by
  unfold asciiName?
  refine Leaves.mono ?_ (List.dropWhile_suffix (· != ':'))
  generalize text.dropWhile (· != ':') = behind
  split
  · dsimp only
    split
    · exact .some _ ((List.suffix_cons _ _).trans (List.suffix_cons _ _))
    · exact .none
  · exact .none

/-- An ASCII class leaves an end of the text. -/
theorem asciiClass?_leaves (text : List Char) : Leaves text (asciiClass? text) := by
  unfold asciiClass?
  split
  · refine Leaves.map ((asciiName?_leaves _).mono ?_) fun _ _ => rfl
    exact (circumflex_suffix _).trans (List.suffix_cons _ _)
  · exact .none

/-- Hyphens at the start of a class leave an end of the text. -/
theorem leadingHyphens_leaves (flags : Flags) (fuel : Nat) (s : CharSet) (text : List Char) :
    Leaves (skip flags text) (leadingHyphens flags fuel s text) := by
  induction fuel generalizing s text with
  | zero => exact .none
  | succ fuel ih =>
    unfold leadingHyphens
    generalize skip flags text = text
    split
    · exact .none
    · exact (ih _ _).mono (skip_suffix_cons flags _ _)
    · exact .some _ List.suffix_rfl

/-- A bracket at the start of a class leaves an end of the text. -/
theorem leadingBracket?_leaves (flags : Flags) (s : CharSet) (text : List Char) :
    Leaves text (leadingBracket? flags s text) := by
  unfold leadingBracket?
  split
  · refine Leaves.mono ?_ (skip_suffix_cons flags _ _)
    split
    · exact .none
    · exact .some _ List.suffix_rfl
  · exact .some _ List.suffix_rfl

/-- The start of a class leaves an end of the text. -/
theorem openClass?_leaves (flags : Flags) (text : List Char) :
    Leaves (skip flags text) (openClass? flags text) := by
  have hbehind := (skip_suffix flags _).trans (circumflex_suffix (skip flags text))
  refine ((leadingHyphens_leaves _ _ _ _).mono hbehind).bind fun s rest h => ?_
  exact ((leadingBracket?_leaves _ _ _).mono h).map fun _ _ => rfl

/-- A character or an escape in a class leaves an end of the text. -/
theorem classAtom?_leaves (flags : Flags) (text : List Char) :
    Leaves text.tail (classAtom? flags text) := by
  unfold classAtom?
  split
  · exact .none
  · exact escape?_leaves _ _
  · exact .some _ List.suffix_rfl

/-- The rest of a range starts where the text counts. -/
theorem itemBehind?_leaves (flags : Flags) (atom : Atom) (text : List Char) :
    Leaves (skip flags text) (itemBehind? flags atom text) := by
  unfold itemBehind?
  generalize skip flags text = text
  split
  · exact .none
  · dsimp only
    split
    · exact .mapValue fun _ => List.suffix_rfl
    · rename_i rest _
      have hend := (List.tail_suffix _).trans (skip_suffix_cons flags '-' rest)
      exact ((classAtom?_leaves _ _).mono hend).bind fun last rest h => .mapValue fun _ => h
  · exact .mapValue fun _ => List.suffix_rfl

/-- An item of a class leaves an end of the text. -/
theorem classItem?_leaves (flags : Flags) (text : List Char) :
    Leaves text.tail (classItem? flags text) :=
  (classAtom?_leaves flags text).bind fun _ rest h =>
    (itemBehind?_leaves flags _ rest).mono ((skip_suffix flags rest).trans h)

/-- An operation takes a character at least. -/
theorem setOp?_leaves (text : List Char) : Leaves text.tail (setOp? text) := by
  unfold setOp?
  split
  · exact .some _ (List.suffix_cons _ _)
  · exact .some _ (List.suffix_cons _ _)
  · exact .some _ (List.suffix_cons _ _)
  · exact .none

/-- A class takes a character at least, its closing bracket. -/
theorem classBody?_leaves (flags : Flags) (fuel : Nat) (pending : Option (SetOp × CharSet))
    (part : CharSet) (text : List Char) :
    Leaves (skip flags text).tail (classBody? flags fuel pending part text) := by
  induction fuel generalizing pending part text with
  | zero => exact .none
  | succ fuel ih =>
    have hbody (pending : Option (SetOp × CharSet)) (part : CharSet) {text bound : List Char}
        (h : text <:+ bound) : Leaves bound (classBody? flags fuel pending part text) :=
      (ih pending part text).mono <| calc
        (skip flags text).tail <:+ skip flags text := List.tail_suffix _
        _ <:+ text := skip_suffix flags text
        _ <:+ bound := h
    unfold classBody?
    generalize skip flags text = text
    split
    · exact .none
    · exact .some _ List.suffix_rfl
    · split
      · rename_i behind hascii
        have h : behind <:+ _ := asciiClass?_leaves _ _ hascii
        exact .bindValue fun s => hbody _ _ h
      · refine ((openClass?_leaves _ _).mono (skip_suffix flags _)).bind fun start rest h => ?_
        refine (hbody none _ h).bind fun s rest h => ?_
        exact .bindValue fun s => hbody _ _ h
    · split
      · rename_i hop
        exact hbody _ _ (setOp?_leaves _ _ hop)
      · exact (classItem?_leaves _ _).bind fun s rest h => hbody _ _ h

/-- A class in brackets leaves an end of the text. -/
theorem bracketClass?_leaves (flags : Flags) (text : List Char) :
    Leaves text (bracketClass? flags text) := by
  refine ((openClass?_leaves _ _).mono (skip_suffix flags _)).bind fun start rest h => ?_
  have hbody := ((List.tail_suffix _).trans (skip_suffix flags rest)).trans h
  refine ((classBody?_leaves _ _ _ _ _).mono hbody).bind fun s rest h => ?_
  exact .mapValue fun _ => h

/-! ## Repetitions -/

/-- A number of repetitions leaves an end of the text. -/
theorem count?_leaves (flags : Flags) (text : List Char) : Leaves text (count? flags text) := by
  unfold count?
  dsimp only
  split
  · exact .none
  · exact .some _ <| calc
      _ <:+ _ := List.dropWhile_suffix _
      _ <:+ text.dropWhile isBlank := takeRun_suffix _ _ _ _
      _ <:+ text := List.dropWhile_suffix _

/-- The brace that closes bounds leaves what is behind it. -/
theorem closeBounds?_leaves (least most : Nat) (text : List Char) :
    Leaves text (closeBounds? least most text) := by
  unfold closeBounds?
  split
  · split
    · exact .some _ (List.suffix_cons _ _)
    · exact .none
  · exact .none

/-- The greatest number of repetitions leaves an end of the text. -/
theorem mostBound?_leaves (flags : Flags) (least : Nat) (text : List Char) :
    Leaves text (mostBound? flags least text) := by
  unfold mostBound?
  split
  · exact .some _ (List.suffix_cons _ _)
  · exact (count?_leaves _ _).bind fun most rest h => (closeBounds?_leaves _ _ _).mono h

/-- What is behind the least number of repetitions leaves an end of the text. -/
theorem upperBound?_leaves (flags : Flags) (least : Nat) (text : List Char) :
    Leaves text (upperBound? flags least text) := by
  unfold upperBound?
  split
  · exact .some _ (List.suffix_cons _ _)
  · exact (mostBound?_leaves _ _ _).mono (skip_suffix_cons flags _ _)
  · exact .none

/-- The bounds of a repetition leave an end of the text. -/
theorem bounds?_leaves (flags : Flags) (text : List Char) : Leaves text (bounds? flags text) :=
  ((count?_leaves _ _).mono (skip_suffix flags text)).bind fun _ _ h =>
    (upperBound?_leaves _ _ _).mono h

/-- A question mark leaves an end of the text. -/
theorem questionMark_suffix (text : List Char) : (questionMark text).2 <:+ text := by
  unfold questionMark
  split
  · exact List.suffix_cons _ _
  · exact List.suffix_rfl

/-- A question mark behind space leaves an end of the text. -/
theorem questionMarkBehind_suffix (flags : Flags) (text : List Char) :
    (questionMarkBehind flags text).2 <:+ text := by
  unfold questionMarkBehind
  split
  · rename_i hskip
    exact (List.suffix_cons _ _).trans (hskip ▸ skip_suffix flags text)
  · exact List.suffix_rfl

/-! ## Groups -/

/-- The name of a group leaves what is behind its angle bracket. -/
theorem groupName?_leaves (text : List Char) : Leaves text (groupName? text) := by
  unfold groupName?
  split
  · rename_i stop rest _ hdrop
    split
    · refine .some _ ((List.suffix_cons stop rest).trans ?_)
      exact hdrop ▸ List.dropWhile_suffix (· != '>')
    · exact .none
  · exact .none

/-- A list of flags leaves what is behind its last sign. -/
theorem flagList?_leaves (flags : Flags) (text : List Char) :
    Leaves text (flagList? flags text) := by
  unfold flagList?
  dsimp only
  split
  · exact .none
  · rename_i stop rest hdrop
    split
    · refine .mapValue fun _ => (List.suffix_cons stop rest).trans ?_
      exact hdrop ▸ List.dropWhile_suffix _
    · exact .none

/-- A named group starts behind its name. -/
theorem openNamed?_leaves (st : State) (text : List Char) : Leaves text (openNamed? st text) :=
  (groupName?_leaves text).bind fun _ _ h => .mapValue fun _ => h

/-- A group with flags starts behind them. -/
theorem openFlagged?_leaves (st : State) (text : List Char) :
    Leaves text (openFlagged? st text) := by
  refine (flagList?_leaves _ _).bind ?_
  rintro ⟨flags, none?, stop⟩ rest h
  dsimp only
  split
  · exact .some _ h
  · split
    · exact .none
    · exact .some _ h

/-- What is behind the question mark of a group leaves an end of the text. -/
theorem openMarked?_leaves (st : State) (text : List Char) : Leaves text (openMarked? st text) := by
  unfold openMarked?
  split
  · exact (openNamed?_leaves _ _).mono ((List.suffix_cons _ _).trans (List.suffix_cons _ _))
  · exact (openNamed?_leaves _ _).mono (List.suffix_cons _ _)
  · exact openFlagged?_leaves _ _

/-- An opened group starts at an end of the text. -/
theorem openParen?_leaves (st : State) (text : List Char) : Leaves text (openParen? st text) := by
  unfold openParen?
  split
  · rename_i rest hskip
    split
    · exact .none
    · exact (openMarked?_leaves _ _).mono <|
        (List.suffix_cons '?' rest).trans (hskip ▸ skip_suffix st.flags text)
  · exact .some _ List.suffix_rfl

/-! ## Steps -/

/-- A single sign of repetition leaves an end of the text behind it. -/
theorem repeatSimply_leaves (st : State) (rest : List Char) (least : Nat) (most : Option Nat) :
    Leaves rest (step?.repeatSimply st rest least most) :=
  .mapValue fun _ => questionMark_suffix rest

/-- A step goes on behind the character that it starts with. -/
theorem step?_leaves (st : State) (c : Char) (rest : List Char) :
    Leaves rest (step? st c rest) := by
  unfold step?
  split
  · exact openParen?_leaves st rest
  · exact .mapValue fun _ => List.suffix_rfl
  · exact .some _ List.suffix_rfl
  · exact (bracketClass?_leaves _ _).map fun _ _ => rfl
  · exact repeatSimply_leaves _ _ _ _
  · exact repeatSimply_leaves _ _ _ _
  · exact repeatSimply_leaves _ _ _ _
  · refine (bounds?_leaves _ _).bind fun bounds rest h => ?_
    exact .mapValue fun _ => (questionMarkBehind_suffix _ _).trans h
  · exact (escape?_leaves _ _).bind fun atom rest h => .mapValue fun _ => h
  · exact .mapValue fun _ => List.suffix_rfl
  · exact .some _ List.suffix_rfl
  · exact .some _ List.suffix_rfl
  · exact .some _ List.suffix_rfl

end MetricAlgebra.Pattern
