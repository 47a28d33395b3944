import MetricAlgebra.Proofs.Pattern.Remainder

/-!
# Patterns inside parentheses

What is read of a text if a closing parenthesis and more stand behind it. A reader either finds the
same as in the text alone and leaves the parenthesis with what is behind it, or it takes the
parenthesis too: as a character of its own, or because it is in a comment. In the text alone it then
finds nothing, unless a comment reaches to the end of the text (`Alike`). This holds for every
reader, and so for a step of the whole reader (`step?_alike`). The lemma on a reader has its name
with `_alike` behind it, or with `_append_close` where the parenthesis is never taken.

What keeps the parenthesis apart in the text alone is that nothing is behind it: a reader that is
not done at the end of the text gives up there. The lemmas split on what `skip` leaves of the text
(`skip_append_close`), as the readers do.
-/

namespace MetricAlgebra.Pattern

open Text Unicode

/-! ## Space -/

/-- Nothing is dropped from an empty text. -/
@[simp]
theorem skip_nil (flags : Flags) : skip flags [] = [] := by
  unfold skip
  split <;> rfl

/-- Without a line feed a comment goes on to the end. -/
theorem skipBlank_eq_nil {text : List Char} (h : '\n' ∉ text) : skipBlank true text = [] := by
  induction text with
  | nil => rfl
  | cons c text ih =>
    rw [List.mem_cons, not_or] at h
    have hc : (c != '\n') = true := bne_iff_ne.2 (Ne.symm h.1)
    rw [skipBlank, if_pos rfl, hc, ih h.2]

/-- White space and comments are dropped alike in front of a closing parenthesis, unless the
parenthesis is in a comment. Which of the two it is does not depend on what is behind it. -/
theorem skipBlank_append_close (inComment : Bool) (text : List Char) :
    (∀ tail, skipBlank inComment (text ++ ')' :: tail) = skipBlank inComment text ++ ')' :: tail) ∨
      skipBlank inComment text = [] ∧ ∀ tail, skipBlank inComment (text ++ ')' :: tail) <:+ tail ∧
        ('\n' ∉ tail → skipBlank inComment (text ++ ')' :: tail) = []) := by
  induction text generalizing inComment with
  | nil =>
    cases inComment with
    | true => exact .inr ⟨rfl, fun tail => ⟨skipBlank_suffix true tail, skipBlank_eq_nil⟩⟩
    | false => exact .inl fun _ => rfl
  | cons c text ih =>
    simp only [List.cons_append, skipBlank]
    split
    · exact ih _
    · split
      · exact ih _
      · split
        · exact ih _
        · exact .inl fun _ => rfl

/-- What does not count is dropped alike in front of a closing parenthesis, unless the parenthesis
is in a comment. -/
theorem skip_append_close (flags : Flags) (text : List Char) :
    (∀ tail, skip flags (text ++ ')' :: tail) = skip flags text ++ ')' :: tail) ∨
      skip flags text = [] ∧ ∀ tail, skip flags (text ++ ')' :: tail) <:+ tail ∧
        ('\n' ∉ tail → skip flags (text ++ ')' :: tail) = []) := by
  unfold skip
  split
  · exact skipBlank_append_close false text
  · exact .inl fun _ => rfl

/-- A parenthesis that is not in a comment ends what does not count. -/
theorem skip_append_close_of_ne_nil {flags : Flags} {text : List Char}
    (h : skip flags (text ++ [')']) ≠ []) (tail : List Char) :
    skip flags (text ++ ')' :: tail) = skip flags text ++ ')' :: tail := by
  rcases skip_append_close flags text with hsame | ⟨-, hpast⟩
  · exact hsame tail
  · exact absurd ((hpast []).2 (by simp)) h

/-- What counts first in a text does so in front of a closing parenthesis. -/
theorem skip_append_close_of_eq_cons {flags : Flags} {text rest : List Char} {c : Char}
    (h : skip flags text = c :: rest) (tail : List Char) :
    skip flags (text ++ ')' :: tail) = c :: (rest ++ ')' :: tail) := by
  rcases skip_append_close flags text with hsame | ⟨hnil, -⟩
  · rw [hsame tail, h, List.cons_append]
  · rw [hnil] at h
    exact absurd h (by simp)

/-- Where nothing counts in a text, the parenthesis comes first, or it is in a comment. -/
theorem tail_skip_suffix_of_eq_nil {flags : Flags} {text : List Char} (h : skip flags text = [])
    (tail : List Char) : (skip flags (text ++ ')' :: tail)).tail <:+ tail := by
  rcases skip_append_close flags text with hsame | ⟨-, hpast⟩
  · rw [hsame tail, h]
    exact List.suffix_rfl
  · exact (List.tail_suffix _).trans (hpast tail).1

/-- What is behind the first character of an end of a text. -/
theorem tail_suffix_of_suffix_cons {c : Char} {text behind : List Char} (h : text <:+ c :: behind) :
    text.tail <:+ behind := by
  rcases List.suffix_cons_iff.1 h with rfl | h
  · exact List.suffix_rfl
  · exact (List.tail_suffix text).trans h

/-! ## Readers -/

/-- What a reader finds in a text alone, and what it finds if a closing parenthesis and a tail are
behind the text. It finds the same and leaves the parenthesis, or it goes past the parenthesis, to
an end of `bound`. It only does so where it finds nothing in the text alone, or where a line feed in
the tail has ended a comment. -/
def Alike {α : Type} (tail bound : List Char) (alone within : Option (α × List Char)) : Prop :=
  within = alone.map (fun p => (p.1, p.2 ++ ')' :: tail)) ∨
    Leaves bound within ∧ ('\n' ∉ tail → alone = none)

namespace Alike

variable {α β : Type} {tail bound bound' rest : List Char}
  {alone within : Option (α × List Char)}

/-- The same is found. -/
theorem some (a : α) (rest : List Char) :
    Alike tail bound (.some (a, rest)) (.some (a, rest ++ ')' :: tail)) :=
  .inl rfl

/-- Nothing is found. -/
theorem none : Alike tail bound (.none : Option (α × List Char)) .none :=
  .inl rfl

/-- The reader goes past the parenthesis, without which it finds nothing. -/
theorem past (h : Leaves bound within) : Alike tail bound .none within :=
  .inr ⟨h, fun _ => rfl⟩

/-- The reader finds nothing in the text alone, and else goes past the parenthesis. -/
theorem of_eq_none (halone : alone = .none) (h : Leaves bound within) :
    Alike tail bound alone within :=
  halone ▸ past h

/-- A reader behind another one. -/
theorem bind {f g : α × List Char → Option (β × List Char)} (h : Alike tail bound alone within)
    (hsame : ∀ a rest, alone = .some (a, rest) →
      Alike tail bound' (f (a, rest)) (g (a, rest ++ ')' :: tail)))
    (hpast : ∀ a rest, rest <:+ bound → Leaves bound' (g (a, rest))) :
    Alike tail bound' (alone.bind f) (within.bind g) := by
  rcases h with rfl | ⟨hleaves, hnone⟩
  · cases alone with
    | none => exact .none
    | some p => exact hsame p.1 p.2 rfl
  · refine .inr ⟨hleaves.bind hpast, fun htail => ?_⟩
    rw [hnone htail]
    rfl

/-- What is made of the value does not matter. -/
theorem map (f : α → β) (h : Alike tail bound alone within) :
    Alike tail bound (alone.map fun p => (f p.1, p.2)) (within.map fun p => (f p.1, p.2)) := by
  rcases h with rfl | ⟨hleaves, hnone⟩
  · left
    cases alone with
    | none => rfl
    | some p => rfl
  · refine .inr ⟨hleaves.map fun _ _ => rfl, fun htail => ?_⟩
    rw [hnone htail]
    rfl

/-- A value that may be missing. -/
theorem mapValue (value : Option α) (f : α → β) (rest : List Char) :
    Alike tail bound (value.map fun a => (f a, rest))
      (value.map fun a => (f a, rest ++ ')' :: tail)) := by
  left
  cases value with
  | none => rfl
  | some a => rfl

/-- A value that may still be refused. -/
theorem bindValue {value : Option α} {f g : α → Option (β × List Char)}
    (h : ∀ a, Alike tail bound (f a) (g a)) : Alike tail bound (value.bind f) (value.bind g) := by
  cases value with
  | none => exact .none
  | some a => exact h a

end Alike

/-! ## Runs of characters -/

/-- Characters of a kind are taken alike, unless a comment leads past the parenthesis. -/
theorem takeRun_append_close (flags : Flags) {keep : Char → Bool} (hkeep : keep ')' = false)
    {fuel fuel' : Nat} {text : List Char} (hfuel : text.length ≤ fuel)
    (hfuel' : text.length ≤ fuel') (tail : List Char) :
    takeRun flags keep fuel' (text ++ ')' :: tail) =
        ((takeRun flags keep fuel text).1, (takeRun flags keep fuel text).2 ++ ')' :: tail) ∨
      (takeRun flags keep fuel text).2 = [] ∧
        (takeRun flags keep fuel' (text ++ ')' :: tail)).2 <:+ tail := by
  have hstop (n : Nat) : takeRun flags keep n (')' :: tail) = ([], ')' :: tail) := by
    cases n with
    | zero => rfl
    | succ n => simp [takeRun, hkeep]
  have hnil (n : Nat) : takeRun flags keep n [] = ([], []) := by
    cases n with
    | zero => rfl
    | succ n => rfl
  induction fuel generalizing fuel' text with
  | zero =>
    obtain rfl : text = [] := List.eq_nil_of_length_eq_zero (Nat.le_zero.1 hfuel)
    exact .inl (hstop fuel')
  | succ fuel ih =>
    cases text with
    | nil =>
      rw [hnil]
      exact .inl (hstop fuel')
    | cons c text =>
      rw [List.length_cons] at hfuel hfuel'
      obtain ⟨fuel', rfl⟩ : ∃ n, fuel' = n + 1 := ⟨fuel' - 1, by omega⟩
      have hlength := (skip_suffix flags text).length_le
      simp only [List.cons_append, takeRun]
      split
      · rcases skip_append_close flags text with h | ⟨hskip, hpast⟩
        · rw [h tail]
          have hfuel := hlength.trans (Nat.le_of_succ_le_succ hfuel)
          have hfuel' := hlength.trans (Nat.le_of_succ_le_succ hfuel')
          rcases ih hfuel hfuel' with heq | hpast
          · left
            rw [heq]
          · exact .inr hpast
        · right
          rw [hskip, hnil]
          exact ⟨rfl, (takeRun_suffix _ _ _ _).trans (hpast tail).1⟩
      · exact .inl rfl

/-- A run of characters of a kind ends inside a text, or it is the whole text and goes on behind
it. -/
theorem run_append (p : Char → Bool) (text behind : List Char) :
    text.dropWhile p ≠ [] ∧ (text ++ behind).takeWhile p = text.takeWhile p ∧
        (text ++ behind).dropWhile p = text.dropWhile p ++ behind ∨
      text.dropWhile p = [] ∧ (text ++ behind).takeWhile p = text ++ behind.takeWhile p ∧
        (text ++ behind).dropWhile p = behind.dropWhile p := by
  induction text with
  | nil => exact .inr ⟨rfl, rfl, rfl⟩
  | cons c text ih =>
    by_cases hc : p c = true
    · simpa [hc] using ih
    · simp [hc]

/-- A limit for a text with more behind it is one for the text. -/
theorem length_lt_append (text behind : List Char) : text.length < (text ++ behind).length + 1 := by
  rw [List.length_append]
  omega

/-- White space is dropped alike. -/
theorem dropWhile_isBlank_append_close (text tail : List Char) :
    (text ++ ')' :: tail).dropWhile isBlank = text.dropWhile isBlank ++ ')' :: tail := by
  induction text with
  | nil => rfl
  | cons c text ih =>
    simp only [List.cons_append, List.dropWhile_cons]
    split
    · exact ih
    · rfl

/-! ## Escapes -/

/-- What is in front of a closing brace is taken alike: a parenthesis is no brace, so that the
search goes past it. By induction on the limit, which for either text is more than its length. -/
theorem untilBrace_alike (flags : Flags) {fuel fuel' : Nat} {text : List Char}
    (hfuel : text.length < fuel) (hfuel' : text.length < fuel') (tail : List Char) :
    Alike tail tail (untilBrace flags fuel text)
      (untilBrace flags fuel' (text ++ ')' :: tail)) := by
  induction fuel generalizing fuel' text with
  | zero => omega
  | succ fuel ih =>
    obtain ⟨fuel', rfl⟩ : ∃ n, fuel' = n + 1 := ⟨fuel' - 1, by omega⟩
    rcases skip_append_close flags text with h | ⟨hnil, hpast⟩
    · have hlength := (skip_suffix flags text).length_le
      unfold untilBrace
      rw [h tail]
      generalize skip flags text = text at hlength ⊢
      cases text with
      | nil =>
        -- There is no brace in the text alone, and the parenthesis is one of the characters.
        exact .past (((untilBrace_leaves _ _ _).mono (skip_suffix _ _)).map fun _ _ => rfl)
      | cons c rest =>
        rw [List.length_cons] at hlength
        by_cases hc : c = '}'
        · subst hc
          exact .some _ _
        · simp only [List.cons_append]
          exact (ih (by omega) (by omega)).map (c :: ·)
    · have hnone : untilBrace flags (fuel + 1) text = none := by simp only [untilBrace, hnil]
      exact .of_eq_none hnone ((untilBrace_leaves _ _ _).mono (hpast tail).1)

/-- A number of characters is taken alike. A text too short for it takes the parenthesis too. -/
theorem takeExactly_alike (flags : Flags) (count : Nat) (text tail : List Char) :
    Alike tail tail (takeExactly flags count text)
      (takeExactly flags count (text ++ ')' :: tail)) := by
  induction count generalizing text with
  | zero => exact .some _ _
  | succ count ih =>
    rcases skip_append_close flags text with h | ⟨hnil, hpast⟩
    · unfold takeExactly
      rw [h tail]
      cases skip flags text with
      | nil =>
        -- A character is missing in the text alone, and the parenthesis stands in for it.
        exact .past ((takeExactly_leaves _ _ _).map fun _ _ => rfl)
      | cons c rest => exact (ih rest).map (c :: ·)
    · have hnone : takeExactly flags (count + 1) text = none := by simp only [takeExactly, hnil]
      exact .of_eq_none hnone ((takeExactly_succ_leaves _ _ _).mono (hpast tail).1)

/-- The number of a character is read alike. A parenthesis among the digits is taken and refused. -/
theorem hexEscape?_alike (flags : Flags) (width : Nat) (text tail : List Char) :
    Alike tail tail (hexEscape? flags (width + 1) text)
      (hexEscape? flags (width + 1) (text ++ ')' :: tail)) := by
  have hdigits {alone within : Option (List Char × List Char)} {isByte : Bool}
      (h : Alike tail tail alone within) :
      Alike tail tail
        (alone.bind fun p => (hexChar? p.1).map fun c => (Atom.literal c isByte, p.2))
        (within.bind fun p => (hexChar? p.1).map fun c => (Atom.literal c isByte, p.2)) :=
    h.bind (fun _ rest _ => .mapValue _ _ rest) fun _ _ h => .mapValue fun _ => h
  rcases skip_append_close flags text with h | ⟨hnil, hpast⟩
  · unfold hexEscape?
    rw [h tail]
    generalize skip flags text = text
    cases text with
    | nil => exact hdigits (takeExactly_alike flags (width + 1) [] tail)
    | cons c rest =>
      by_cases hc : c = '{'
      · subst hc
        exact hdigits (untilBrace_alike flags (Nat.lt_succ_self _) (length_lt_append rest _) tail)
      · simp only [List.cons_append, List.cons.injEq, hc, false_and, imp_false, not_false_eq_true,
          implies_true]
        exact hdigits (takeExactly_alike flags (width + 1) (c :: rest) tail)
  · have hnone : hexEscape? flags (width + 1) text = none := by
      simp only [hexEscape?, hnil, takeExactly, skip_nil, Option.bind_none]
    exact .of_eq_none hnone ((hexEscape?_leaves _ _ _).mono (hpast tail).1)

/-- The name of a class is read alike. Where none is there, the parenthesis is taken for it. -/
theorem classTable?_alike (flags : Flags) (text tail : List Char) :
    Alike tail tail (classTable? flags text) (classTable? flags (text ++ ')' :: tail)) := by
  cases text with
  | nil =>
    refine .past ?_
    rw [List.nil_append]
    unfold classTable?
    exact .mapValue fun _ => List.suffix_rfl
  | cons c rest =>
    by_cases hbrace : c = '{'
    · subst hbrace
      have hname := untilBrace_alike flags (Nat.lt_succ_self _)
        (length_lt_append rest (')' :: tail)) tail
      refine hname.bind ?_ ?_
      · exact fun _ rest _ => .mapValue _ _ rest
      · exact fun _ _ h => .mapValue fun _ => h
    · by_cases hslash : c = '\\'
      · subst hslash
        exact .none
      · rw [List.cons_append]
        unfold classTable?
        simp only
        exact .mapValue _ _ rest

/-- A class that is named is read alike. -/
theorem namedClassEscape?_alike (flags : Flags) (negated : Bool) (text tail : List Char) :
    Alike tail tail (namedClassEscape? flags negated text)
      (namedClassEscape? flags negated (text ++ ')' :: tail)) := by
  rcases skip_append_close flags text with h | ⟨hnil, hpast⟩
  · unfold namedClassEscape?
    split
    · rw [h tail]
      refine (classTable?_alike flags (skip flags text) tail).bind ?_ ?_
      · exact fun _ rest _ => .mapValue _ _ rest
      · exact fun _ _ h => .mapValue fun _ => h
    · exact .none
  · have hnone : namedClassEscape? flags negated text = none := by
      unfold namedClassEscape?
      rw [hnil]
      exact ite_self none
    exact .of_eq_none hnone ((namedClassEscape?_leaves _ _ _).mono (hpast tail).1)

/-- A parenthesis does not stand in the name of an edge of words. -/
theorem isEdgeChar_close : isEdgeChar ')' = false := by decide

/-- The name of an edge of words is read alike. -/
theorem edgeName?_alike (flags : Flags) (text tail : List Char) :
    Alike tail tail (edgeName? flags text) (edgeName? flags (text ++ ')' :: tail)) := by
  have hlength : text.length ≤ (text ++ ')' :: tail).length := by simp
  unfold edgeName?
  rcases takeRun_append_close flags isEdgeChar_close (Nat.le_refl _) hlength tail with
    h | ⟨hnil, hpast⟩
  · rw [h]
    generalize takeRun flags isEdgeChar text.length text = taken
    obtain ⟨name, rest⟩ := taken
    cases rest with
    | nil => exact .none
    | cons c rest =>
      by_cases hc : c = '}'
      · subst hc
        exact .mapValue _ _ rest
      · simp only [List.cons_append, Prod.mk.injEq, List.cons.injEq, hc, false_and, and_false,
          imp_false, not_false_eq_true, implies_true]
        exact .none
  · generalize takeRun flags isEdgeChar text.length text = taken at hnil
    obtain ⟨name, rest⟩ := taken
    obtain rfl : rest = [] := hnil
    refine .past ?_
    split
    · rename_i name rest hrun
      rw [hrun] at hpast
      exact .mapValue fun _ => (List.suffix_cons '}' rest).trans hpast
    · exact .none

/-- An edge of words with a name in braces is read alike. -/
theorem edgeEscape?_alike (flags : Flags) (text tail : List Char) :
    Alike tail tail (edgeEscape? flags text) (edgeEscape? flags (text ++ ')' :: tail)) := by
  cases text with
  | nil => exact .some _ []
  | cons c rest =>
    by_cases hc : c = '{'
    · subst hc
      simp only [List.cons_append, edgeEscape?]
      rcases skip_append_close flags rest with h | ⟨hnil, hpast⟩
      · have hhead : (skip flags rest ++ ')' :: tail).head?.any isEdgeChar =
            (skip flags rest).head?.any isEdgeChar := by
          cases skip flags rest with
          | nil => exact isEdgeChar_close
          | cons d behind => rfl
        rw [h tail, hhead]
        split
        · exact edgeName?_alike flags _ tail
        · exact .some _ ('{' :: rest)
      · rw [hnil]
        simp only [List.head?_nil, Option.any_none, Bool.false_eq_true, if_false]
        split
        · -- Something that counts follows, so that a line feed in the tail has ended the comment.
          rename_i hhead
          refine .inr ⟨(edgeName?_leaves _ _).mono (hpast tail).1, fun htail => ?_⟩
          rw [(hpast tail).2 htail] at hhead
          exact absurd hhead (by simp)
        · exact .some _ ('{' :: rest)
    · simp only [List.cons_append, edgeEscape?, List.cons.injEq, hc, false_and, imp_false,
        not_false_eq_true, implies_true]
      exact .some _ (c :: rest)

/-- An escape is read alike. A backslash in front of the parenthesis takes it. -/
theorem escape?_alike (flags : Flags) (text tail : List Char) :
    Alike tail tail (escape? flags text) (escape? flags (text ++ ')' :: tail)) := by
  cases text with
  | nil => exact .past (.some _ List.suffix_rfl)
  | cons c rest =>
    rw [List.cons_append]
    unfold escape?
    dsimp only
    split
    · exact hexEscape?_alike flags 1 rest tail
    · exact hexEscape?_alike flags 3 rest tail
    · exact hexEscape?_alike flags 7 rest tail
    · exact namedClassEscape?_alike flags false rest tail
    · exact namedClassEscape?_alike flags true rest tail
    · exact .some _ rest
    · exact .some _ rest
    · exact (edgeEscape?_alike flags rest tail).map fun e => Atom.look (.word e !flags.unicode)
    · exact .some _ rest
    · exact .some _ rest
    · exact .some _ rest
    · split
      · exact .some _ rest
      · split
        · exact .some _ rest
        · exact .mapValue _ _ rest

/-! ## Classes in brackets -/

/-- A circumflex is taken alike. -/
theorem circumflex_append_close (text tail : List Char) :
    circumflex (text ++ ')' :: tail) =
      ((circumflex text).1, (circumflex text).2 ++ ')' :: tail) := by
  cases text with
  | nil => rfl
  | cons c rest =>
    by_cases hc : c = '^'
    · subst hc
      rfl
    · simp [circumflex, hc]

/-- The names of ASCII classes do not hold a parenthesis. -/
theorem asciiNamed_close : ∀ p ∈ CharSet.asciiNamed, ')' ∉ p.1.toList := by decide

/-- The name of an ASCII class is read alike; no parenthesis is in it. -/
theorem asciiName?_append_close (text tail : List Char) :
    asciiName? (text ++ ')' :: tail) =
      (asciiName? text).map fun p => (p.1, p.2 ++ ')' :: tail) := by
  unfold asciiName?
  rcases run_append (· != ':') text (')' :: tail) with ⟨-, htake, hdrop⟩ | ⟨hnil, htake, hdrop⟩
  · rw [htake, hdrop]
    generalize text.dropWhile (· != ':') = behind
    cases behind with
    | nil => rfl
    | cons c behind =>
      cases behind with
      | nil => simp
      | cons d rest =>
        simp only [List.cons_append]
        generalize CharSet.asciiNamed.any _ = known
        grind
  · rw [htake, hdrop, hnil]
    split
    · dsimp only
      -- The name would hold the parenthesis.
      rw [if_neg]
      · rfl
      · intro hany
        obtain ⟨named, hmem, hname⟩ := List.any_eq_true.1 hany
        refine asciiNamed_close named hmem ?_
        rw [beq_iff_eq.1 hname, String.toList_ofList]
        simp
    · rfl

/-- An ASCII class is read alike. -/
theorem asciiClass?_append_close (text tail : List Char) :
    asciiClass? (text ++ ')' :: tail) =
      (asciiClass? text).map fun p => (p.1, p.2 ++ ')' :: tail) := by
  cases text with
  | nil => rfl
  | cons c rest =>
    by_cases hc : c = ':'
    · subst hc
      simp only [List.cons_append, asciiClass?, circumflex_append_close, asciiName?_append_close,
        Option.map_map, Function.comp_def]
    · simp [asciiClass?, hc]

/-- Hyphens at the start of a class are taken alike. Behind them the parenthesis is what the class
needs. -/
theorem leadingHyphens_alike (flags : Flags) {fuel fuel' : Nat} (s : CharSet) {text : List Char}
    (hfuel : text.length < fuel) (hfuel' : text.length < fuel') (tail : List Char) :
    Alike tail (')' :: tail) (leadingHyphens flags fuel s text)
      (leadingHyphens flags fuel' s (text ++ ')' :: tail)) := by
  induction fuel generalizing fuel' s text with
  | zero => omega
  | succ fuel ih =>
    obtain ⟨fuel', rfl⟩ : ∃ n, fuel' = n + 1 := ⟨fuel' - 1, by omega⟩
    have hlength := (skip_suffix flags text).length_le
    rcases skip_append_close flags text with h | ⟨hnil, hpast⟩
    · unfold leadingHyphens
      rw [h tail]
      generalize skip flags text = text at hlength ⊢
      cases text with
      | nil => exact .past (.some _ List.suffix_rfl)
      | cons c rest =>
        rw [List.length_cons] at hlength
        by_cases hc : c = '-'
        · subst hc
          exact ih _ (by omega) (by omega)
        · simp only [List.cons_append, List.cons.injEq, hc, false_and, imp_false, not_false_eq_true,
            implies_true]
          exact .some s (c :: rest)
    · have hnone : leadingHyphens flags (fuel + 1) s text = none := by
        simp only [leadingHyphens, hnil]
      have hend := (hpast tail).1.trans (List.suffix_cons ')' tail)
      exact .of_eq_none hnone ((leadingHyphens_leaves _ _ _ _).mono hend)

/-- A bracket at the start of a class is taken alike. Behind it the parenthesis is what the class
needs. -/
theorem leadingBracket?_alike (flags : Flags) (s : CharSet) (text tail : List Char) :
    Alike tail (')' :: tail) (leadingBracket? flags s text)
      (leadingBracket? flags s (text ++ ')' :: tail)) := by
  have hkeep {text : List Char} (h : ∀ rest, s = .none → text ≠ ']' :: rest) :
      leadingBracket? flags s text = .some (s, text) := by
    unfold leadingBracket?
    split
    · exact absurd rfl (h _ rfl)
    · rfl
  cases text with
  | nil =>
    rw [hkeep (by simp), hkeep (by simp)]
    exact .some s []
  | cons c rest =>
    by_cases hc : s = .none ∧ c = ']'
    · obtain ⟨rfl, rfl⟩ := hc
      simp only [leadingBracket?, List.cons_append]
      rcases skip_append_close flags rest with h | ⟨hnil, hpast⟩
      · rw [h tail]
        cases skip flags rest with
        | nil => exact .past (.some _ List.suffix_rfl)
        | cons d behind => exact .some _ (d :: behind)
      · rw [hnil]
        refine .past (Leaves.mono ?_ ((hpast tail).1.trans (List.suffix_cons _ _)))
        split
        · exact .none
        · exact .some _ List.suffix_rfl
    · rw [hkeep (by simp_all), hkeep (by simp_all)]
      exact .some s (c :: rest)

/-- The start of a class is read alike. -/
theorem openClass?_alike (flags : Flags) (text tail : List Char) :
    Alike tail (')' :: tail) (openClass? flags text) (openClass? flags (text ++ ')' :: tail)) := by
  rcases skip_append_close flags text with h | ⟨hnil, hpast⟩
  · simp only [openClass?, h tail, circumflex_append_close]
    have hhyphens := leadingHyphens_alike flags .none (Nat.lt_succ_self _)
      (length_lt_append (circumflex (skip flags text)).2 (')' :: tail)) tail
    refine hhyphens.bind ?_ ?_
    · exact fun s rest _ => (leadingBracket?_alike flags s rest tail).map _
    · exact fun s rest h => ((leadingBracket?_leaves _ _ _).mono h).map fun _ _ => rfl
  · have hnone : openClass? flags text = none := by
      simp [openClass?, hnil, circumflex, leadingHyphens]
    have hend := (hpast tail).1.trans (List.suffix_cons ')' tail)
    exact .of_eq_none hnone ((openClass?_leaves _ _).mono hend)

/-- A character or an escape in a class is read alike. The parenthesis is a character there. -/
theorem classAtom?_alike (flags : Flags) (text tail : List Char) :
    Alike tail tail (classAtom? flags text) (classAtom? flags (text ++ ')' :: tail)) := by
  cases text with
  | nil => exact .past (.some _ List.suffix_rfl)
  | cons c rest =>
    by_cases hc : c = '\\'
    · subst hc
      exact escape?_alike flags rest tail
    · simp only [List.cons_append, classAtom?]
      exact .some _ rest

/-- What is seen behind a hyphen is the same, or the parenthesis. -/
theorem peekBehind_append_close (flags : Flags) (text tail : List Char) :
    peekBehind flags (text ++ ')' :: tail) = some ((peekBehind flags text).getD ')') := by
  have hhead (text : List Char) : (text ++ ')' :: tail).head? = some (text.head?.getD ')') := by
    cases text with
    | nil => rfl
    | cons c text => rfl
  unfold peekBehind
  split
  · rw [dropWhile_isBlank_append_close]
    generalize text.dropWhile isBlank = text
    cases text with
    | nil => rfl
    | cons c rest =>
      by_cases hc : c = '#'
      · subst hc
        simp only [List.cons_append, dropWhile_isBlank_append_close, hhead]
      · simp [hc]
  · exact hhead text

/-- The rest of a range is read alike. The parenthesis may be its other end. -/
theorem itemBehind?_alike (flags : Flags) (atom : Atom) (text tail : List Char) :
    Alike tail (')' :: tail) (itemBehind? flags atom text)
      (itemBehind? flags atom (text ++ ')' :: tail)) := by
  rcases skip_append_close flags text with h | ⟨hnil, hpast⟩
  · unfold itemBehind?
    rw [h tail]
    generalize skip flags text = text
    cases text with
    | nil => exact .past (.mapValue fun _ => List.suffix_rfl)
    | cons c rest =>
      by_cases hc : c = '-'
      · subst hc
        have hpeek (d : Char) (hd : d ≠ ')') :
            peekBehind flags (rest ++ ')' :: tail) = some d ↔ peekBehind flags rest = some d := by
          rw [peekBehind_append_close]
          cases peekBehind flags rest with
          | none => simp [hd.symm]
          | some e => simp
        simp only [List.cons_append, hpeek ']' (by decide), hpeek '-' (by decide)]
        split
        · exact .mapValue _ _ ('-' :: rest)
        · have hend (text : List Char) (h : text <:+ ')' :: tail) :
              Leaves (')' :: tail) ((classAtom? flags text).bind fun p =>
                (rangeSet? flags atom p.1).map fun s => (s, p.2)) :=
            ((classAtom?_leaves _ _).mono ((List.tail_suffix _).trans h)).bind
              fun last rest h => .mapValue fun _ => h
          rcases skip_append_close flags rest with h | ⟨hnil, hpast⟩
          · rw [h tail]
            refine (classAtom?_alike flags _ tail).bind ?_ ?_
            · exact fun _ rest _ => .mapValue _ _ rest
            · exact fun _ _ h => .mapValue fun _ => h.trans (List.suffix_cons _ _)
          · rw [hnil]
            exact .past (hend _ ((hpast tail).1.trans (List.suffix_cons _ _)))
      · simp only [List.cons_append, List.cons.injEq, hc, false_and, imp_false, not_false_eq_true,
          implies_true]
        exact .mapValue _ _ (c :: rest)
  · have hnone : itemBehind? flags atom text = none := by
      simp only [itemBehind?, hnil]
    have hend := (hpast tail).1.trans (List.suffix_cons ')' tail)
    exact .of_eq_none hnone ((itemBehind?_leaves _ _ _).mono hend)

/-- An item of a class is read alike. -/
theorem classItem?_alike (flags : Flags) (text tail : List Char) :
    Alike tail (')' :: tail) (classItem? flags text) (classItem? flags (text ++ ')' :: tail)) := by
  refine (classAtom?_alike flags text tail).bind ?_ ?_
  · exact fun atom rest _ => itemBehind?_alike flags atom rest tail
  · exact fun atom rest h => (itemBehind?_leaves _ _ _).mono <|
      ((skip_suffix flags rest).trans h).trans (List.suffix_cons _ _)

/-- An operation between two parts of a class is read alike; its two signs are not a parenthesis. -/
theorem setOp?_append_close (text tail : List Char) :
    setOp? (text ++ ')' :: tail) = (setOp? text).map fun p => (p.1, p.2 ++ ')' :: tail) := by
  cases text with
  | nil => rfl
  | cons c rest =>
    cases rest with
    | nil => simp [setOp?]
    | cons d rest =>
      simp only [List.cons_append]
      unfold setOp?
      grind

/-- A class inside another one is read alike if bodies are: `hbody` is for a body in front of the
parenthesis, and `hpast` for one behind it. What opens the class inside comes first, then its own
body, and then the rest of the body around it. -/
theorem nestedClass_alike (flags : Flags) {fuel fuel' : Nat} (pending : Option (SetOp × CharSet))
    (part : CharSet) {rest tail : List Char}
    (hbody : ∀ (pending : Option (SetOp × CharSet)) (part : CharSet) {left : List Char},
      left.length ≤ rest.length → Alike tail tail (classBody? flags fuel pending part left)
        (classBody? flags fuel' pending part (left ++ ')' :: tail)))
    (hpast : ∀ (pending : Option (SetOp × CharSet)) (part : CharSet) {left : List Char},
      left <:+ ')' :: tail → Leaves tail (classBody? flags fuel' pending part left)) :
    Alike tail tail
      ((openClass? flags rest).bind fun ((negated, start), rest) =>
        (classBody? flags fuel none start rest).bind fun (s, rest) =>
          (finishClass flags negated s).bind fun s =>
            classBody? flags fuel pending (part.union s) rest)
      ((openClass? flags (rest ++ ')' :: tail)).bind fun ((negated, start), rest) =>
        (classBody? flags fuel' none start rest).bind fun (s, rest) =>
          (finishClass flags negated s).bind fun s =>
            classBody? flags fuel' pending (part.union s) rest) := by
  refine (openClass?_alike flags rest tail).bind ?_ ?_
  · intro start left hleft
    have hleft : left <:+ skip flags rest := openClass?_leaves flags rest _ hleft
    have hleft := (hleft.trans (skip_suffix flags rest)).length_le
    refine (hbody none start.2 hleft).bind ?_ ?_
    · intro s left' hleft'
      have hleft' : left' <:+ (skip flags left).tail :=
        classBody?_leaves flags fuel none start.2 left _ hleft'
      have hleft' := (hleft'.trans (List.tail_suffix _)).trans (skip_suffix flags left)
      exact .bindValue fun s => hbody _ _ (hleft'.length_le.trans hleft)
    · intro s left' h
      exact .bindValue fun s => hpast _ _ (h.trans (List.suffix_cons _ _))
  · -- The class inside opens in front of the parenthesis, or behind it in the tail.
    intro start left hleft
    refine (hpast none start.2 hleft).bind ?_
    exact fun s left' h => .bindValue fun s => hpast _ _ (h.trans (List.suffix_cons _ _))

/-- The body of a class is read alike. The induction is on the limit of the reader, which for either
text is more than its length. -/
theorem classBody?_alike (flags : Flags) {fuel fuel' : Nat} (pending : Option (SetOp × CharSet))
    (part : CharSet) {text tail : List Char} (hfuel : text.length < fuel)
    (hfuel' : (text ++ ')' :: tail).length < fuel') :
    Alike tail tail (classBody? flags fuel pending part text)
      (classBody? flags fuel' pending part (text ++ ')' :: tail)) := by
  induction fuel generalizing fuel' pending part text with
  | zero => omega
  | succ fuel ih =>
    obtain ⟨fuel', rfl⟩ : ∃ n, fuel' = n + 1 := ⟨fuel' - 1, by omega⟩
    have hleaves := classBody?_leaves flags (fuel' + 1) pending part (text ++ ')' :: tail)
    have hlength := (skip_suffix flags text).length_le
    cases hskip : skip flags text with
    | nil =>
      have hnone : classBody? flags (fuel + 1) pending part text = none := by
        simp only [classBody?, hskip]
      exact .of_eq_none hnone (hleaves.mono (tail_skip_suffix_of_eq_nil hskip tail))
    | cons c rest =>
      rw [hskip, List.length_cons] at hlength
      rw [List.length_append, List.length_cons] at hfuel'
      -- What is behind the part of the class that stands here is shorter, and read alike; behind
      -- the parenthesis it leaves an end of the tail.
      have hbody (pending : Option (SetOp × CharSet)) (part : CharSet) {left : List Char}
          (hleft : left.length ≤ rest.length) :
          Alike tail tail (classBody? flags fuel pending part left)
            (classBody? flags fuel' pending part (left ++ ')' :: tail)) :=
        ih pending part (by omega) (by rw [List.length_append, List.length_cons]; omega)
      have hpast (pending : Option (SetOp × CharSet)) (part : CharSet) {left : List Char}
          (hleft : left <:+ ')' :: tail) :
          Leaves tail (classBody? flags fuel' pending part left) :=
        (classBody?_leaves flags fuel' pending part left).mono <|
          tail_suffix_of_suffix_cons ((skip_suffix flags left).trans hleft)
      unfold classBody?
      rw [hskip, skip_append_close_of_eq_cons hskip tail]
      by_cases hclose : c = ']'
      · subst hclose
        exact .some _ rest
      · by_cases hopen : c = '['
        · subst hopen
          simp only [asciiClass?_append_close]
          cases hascii : asciiClass? rest with
          | some found =>
            obtain ⟨⟨negated, name⟩, left⟩ := found
            have hleft : left <:+ rest := asciiClass?_leaves rest _ hascii
            exact .bindValue fun s => hbody _ _ hleft.length_le
          | none => exact nestedClass_alike flags pending part hbody hpast
        · simp only [List.cons.injEq, hclose, hopen, false_and, imp_false, not_false_eq_true,
            implies_true]
          rw [← List.cons_append, setOp?_append_close]
          cases hop : setOp? (c :: rest) with
          | some found =>
            obtain ⟨op, left⟩ := found
            have hleft : left <:+ rest := setOp?_leaves (c :: rest) _ hop
            exact hbody _ _ hleft.length_le
          | none =>
            refine (classItem?_alike flags (c :: rest) tail).bind ?_ ?_
            · intro s left hleft
              have hleft : left <:+ rest := classItem?_leaves flags (c :: rest) _ hleft
              exact hbody _ _ hleft.length_le
            · exact fun s left hleft => hpast _ _ hleft

/-- A class in brackets is read alike. -/
theorem bracketClass?_alike (flags : Flags) (text tail : List Char) :
    Alike tail tail (bracketClass? flags text) (bracketClass? flags (text ++ ')' :: tail)) := by
  refine (openClass?_alike flags text tail).bind ?_ ?_
  · intro start rest _
    have hbody := classBody?_alike flags none start.2 (Nat.lt_succ_self rest.length)
      (Nat.lt_succ_self (rest ++ ')' :: tail).length)
    refine hbody.bind ?_ ?_
    · exact fun _ rest _ => .mapValue _ _ rest
    · exact fun _ _ h => .mapValue fun _ => h
  · intro start rest h
    have hend := tail_suffix_of_suffix_cons ((skip_suffix flags rest).trans h)
    refine ((classBody?_leaves flags _ none start.2 rest).mono hend).bind ?_
    exact fun _ _ h => .mapValue fun _ => h

/-! ## Repetitions -/

/-- A number is read alike, unless a comment behind its digits leads past the parenthesis. -/
theorem count?_append_close (flags : Flags) (text tail : List Char) :
    count? flags (text ++ ')' :: tail) =
        (count? flags text).map (fun p => (p.1, p.2 ++ ')' :: tail)) ∨
      (∀ p ∈ count? flags text, p.2 = []) ∧ Leaves tail (count? flags (text ++ ')' :: tail)) := by
  have hlength := (List.dropWhile_suffix isBlank (l := text)).length_le
  have hdigit : Char.isDigit ')' = false := by decide
  unfold count?
  rw [dropWhile_isBlank_append_close]
  have hfuel : (text.dropWhile isBlank).length ≤ text.length + 1 := by omega
  have hfuel' : (text.dropWhile isBlank).length ≤ (text ++ ')' :: tail).length + 1 := by
    rw [List.length_append]
    omega
  rcases takeRun_append_close flags hdigit hfuel hfuel' tail with h | ⟨hnil, hpast⟩
  · left
    rw [h]
    dsimp only
    split
    · rfl
    · rw [dropWhile_isBlank_append_close]
      rfl
  · right
    dsimp only
    constructor
    · rw [hnil]
      intro p hp
      split at hp
      · exact absurd hp (by simp)
      · obtain rfl := Option.some.inj hp
        rfl
    · split
      · exact .none
      · exact .some _ ((List.dropWhile_suffix _).trans hpast)

/-- What is read behind a number is alike if it is so by itself. -/
theorem count?_bind_alike {β : Type} (flags : Flags)
    {f : Nat × List Char → Option (β × List Char)} (text : List Char) {tail : List Char}
    (hnil : ∀ n, f (n, []) = none)
    (halike : ∀ n rest, Alike tail tail (f (n, rest)) (f (n, rest ++ ')' :: tail)))
    (hleaves : ∀ n rest, Leaves rest (f (n, rest))) :
    Alike tail tail ((count? flags text).bind f) ((count? flags (text ++ ')' :: tail)).bind f) := by
  rcases count?_append_close flags text tail with h | ⟨hcount, hpast⟩
  · rw [h]
    cases count? flags text with
    | none => exact .none
    | some p => exact halike p.1 p.2
  · have hnone : (count? flags text).bind f = none := by
      refine Option.bind_eq_none_iff.2 fun p hp => ?_
      rw [← hnil p.1, ← hcount p hp]
    exact .of_eq_none hnone (hpast.bind fun n rest h => (hleaves n rest).mono h)

/-- The end of the bounds of a repetition is read alike. -/
theorem closeBounds?_alike (least most : Nat) (text tail : List Char) :
    Alike tail tail (closeBounds? least most text)
      (closeBounds? least most (text ++ ')' :: tail)) := by
  cases text with
  | nil => exact .none
  | cons c rest =>
    by_cases hc : c = '}'
    · subst hc
      simp only [List.cons_append, closeBounds?]
      split
      · exact .some _ rest
      · exact .none
    · simp only [List.cons_append, closeBounds?, List.cons.injEq, hc, false_and, imp_false,
        not_false_eq_true, implies_true]
      exact .none

/-- The greatest number of repetitions is read alike. -/
theorem mostBound?_alike (flags : Flags) (least : Nat) (text tail : List Char) :
    Alike tail tail (mostBound? flags least text)
      (mostBound? flags least (text ++ ')' :: tail)) := by
  have hcount (text : List Char) :=
    count?_bind_alike flags text (f := fun p => closeBounds? least p.1 p.2) (fun _ => rfl)
      (fun most rest => closeBounds?_alike least most rest tail) (closeBounds?_leaves least)
  cases text with
  | nil => exact hcount []
  | cons c rest =>
    by_cases hc : c = '}'
    · subst hc
      exact .some _ rest
    · simp only [List.cons_append, mostBound?, List.cons.injEq, hc, false_and, imp_false,
        not_false_eq_true, implies_true]
      exact hcount (c :: rest)

/-- What is behind the least number of repetitions is read alike. -/
theorem upperBound?_alike (flags : Flags) (least : Nat) (text tail : List Char) :
    Alike tail tail (upperBound? flags least text)
      (upperBound? flags least (text ++ ')' :: tail)) := by
  cases text with
  | nil => exact .none
  | cons c rest =>
    by_cases hc : c = '}'
    · subst hc
      exact .some _ rest
    · by_cases hcomma : c = ','
      · subst hcomma
        simp only [List.cons_append, upperBound?]
        rcases skip_append_close flags rest with h | ⟨hnil, hpast⟩
        · rw [h tail]
          exact mostBound?_alike flags least _ tail
        · rw [hnil]
          exact .past ((mostBound?_leaves _ _ _).mono (hpast tail).1)
      · simp only [List.cons_append, upperBound?, List.cons.injEq, hc, hcomma, false_and, imp_false,
          not_false_eq_true, implies_true]
        exact .none

/-- The bounds of a repetition are read alike. -/
theorem bounds?_alike (flags : Flags) (text tail : List Char) :
    Alike tail tail (bounds? flags text) (bounds? flags (text ++ ')' :: tail)) := by
  unfold bounds?
  rcases skip_append_close flags text with h | ⟨hnil, hpast⟩
  · rw [h tail]
    exact count?_bind_alike flags _ (f := fun p => upperBound? flags p.1 p.2) (fun _ => rfl)
      (fun least rest => upperBound?_alike flags least rest tail) (upperBound?_leaves flags)
  · rw [hnil]
    exact .past <| ((count?_leaves _ _).mono (hpast tail).1).bind fun _ _ h =>
      (upperBound?_leaves _ _ _).mono h

/-- A question mark is taken alike. -/
theorem questionMark_append_close (text tail : List Char) :
    questionMark (text ++ ')' :: tail) =
      ((questionMark text).1, (questionMark text).2 ++ ')' :: tail) := by
  cases text with
  | nil => rfl
  | cons c rest =>
    by_cases hc : c = '?'
    · subst hc
      rfl
    · simp [questionMark, hc]

/-- A question mark behind a repetition is seen alike, unless a comment is in front of it. -/
theorem questionMarkBehind_alike (flags : Flags) (text tail : List Char) :
    Alike tail tail (some (questionMarkBehind flags text))
      (some (questionMarkBehind flags (text ++ ')' :: tail))) := by
  unfold questionMarkBehind
  rcases skip_append_close flags text with h | ⟨hnil, hpast⟩
  · rw [h tail]
    cases skip flags text with
    | nil => exact .some false text
    | cons c rest =>
      by_cases hc : c = '?'
      · subst hc
        exact .some true rest
      · simp only [List.cons_append, List.cons.injEq, hc, false_and, imp_false, not_false_eq_true,
          implies_true]
        exact .some false text
  · obtain ⟨hend, hempty⟩ := hpast tail
    rw [hnil]
    generalize skip flags (text ++ ')' :: tail) = behind at hend hempty ⊢
    dsimp only
    split
    · -- A question mark follows, so that a line feed in the tail has ended the comment.
      refine .inr ⟨.some _ ((List.suffix_cons _ _).trans hend), fun htail => ?_⟩
      exact absurd (hempty htail) (by simp)
    · exact .some false text

/-! ## Groups -/

/-- The name of a group is read alike; no parenthesis is in it. -/
theorem groupName?_alike (text tail : List Char) :
    Alike tail tail (groupName? text) (groupName? (text ++ ')' :: tail)) := by
  unfold groupName?
  rcases run_append (· != '>') text (')' :: tail) with ⟨hne, htake, hdrop⟩ | ⟨hnil, -, hdrop⟩
  · rw [htake, hdrop]
    generalize text.takeWhile (· != '>') = taken
    generalize text.dropWhile (· != '>') = behind at hne
    cases behind with
    | nil => exact absurd rfl hne
    | cons d rest =>
      cases taken with
      | nil => exact .none
      | cons c name =>
        simp only [List.cons_append]
        split
        · exact .some _ rest
        · exact .none
  · rw [hnil, hdrop]
    refine .inr ⟨?_, fun _ => ?_⟩
    · split
      · rename_i stop rest _ hdrop
        split
        · refine .some _ ((List.suffix_cons stop rest).trans ?_)
          rw [← hdrop, List.dropWhile_cons_of_pos (by decide)]
          exact List.dropWhile_suffix _
        · exact .none
      · exact .none
    · split
      · rename_i hempty
        exact absurd hempty (by simp)
      · rfl

/-- A list of flags is read alike. It may end at the parenthesis, which it takes. -/
theorem flagList?_alike (flags : Flags) (text tail : List Char) :
    Alike tail tail (flagList? flags text) (flagList? flags (text ++ ')' :: tail)) := by
  unfold flagList?
  dsimp only
  rcases run_append (fun c => !(c == ':' || c == ')')) text (')' :: tail) with
    ⟨hne, htake, hdrop⟩ | ⟨hnil, -, hdrop⟩
  · rw [htake, hdrop]
    generalize text.dropWhile (fun c => !(c == ':' || c == ')')) = behind at hne
    cases behind with
    | nil => exact absurd rfl hne
    | cons stop rest =>
      simp only [List.cons_append]
      split
      · exact .mapValue _ _ rest
      · exact .none
  · have hclose : (')' :: tail).dropWhile (fun c => !(c == ':' || c == ')')) = ')' :: tail := rfl
    rw [hnil, hdrop, hclose]
    refine .past ?_
    dsimp only
    split
    · exact .mapValue fun _ => List.suffix_rfl
    · exact .none

/-- Whether a group looks around is seen before the parenthesis. -/
theorem looksAround_append_close (text tail : List Char) :
    looksAround (text ++ ')' :: tail) = looksAround text := by
  unfold looksAround
  cases text with
  | nil => rfl
  | cons c rest =>
    cases rest with
    | nil =>
      simp only [List.cons_append]
      grind
    | cons d rest =>
      simp only [List.cons_append]
      grind

/-- A named group is opened alike. -/
theorem openNamed?_alike (st : State) (text tail : List Char) :
    Alike tail tail (openNamed? st text) (openNamed? st (text ++ ')' :: tail)) := by
  refine (groupName?_alike text tail).bind ?_ ?_
  · exact fun name rest _ => .mapValue _ _ rest
  · exact fun name rest h => .mapValue fun _ => h

/-- A group with flags is opened alike, and flags are changed alike. -/
theorem openFlagged?_alike (st : State) (text tail : List Char) :
    Alike tail tail (openFlagged? st text) (openFlagged? st (text ++ ')' :: tail)) := by
  refine (flagList?_alike st.flags text tail).bind ?_ ?_
  · rintro ⟨flags, none?, stop⟩ rest -
    dsimp only
    split
    · exact .some _ rest
    · split
      · exact .none
      · exact .some _ rest
  · rintro ⟨flags, none?, stop⟩ rest h
    dsimp only
    split
    · exact .some _ h
    · split
      · exact .none
      · exact .some _ h

/-- What is behind the question mark of a group is read alike. -/
theorem openMarked?_alike (st : State) (text tail : List Char) :
    Alike tail tail (openMarked? st text) (openMarked? st (text ++ ')' :: tail)) := by
  cases text with
  | nil => exact openFlagged?_alike st [] tail
  | cons c rest =>
    by_cases hname : c = '<'
    · subst hname
      exact openNamed?_alike st rest tail
    · cases rest with
      | nil =>
        have h (rest : List Char) : openMarked? st (c :: ')' :: rest) =
            openFlagged? st (c :: ')' :: rest) := by
          simp [openMarked?, hname]
        have h' : openMarked? st [c] = openFlagged? st [c] := by simp [openMarked?, hname]
        rw [List.cons_append, List.nil_append, h, h']
        exact openFlagged?_alike st [c] tail
      | cons d rest =>
        by_cases hlong : c = 'P' ∧ d = '<'
        · obtain ⟨rfl, rfl⟩ := hlong
          exact openNamed?_alike st rest tail
        · have h (rest : List Char) : openMarked? st (c :: d :: rest) =
              openFlagged? st (c :: d :: rest) := by
            unfold openMarked?
            grind
          rw [List.cons_append, List.cons_append, h, h]
          exact openFlagged?_alike st (c :: d :: rest) tail

/-- A group is opened alike. -/
theorem openParen?_alike (st : State) (text tail : List Char) :
    Alike tail tail (openParen? st text) (openParen? st (text ++ ')' :: tail)) := by
  unfold openParen?
  rcases skip_append_close st.flags text with h | ⟨hnil, hpast⟩
  · rw [h tail]
    cases skip st.flags text with
    | nil => exact .some _ text
    | cons c rest =>
      by_cases hc : c = '?'
      · subst hc
        simp only [List.cons_append, looksAround_append_close]
        split
        · exact .none
        · exact openMarked?_alike st rest tail
      · simp only [List.cons_append, List.cons.injEq, hc, false_and, imp_false, not_false_eq_true,
          implies_true]
        exact .some _ text
  · obtain ⟨hend, hempty⟩ := hpast tail
    rw [hnil]
    generalize skip st.flags (text ++ ')' :: tail) = behind at hend hempty ⊢
    dsimp only
    split
    · -- A question mark follows, so that a line feed in the tail has ended the comment.
      refine .inr ⟨?_, fun htail => absurd (hempty htail) (by simp)⟩
      split
      · exact .none
      · exact (openMarked?_leaves _ _).mono ((List.suffix_cons _ _).trans hend)
    · exact .some _ text

/-! ## Steps -/

/-- A single sign of repetition is read alike. -/
theorem repeatSimply_append_close (st : State) (rest tail : List Char) (least : Nat)
    (most : Option Nat) :
    Alike tail tail (step?.repeatSimply st rest least most)
      (step?.repeatSimply st (rest ++ ')' :: tail) least most) := by
  unfold step?.repeatSimply
  rw [questionMark_append_close]
  exact .mapValue _ _ _

/-- A step is alike. -/
theorem step?_alike (st : State) (c : Char) (rest tail : List Char) :
    Alike tail tail (step? st c rest) (step? st c (rest ++ ')' :: tail)) := by
  unfold step?
  split
  · exact openParen?_alike st rest tail
  · exact .mapValue _ _ rest
  · exact .some _ rest
  · exact (bracketClass?_alike st.flags rest tail).map fun s => st.push (.one s)
  · exact repeatSimply_append_close st rest tail _ _
  · exact repeatSimply_append_close st rest tail _ _
  · exact repeatSimply_append_close st rest tail _ _
  · refine (bounds?_alike st.flags rest tail).bind ?_ ?_
    · intro bounds rest _
      let repeated (p : Bool × List Char) : Option (State × List Char) :=
        (st.repeatLast? bounds.1 bounds.2 p.1).map fun st => (st, p.2)
      exact (questionMarkBehind_alike st.flags rest tail).bind (f := repeated) (g := repeated)
        (fun marked rest _ => .mapValue _ _ rest) fun _ _ h => .mapValue fun _ => h
    · exact fun _ rest h => .mapValue fun _ => (questionMarkBehind_suffix _ _).trans h
  · refine (escape?_alike st.flags rest tail).bind ?_ ?_
    · exact fun atom rest _ => .mapValue _ _ rest
    · exact fun atom rest h => .mapValue fun _ => h
  · exact .mapValue _ _ rest
  · exact .some _ rest
  · exact .some _ rest
  · exact .some _ rest

end MetricAlgebra.Pattern
