import Mathlib.Logic.Relation
import MetricAlgebra.Proofs.Pattern.Locality

/-!
# Runs of the reader of patterns

The reader of patterns as a relation between states with what is still to be read (`Step`), and what
its runs do to a text with a closing parenthesis and more behind it. The limit on the steps of the
reader does not matter (`run?_eq_some_iff`). A run on a text alone is one on the text with a
parenthesis behind it, as long as no line feed can end a comment there (`Steps.append_close`); a run
that comes to stand before that parenthesis is one on the text alone (`Steps.of_append_close`).
Groups that are open around all that is read take no part in a step, unless it closes one of them
(`step?_nest`).
-/

namespace MetricAlgebra.Pattern

/-! ## Steps -/

/-- The state of the reader and the text that it has not read. -/
abbrev Config := State × List Char

/-- The reader takes an element. -/
def Step (a b : Config) : Prop :=
  ∃ c rest, skip a.1.flags a.2 = c :: rest ∧ step? a.1 c rest = some b

/-- The reader takes any number of elements. -/
abbrev Steps : Config → Config → Prop := Relation.ReflTransGen Step

/-- There is at most one step from a place. -/
theorem Step.unique {a b b' : Config} (h : Step a b) (h' : Step a b') : b = b' := by
  obtain ⟨c, rest, hskip, hstep⟩ := h
  obtain ⟨c', rest', hskip', hstep'⟩ := h'
  obtain ⟨rfl, rfl⟩ := List.cons.inj (hskip.symm.trans hskip')
  exact Option.some.inj (hstep.symm.trans hstep')

/-- A step leaves an end of what is behind the character that it starts with. -/
theorem Step.suffix {a b : Config} (h : Step a b) : b.2 <:+ (skip a.1.flags a.2).tail := by
  obtain ⟨c, rest, hskip, hstep⟩ := h
  rw [hskip]
  exact step?_leaves a.1 c rest b hstep

/-- Steps leave an end of the text. -/
theorem Steps.suffix {a b : Config} (h : Steps a b) : b.2 <:+ a.2 := by
  induction h with
  | refl => exact List.suffix_rfl
  | tail _ hstep ih =>
    exact ((hstep.suffix.trans (List.tail_suffix _)).trans (skip_suffix _ _)).trans ih

/-- No step starts where nothing is left that counts. -/
theorem not_step_of_skip_eq_nil {a b : Config} (ha : skip a.1.flags a.2 = []) : ¬ Step a b := by
  rintro ⟨c, rest, hskip, -⟩
  rw [ha] at hskip
  exact absurd hskip (by simp)

/-- Steps from where nothing is left that counts are none. -/
theorem Steps.eq_of_skip_eq_nil {a b : Config} (h : Steps a b) (ha : skip a.1.flags a.2 = []) :
    b = a := by
  rcases h.cases_head with rfl | ⟨m, hstep, -⟩
  · rfl
  · exact absurd hstep (not_step_of_skip_eq_nil ha)

/-- Nothing more is read where nothing is left that counts. -/
theorem run?_of_skip_eq_nil {st : State} {text : List Char} (h : skip st.flags text = [])
    (limit : Nat) : run? limit st text = some st := by
  unfold run?
  rw [h]

/-- The first element, and then the rest. -/
theorem run?_of_skip_eq_cons {st : State} {text rest : List Char} {c : Char}
    (h : skip st.flags text = c :: rest) (limit : Nat) :
    run? (limit + 1) st text = (step? st c rest).bind fun p => run? limit p.1 p.2 := by
  conv_lhs => unfold run?
  rw [h]

/-- The reader gives the state in which nothing is left that counts. -/
theorem run?_eq_some_iff {limit : Nat} {st st' : State} {text : List Char}
    (hlimit : text.length ≤ limit) :
    run? limit st text = some st' ↔
      ∃ rest, Steps (st, text) (st', rest) ∧ skip st'.flags rest = [] := by
  have hnil {limit : Nat} {st : State} {text : List Char} (h : skip st.flags text = []) :
      run? limit st text = some st' ↔
        ∃ rest, Steps (st, text) (st', rest) ∧ skip st'.flags rest = [] := by
    rw [run?_of_skip_eq_nil h]
    constructor
    · rintro ⟨rfl⟩
      exact ⟨text, .refl, h⟩
    · rintro ⟨rest, hsteps, -⟩
      obtain ⟨rfl, rfl⟩ := Prod.mk.inj (hsteps.eq_of_skip_eq_nil h)
      rfl
  induction limit generalizing st text with
  | zero =>
    obtain rfl : text = [] := List.eq_nil_of_length_eq_zero (Nat.le_zero.1 hlimit)
    exact hnil (skip_nil _)
  | succ limit ih =>
    cases hskip : skip st.flags text with
    | nil => exact hnil hskip
    | cons c rest =>
      have hlength := (skip_suffix st.flags text).length_le
      rw [hskip, List.length_cons] at hlength
      -- Every step leaves a shorter text, for which the limit that is left is enough.
      have hlimit (a : Config) (ha : step? st c rest = some a) : a.2.length ≤ limit := by
        have := (step?_leaves st c rest a ha).length_le
        omega
      rw [run?_of_skip_eq_cons hskip, Option.bind_eq_some_iff]
      constructor
      · rintro ⟨a, hstep, hrun⟩
        obtain ⟨left, hsteps, hleft⟩ := (ih (hlimit a hstep)).1 hrun
        exact ⟨left, .head ⟨c, rest, hskip, hstep⟩ hsteps, hleft⟩
      · rintro ⟨left, hsteps, hleft⟩
        rcases hsteps.cases_head with heq | ⟨a, hstep, hsteps⟩
        · obtain ⟨rfl, rfl⟩ := Prod.mk.inj heq
          rw [hskip] at hleft
          exact absurd hleft (by simp)
        · obtain ⟨c', rest', hskip', hstep⟩ := hstep
          obtain ⟨rfl, rfl⟩ := List.cons.inj (hskip.symm.trans hskip')
          exact ⟨a, hstep, (ih (hlimit a hstep)).2 ⟨left, hsteps, hleft⟩⟩

/-- A text is read as a whole by steps to its end that close every group. -/
theorem read?_eq_some_iff {text : List Char} {st : State} :
    read? text = some st ↔
      (∃ rest, Steps ({}, text) (st, rest) ∧ skip st.flags rest = []) ∧ st.scopes = [] := by
  unfold read?
  rw [Option.bind_eq_some_iff]
  constructor
  · rintro ⟨st', hrun, hst⟩
    split at hst
    · rename_i hscopes
      obtain rfl := Option.some.inj hst
      exact ⟨(run?_eq_some_iff (Nat.le_refl _)).1 hrun, List.isEmpty_iff.1 hscopes⟩
    · exact absurd hst (by simp)
  · rintro ⟨hrun, hscopes⟩
    exact ⟨st, (run?_eq_some_iff (Nat.le_refl _)).2 hrun, by simp [hscopes]⟩

/-- Of two runs from one place one goes on from where the other has come to. -/
theorem Steps.total {a b b' : Config} (h : Steps a b) (h' : Steps a b') :
    Steps b b' ∨ Steps b' b :=
  Relation.ReflTransGen.total_of_right_unique (fun _ _ _ => Step.unique) h h'

/-- A text on which the reader gets stuck is no pattern. -/
theorem read?_eq_none_of_stuck {text rest : List Char} {st : State} {c : Char} {behind : List Char}
    (hsteps : Steps ({}, text) (st, rest)) (hskip : skip st.flags rest = c :: behind)
    (hstuck : step? st c behind = none) : read? text = none := by
  refine Option.eq_none_iff_forall_ne_some.2 fun st' hread => ?_
  obtain ⟨⟨rest', hsteps', hskip'⟩, -⟩ := read?_eq_some_iff.1 hread
  -- A run to the end would go on from where the reader is stuck, or would have ended before.
  have hend : ¬ Steps (st, rest) (st', rest') := by
    intro h
    rcases h.cases_head with heq | ⟨a, ⟨c', behind', hskip'', hstep⟩, -⟩
    · obtain ⟨rfl, rfl⟩ := Prod.mk.inj heq
      rw [hskip] at hskip'
      exact absurd hskip' (by simp)
    · obtain ⟨rfl, rfl⟩ := List.cons.inj (hskip.symm.trans hskip'')
      rw [hstuck] at hstep
      exact absurd hstep (by simp)
  rcases hsteps.total hsteps' with h | h
  · exact hend h
  · obtain heq := Steps.eq_of_skip_eq_nil h hskip'
    rw [heq] at hend
    exact hend .refl

/-! ## A parenthesis behind the text -/

/-- A run on a text is one on the text with a parenthesis behind it, if no line feed is behind the
parenthesis. -/
theorem Steps.append_close {st st' : State} {text rest tail : List Char} (htail : '\n' ∉ tail)
    (h : Steps (st, text) (st', rest)) :
    Steps (st, text ++ ')' :: tail) (st', rest ++ ')' :: tail) := by
  have hstep {a b : Config} (h : Step a b) :
      Step (a.1, a.2 ++ ')' :: tail) (b.1, b.2 ++ ')' :: tail) := by
    obtain ⟨c, rest, hskip, hstep⟩ := h
    refine ⟨c, rest ++ ')' :: tail, skip_append_close_of_eq_cons hskip tail, ?_⟩
    rcases step?_alike a.1 c rest tail with hsame | ⟨-, hnone⟩
    · rw [hsame, hstep]
      rfl
    · rw [hnone htail] at hstep
      exact absurd hstep (by simp)
  exact Relation.ReflTransGen.lift (fun a : Config => (a.1, a.2 ++ ')' :: tail))
    (fun _ _ => hstep) _ _ h

/-- A step in front of a parenthesis is one on the text alone, or it goes past the parenthesis. -/
theorem Step.of_append_close {st : State} {text tail : List Char} {b : Config}
    (h : Step (st, text ++ ')' :: tail) b) :
    b.2 <:+ tail ∨ ∃ a, Step (st, text) a ∧ b = (a.1, a.2 ++ ')' :: tail) := by
  have hsuffix := h.suffix
  obtain ⟨c, behind, hskip, hstep⟩ := h
  dsimp only at hskip hstep hsuffix
  cases htext : skip st.flags text with
  | nil => exact .inl (hsuffix.trans (tail_skip_suffix_of_eq_nil htext tail))
  | cons d rest =>
    rw [skip_append_close_of_eq_cons htext tail] at hskip
    obtain ⟨rfl, rfl⟩ := List.cons.inj hskip
    rcases step?_alike st d rest tail with halike | ⟨hleaves, -⟩
    · rw [halike] at hstep
      obtain ⟨found, hfound, rfl⟩ := Option.map_eq_some_iff.1 hstep
      exact .inr ⟨found, ⟨d, rest, htext, hfound⟩, rfl⟩
    · exact .inl (hleaves b hstep)

/-- A run that comes to stand before a parenthesis is one on the text in front of it. It ends there,
and not in a comment. -/
theorem Steps.of_append_close {st st' : State} {text tail left : List Char}
    (h : Steps (st, text ++ ')' :: tail) (st', left)) (hleft : skip st'.flags left = ')' :: tail) :
    ∃ rest, Steps (st, text) (st', rest) ∧ skip st'.flags rest = [] ∧
      skip st'.flags (rest ++ [')']) = [')'] := by
  -- What is left at the end is longer than the tail, so that no step goes past the parenthesis.
  have hshort {text : List Char} (h : skip st'.flags left <:+ text) (htext : text <:+ tail) :
      False := by
    have := (h.trans htext).length_le
    rw [hleft, List.length_cons] at this
    omega
  generalize ha : (st, text ++ ')' :: tail) = a at h
  induction h using Relation.ReflTransGen.head_induction_on generalizing st text with
  | refl =>
    obtain ⟨rfl, rfl⟩ := Prod.mk.inj ha
    refine ⟨text, .refl, ?_⟩
    rcases skip_append_close st.flags text with hsame | ⟨-, hpast⟩
    · rw [hsame tail] at hleft
      have hnil : skip st.flags text = [] := List.append_left_eq_self.1 hleft
      exact ⟨hnil, by rw [hsame [], hnil, List.nil_append]⟩
    · exact absurd (hshort List.suffix_rfl (hpast tail).1) id
  | head hstep hsteps ih =>
    subst ha
    rcases hstep.of_append_close with hpast | ⟨a, halone, rfl⟩
    · exact absurd (hshort ((skip_suffix _ _).trans (Steps.suffix hsteps)) hpast) id
    · obtain ⟨rest, hsteps, hend⟩ := ih rfl
      exact ⟨rest, .head halone hsteps, hend⟩

/-! ## Groups around the text -/

namespace State

/-- The state inside one more group, which is open around all that the state has open. -/
def nest (outer : Scope) (st : State) : State := { st with scopes := st.scopes ++ [outer] }

/-- A further group does not change the flags in force. -/
@[simp] theorem nest_flags (outer : Scope) (st : State) : (st.nest outer).flags = st.flags := rfl

end State

/-- A reader changes the state inside a further group alike. -/
theorem openFlagged?_nest (outer : Scope) (st : State) (text : List Char) :
    openFlagged? (st.nest outer) text =
      (openFlagged? st text).map fun p => (p.1.nest outer, p.2) := by
  unfold openFlagged?
  rw [State.nest_flags]
  cases flagList? st.flags text with
  | none => rfl
  | some found =>
    obtain ⟨⟨flags, none?, stop⟩, rest⟩ := found
    simp only [Option.bind_some]
    split
    · rfl
    · split
      · rfl
      · rfl

/-- A named group is opened inside a further group alike. -/
theorem openNamed?_nest (outer : Scope) (st : State) (text : List Char) :
    openNamed? (st.nest outer) text = (openNamed? st text).map fun p => (p.1.nest outer, p.2) := by
  have hname (name : String) :
      (st.nest outer).nameNext? name = (st.nameNext? name).map (State.nest outer) := by
    unfold State.nameNext?
    rw [apply_ite (Option.map (State.nest outer))]
    rfl
  unfold openNamed?
  cases groupName? text with
  | none => rfl
  | some found =>
    simp only [Option.bind_some, hname]
    cases st.nameNext? found.1 with
    | none => rfl
    | some named => rfl

/-- A group is opened inside a further group alike. -/
theorem openParen?_nest (outer : Scope) (st : State) (text : List Char) :
    openParen? (st.nest outer) text = (openParen? st text).map fun p => (p.1.nest outer, p.2) := by
  unfold openParen?
  rw [State.nest_flags]
  split
  · split
    · rfl
    · unfold openMarked?
      split
      · exact openNamed?_nest outer st _
      · exact openNamed?_nest outer st _
      · exact openFlagged?_nest outer st _
  · rfl

/-- A group that is not the further one is closed alike. -/
theorem closeGroup?_nest (outer : Scope) {st : State} (h : st.scopes ≠ []) :
    (st.nest outer).closeGroup? = st.closeGroup?.map (State.nest outer) := by
  obtain ⟨flags, branches, items, scopes, groups, names⟩ := st
  cases scopes with
  | nil => exact absurd rfl h
  | cons scope scopes => rfl

/-- The last item is repeated inside a further group alike. -/
theorem repeatLast?_nest (outer : Scope) (st : State) (least : Nat) (most : Option Nat)
    (marked : Bool) :
    (st.nest outer).repeatLast? least most marked =
      (st.repeatLast? least most marked).map (State.nest outer) := by
  obtain ⟨flags, branches, items, scopes, groups, names⟩ := st
  cases items with
  | nil => rfl
  | cons item items =>
    cases item with
    | node n => rfl
    | directive => rfl

/-- A single sign of repetition is read inside a further group alike. -/
theorem repeatSimply_nest (outer : Scope) (st : State) (rest : List Char) (least : Nat)
    (most : Option Nat) :
    step?.repeatSimply (st.nest outer) rest least most =
      (step?.repeatSimply st rest least most).map fun p => (p.1.nest outer, p.2) := by
  unfold step?.repeatSimply
  simp only [repeatLast?_nest]
  cases st.repeatLast? least most (questionMark rest).1 with
  | none => rfl
  | some repeated => rfl

/-- A step inside a further group is the same, unless it closes that group. -/
theorem step?_nest (outer : Scope) {st : State} {c : Char} (rest : List Char)
    (h : c = ')' → st.scopes ≠ []) :
    step? (st.nest outer) c rest = (step? st c rest).map fun p => (p.1.nest outer, p.2) := by
  unfold step?
  rw [State.nest_flags]
  split
  · exact openParen?_nest outer st rest
  · rw [closeGroup?_nest outer (h rfl)]
    cases st.closeGroup? with
    | none => rfl
    | some closed => rfl
  · rfl
  · cases bracketClass? st.flags rest with
    | none => rfl
    | some found => rfl
  · exact repeatSimply_nest outer st rest _ _
  · exact repeatSimply_nest outer st rest _ _
  · exact repeatSimply_nest outer st rest _ _
  · cases bounds? st.flags rest with
    | none => rfl
    | some found =>
      simp only [Option.bind_some, repeatLast?_nest]
      cases st.repeatLast? found.1.1 found.1.2 (questionMarkBehind st.flags found.2).1 with
      | none => rfl
      | some repeated => rfl
  · cases escape? st.flags rest with
    | none => rfl
    | some found =>
      simp only [Option.bind_some]
      cases atomNode? st.flags found.1 with
      | none => rfl
      | some n => rfl
  · cases dotNode? st.flags with
    | none => rfl
    | some n => rfl
  · rfl
  · rfl
  · rfl

/-- Steps that are possible by themselves are so inside a further group. -/
theorem Steps.nest {st st' : State} {text rest : List Char} (outer : Scope)
    (h : Steps (st, text) (st', rest)) : Steps (st.nest outer, text) (st'.nest outer, rest) := by
  have hstep {a b : Config} (h : Step a b) : Step (a.1.nest outer, a.2) (b.1.nest outer, b.2) := by
    obtain ⟨c, rest, hskip, hstep⟩ := h
    -- By itself the step is only possible if the group that it closes is open.
    have hopen : c = ')' → a.1.scopes ≠ [] := by
      rintro rfl hscopes
      have hclose : step? a.1 ')' rest = none := by simp [step?, State.closeGroup?, hscopes]
      rw [hclose] at hstep
      exact absurd hstep (by simp)
    exact ⟨c, rest, hskip, by rw [step?_nest outer rest hopen, hstep]; rfl⟩
  exact Relation.ReflTransGen.lift (fun a : Config => (a.1.nest outer, a.2))
    (fun _ _ => hstep) _ _ h

end MetricAlgebra.Pattern
