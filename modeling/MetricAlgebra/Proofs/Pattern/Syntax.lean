import MetricAlgebra.Pattern
import MetricAlgebra.Proofs.PatternEngine
import MetricAlgebra.Proofs.Pattern.Matching
import MetricAlgebra.Proofs.Pattern.Run

/-!
# The syntax of patterns

The engine of patterns keeps what is promised of groups, anchors and comments
(`Pattern.engine_syntaxSpec`). A text is read by itself, between the parentheses of a group, or
behind one that is not closed; how the reader comes through the text is the same.
-/

namespace MetricAlgebra.Pattern

/-! ## What is a pattern -/

/-- What a text says as a pattern. -/
theorem compile_eq_ok_iff {source : String} {p : Pattern} :
    compile source = .ok p ↔
      ∃ st, read? source.toList = some st ∧ p = ⟨source, st.groupNode, st.names⟩ := by
  unfold compile
  cases read? source.toList with
  | none => simp
  | some st => simp [eq_comm]

/-- A text is a pattern if the reader comes to its end with every group closed. -/
theorem isPattern_iff {text : String} :
    engine.IsPattern text ↔ ∃ st rest,
      Steps ({}, text.toList) (st, rest) ∧ skip st.flags rest = [] ∧ st.scopes = [] := by
  constructor
  · rintro ⟨p, hp⟩
    obtain ⟨st, hread, -⟩ := compile_eq_ok_iff.1 hp
    obtain ⟨⟨rest, hsteps, hend⟩, hscopes⟩ := read?_eq_some_iff.1 hread
    exact ⟨st, rest, hsteps, hend, hscopes⟩
  · rintro ⟨st, rest, hsteps, hend, hscopes⟩
    exact ⟨_, compile_eq_ok_iff.2
      ⟨st, read?_eq_some_iff.2 ⟨⟨rest, hsteps, hend⟩, hscopes⟩, rfl⟩⟩

/-- A text with a parenthesis behind it is no pattern if the parenthesis has no group to close. -/
theorem not_isPattern_close {text : String} {rest : List Char} {st : State}
    (hsteps : Steps ({}, text.toList) (st, rest)) (hscopes : st.scopes = [])
    (hend : skip st.flags (rest ++ [')']) = [')']) : ¬ engine.IsPattern (text ++ ")") := by
  rintro ⟨p, hp⟩
  obtain ⟨st', hread, -⟩ := compile_eq_ok_iff.1 hp
  have hclose : step? st ')' [] = none := by simp [step?, State.closeGroup?, hscopes]
  have hnone := read?_eq_none_of_stuck (hsteps.append_close (by simp)) hend hclose
  rw [String.toList_append] at hread
  exact absurd (hnone.symm.trans hread) (by simp)

/-- A pattern ends in a comment if the parenthesis behind it is skipped at its end. -/
theorem endsInComment_iff {text : String} {rest : List Char} {st : State}
    (hsteps : Steps ({}, text.toList) (st, rest)) (hend : skip st.flags rest = [])
    (hscopes : st.scopes = []) :
    engine.EndsInComment text ↔ skip st.flags (rest ++ [')']) ≠ [')'] := by
  constructor
  · rintro ⟨-, hclosed⟩ hskip
    exact not_isPattern_close hsteps hscopes hskip hclosed
  · intro hskip
    refine ⟨isPattern_iff.2 ⟨st, rest, hsteps, hend, hscopes⟩, ?_⟩
    refine isPattern_iff.2 ⟨st, rest ++ [')'], ?_, ?_, hscopes⟩
    · rw [String.toList_append]
      exact hsteps.append_close (by simp)
    · rcases skip_append_close st.flags rest with hsame | ⟨-, hpast⟩
      · rw [hsame [], hend, List.nil_append] at hskip
        exact absurd rfl hskip
      · exact (hpast []).2 (by simp)

example : engine.EndsInComment "(?x)a#" := ⟨⟨_, rfl⟩, ⟨_, rfl⟩⟩

/-! ## Groups and anchors -/

/-- A match of a pattern from one place of a text to another. -/
def Spans (p : Pattern) (text : String) (i j : Nat) : Prop :=
  i ≤ text.length ∧ p.node.Matches text.toList.toArray i j

/-- A text is read as a pattern wherever a branch may go on, and adds its items to those of the
branch. -/
def Operand (text : String) (p : Pattern) : Prop :=
  ∃ (items : List Item) (groups : Nat) (names : List (String × Nat)),
    p = ⟨text, State.branchNode items, names⟩ ∧
    ∀ (below : List Item) (tail : List Char), '\n' ∉ tail →
      Steps ({ items := below }, text.toList ++ tail)
        ({ items := items ++ below, groups, names }, tail)

/-- A sequence may leave out an empty end. -/
theorem matches_followedBy {text : Array Char} {a b : Node} {i j : Nat} :
    (a.followedBy b).Matches text i j ↔ ∃ m, a.Matches text i m ∧ b.Matches text m j := by
  cases b <;> simp [Node.followedBy, Node.Matches]

/-- The first item of a branch stands before the others. -/
theorem branchNode_append (items : List Item) (n : Node) :
    State.branchNode (items ++ [.node n]) = n.followedBy (State.branchNode items) := by
  unfold State.branchNode
  rw [List.foldl_append]
  rfl

/-- The last item of a branch stands behind the others. -/
theorem matches_branchNode_cons {text : Array Char} {items : List Item} {n : Node} {i j : Nat} :
    (State.branchNode (.node n :: items)).Matches text i j ↔
      ∃ m, (State.branchNode items).Matches text i m ∧ n.Matches text m j := by
  -- Both branches are made from their first items, which are at the ends of the lists.
  induction items using List.reverseRecOn generalizing i with
  | nil => simp [State.branchNode, Node.followedBy, Node.Matches]
  | append_singleton items item ih =>
    rw [← List.cons_append]
    cases item with
    | directive =>
      have hdirective (items : List Item) :
          State.branchNode (items ++ [.directive]) = State.branchNode items := by
        unfold State.branchNode
        rw [List.foldl_append]
        rfl
      rw [hdirective, hdirective, ih]
    | node first =>
      simp only [branchNode_append, matches_followedBy, ih]
      constructor
      · rintro ⟨m, hfirst, m', hitems, hn⟩
        exact ⟨m', ⟨m, hfirst, hitems⟩, hn⟩
      · rintro ⟨m', ⟨m, hfirst, hitems⟩, hn⟩
        exact ⟨m, hfirst, m', hitems, hn⟩

/-- A text that stays one piece is a pattern by itself. -/
theorem compile_operand {text : String} {p : Pattern} (h : Operand text p) :
    compile text = .ok p := by
  obtain ⟨items, groups, names, rfl, hsteps⟩ := h
  have hsteps := hsteps [] [] List.not_mem_nil
  simp only [List.append_nil] at hsteps
  exact compile_eq_ok_iff.2 ⟨_, read?_eq_some_iff.2 ⟨⟨[], hsteps, skip_nil _⟩, rfl⟩, rfl⟩

/-- A pattern that does not end in a comment is one piece in a group. -/
theorem exists_operand_group {text : String} {p : Pattern} (hp : compile text = .ok p)
    (hcomment : ¬ engine.EndsInComment text) :
    ∃ g, Operand ("(?:" ++ text ++ ")") g ∧ g.node = p.node := by
  obtain ⟨st, hread, rfl⟩ := compile_eq_ok_iff.1 hp
  obtain ⟨⟨rest, hsteps, hend⟩, hscopes⟩ := read?_eq_some_iff.1 hread
  -- The parenthesis that closes the group counts, since no comment reaches it.
  have hskip : skip st.flags (rest ++ [')']) = [')'] :=
    not_not.1 fun h => hcomment ((endsInComment_iff hsteps hend hscopes).2 h)
  have hsame := skip_append_close_of_ne_nil (hskip ▸ List.cons_ne_nil _ _)
  refine ⟨_, ⟨[.node st.groupNode], st.groups, st.names, rfl, fun below tail htail => ?_⟩, rfl⟩
  let scope : Scope := ⟨none, {}, [], below⟩
  have hopen : Step ({ items := below }, '(' :: '?' :: ':' :: (text.toList ++ ')' :: tail))
      (({} : State).nest scope, text.toList ++ ')' :: tail) := ⟨'(', _, rfl, rfl⟩
  have hinside := (hsteps.append_close htail).nest scope
  have hclose : Step (st.nest scope, rest ++ ')' :: tail)
      ({ items := .node st.groupNode :: below, groups := st.groups, names := st.names }, tail) := by
    refine ⟨')', tail, ?_, ?_⟩
    · rw [State.nest_flags, hsame tail, hend]
      rfl
    · obtain ⟨flags, branches, items, scopes, groups, names⟩ := st
      obtain rfl : scopes = [] := hscopes
      rfl
  simpa [String.toList_append] using (Relation.ReflTransGen.head hopen hinside).tail hclose

/-- A piece behind a circumflex is one piece. -/
theorem operand_textStart {text : String} {p : Pattern} (h : Operand text p) :
    ∃ a, Operand ("^" ++ text) a ∧ a.node = (Node.look .textStart).followedBy p.node := by
  obtain ⟨items, groups, names, rfl, hsteps⟩ := h
  refine ⟨_, ⟨items ++ [.node (.look .textStart)], groups, names, rfl, fun below tail htail => ?_⟩,
    branchNode_append _ _⟩
  have hstart : Step ({ items := below }, '^' :: (text.toList ++ tail))
      ({ items := .node (.look .textStart) :: below }, text.toList ++ tail) := ⟨'^', _, rfl, rfl⟩
  simpa [String.toList_append] using Relation.ReflTransGen.head hstart (hsteps _ tail htail)

/-- A piece before a dollar sign is one piece. -/
theorem operand_textEnd {text : String} {p : Pattern} (h : Operand text p) :
    ∃ a, Operand (text ++ "$") a ∧ ∀ chars i j,
      a.node.Matches chars i j ↔ ∃ m, p.node.Matches chars i m ∧
        (Node.look .textEnd).Matches chars m j := by
  obtain ⟨items, groups, names, rfl, hsteps⟩ := h
  refine ⟨_, ⟨.node (.look .textEnd) :: items, groups, names, rfl, fun below tail htail => ?_⟩,
    fun chars i j => ?_⟩
  · have hpiece := hsteps below ('$' :: tail) (by simp [htail])
    have hend : Step ({ items := items ++ below, groups, names }, '$' :: tail)
        ({ items := .node (.look .textEnd) :: (items ++ below), groups, names }, tail) :=
      ⟨'$', tail, rfl, rfl⟩
    simpa [String.toList_append] using hpiece.tail hend
  · show Node.Matches chars (State.branchNode (.node (.look .textEnd) :: items)) i j ↔ _
    exact matches_branchNode_cons

/-! ## A group that is not closed -/

/-- The group that stands open behind a circumflex. -/
def anchorScope : Scope := ⟨none, {}, [], [.node (.look .textStart)]⟩

/-- What is read in a group behind a circumflex is read as by itself. -/
theorem steps_open (text : List Char) :
    Steps ({}, '^' :: '(' :: '?' :: ':' :: text) (({} : State).nest anchorScope, text) := by
  have hstart : Step ({}, '^' :: '(' :: '?' :: ':' :: text)
      (({} : State).push (.look .textStart), '(' :: '?' :: ':' :: text) :=
    ⟨'^', _, rfl, rfl⟩
  have hopen : Step (({} : State).push (.look .textStart), '(' :: '?' :: ':' :: text)
      (({} : State).nest anchorScope, text) :=
    ⟨'(', _, rfl, rfl⟩
  exact .head hstart (.single hopen)

/-- A pattern that ends in a comment goes on in the comment up to the end of the line. -/
theorem isPattern_past_comment {text tail : String} (hcomment : engine.EndsInComment text)
    (htail : '\n' ∉ tail.toList) : engine.IsPattern (text ++ ")" ++ tail) := by
  obtain ⟨st, rest, hsteps, hend, hscopes⟩ := isPattern_iff.1 hcomment.1
  have hskip := (endsInComment_iff hsteps hend hscopes).1 hcomment
  refine isPattern_iff.2 ⟨st, rest ++ ')' :: tail.toList, ?_, ?_, hscopes⟩
  · simpa [String.toList_append] using hsteps.append_close htail
  · rcases skip_append_close st.flags rest with hsame | ⟨-, hpast⟩
    · rw [hsame [], hend, List.nil_append] at hskip
      exact absurd rfl hskip
    · exact (hpast _).2 htail

/-- A pattern leaves a group open that is open before it. -/
theorem not_isPattern_open {text : String} (h : engine.IsPattern text) :
    ¬ engine.IsPattern ("^(?:" ++ text) := by
  intro hopen
  obtain ⟨st', rest', hsteps', hend', hscopes'⟩ := isPattern_iff.1 hopen
  obtain ⟨st, rest, hsteps, hend, -⟩ := isPattern_iff.1 h
  have hinside : Steps ({}, ("^(?:" ++ text).toList) (st.nest anchorScope, rest) := by
    rw [String.toList_append]
    exact (steps_open _).trans (hsteps.nest anchorScope)
  -- Both runs are at their ends, so that they are the same.
  have heq : (st', rest') = (st.nest anchorScope, rest) := by
    rcases hinside.total hsteps' with h | h
    · exact h.eq_of_skip_eq_nil hend
    · exact (h.eq_of_skip_eq_nil hend').symm
  obtain ⟨rfl, -⟩ := Prod.mk.inj heq
  exact absurd hscopes' (by simp [State.nest])

/-- A run that closes a further group is one by itself up to the parenthesis that does. -/
theorem Steps.exists_close {outer : Scope} {st st' : State} {text rest : List Char}
    (h : Steps (st.nest outer, text) (st', rest)) (hscopes : st'.scopes = []) :
    ∃ st'' left behind, Steps (st, text) (st'', left) ∧ st''.scopes = [] ∧
      skip st''.flags left = ')' :: behind := by
  generalize ha : (st.nest outer, text) = a at h
  induction h using Relation.ReflTransGen.head_induction_on generalizing st text with
  | refl =>
    obtain ⟨rfl, rfl⟩ := Prod.mk.inj ha
    exact absurd hscopes (by simp [State.nest])
  | @head a b hstep _ ih =>
    subst ha
    obtain ⟨c, behind, hskip, hstep⟩ := hstep
    rw [State.nest_flags] at hskip
    by_cases hclose : c = ')' ∧ st.scopes = []
    · obtain ⟨rfl, hst⟩ := hclose
      exact ⟨st, text, behind, .refl, hst, hskip⟩
    · -- A step that does not close the outer group is one by itself.
      rw [step?_nest outer behind fun hc hst => hclose ⟨hc, hst⟩] at hstep
      obtain ⟨found, hfound, rfl⟩ := Option.map_eq_some_iff.1 hstep
      obtain ⟨st'', left, behind', hsteps, hend⟩ := ih rfl
      exact ⟨st'', left, behind', .head ⟨c, behind, hskip, hfound⟩ hsteps, hend⟩

/-- A group that a pattern begins with is closed by a parenthesis behind a pattern. -/
theorem closesUnopened_of_open {text : String} (h : engine.IsPattern ("^(?:" ++ text)) :
    engine.ClosesUnopened text := by
  obtain ⟨st', rest', hsteps', hend', hscopes'⟩ := isPattern_iff.1 h
  rw [String.toList_append] at hsteps'
  have hinside : Steps (({} : State).nest anchorScope, text.toList) (st', rest') := by
    rcases (steps_open text.toList).total hsteps' with h | h
    · exact h
    · have heq := h.eq_of_skip_eq_nil hend'
      obtain ⟨rfl, -⟩ := Prod.mk.inj heq
      exact absurd hscopes' (by simp [State.nest])
  obtain ⟨st, left, behind, hsteps, hscopes, hclose⟩ := hinside.exists_close hscopes'
  have hsuffix : ')' :: behind <:+ text.toList :=
    hclose ▸ (skip_suffix st.flags left).trans hsteps.suffix
  obtain ⟨inner, hinner⟩ := hsuffix
  rw [← hinner] at hsteps
  obtain ⟨rest, hsteps, hend, hskip⟩ := hsteps.of_append_close hclose
  have hsteps : Steps ({}, (String.ofList inner).toList) (st, rest) := by
    rwa [String.toList_ofList]
  refine ⟨.ofList inner, .ofList behind, ?_, isPattern_iff.2 ⟨st, rest, hsteps, hend, hscopes⟩,
    not_isPattern_close hsteps hscopes hskip⟩
  simp [← String.toList_inj, ← hinner]

/-! ## All that is promised -/

/-- The engine of patterns keeps what is promised of groups, anchors and comments. -/
theorem engine_syntaxSpec : engine.SyntaxSpec Spans Operand where
  isMatch_iff p text := by
    show p.node.isMatch text.toList.toArray = true ↔ _
    simp only [Node.isMatch_iff, Spans, List.size_toArray, String.length_toList, exists_and_left]
  compile_operand := compile_operand
  group hp hcomment := by
    obtain ⟨g, hg, hnode⟩ := exists_operand_group hp hcomment
    refine ⟨g, hg, fun text i j => ?_⟩
    unfold Spans
    rw [hnode]
  textStart h := by
    obtain ⟨a, ha, hnode⟩ := operand_textStart h
    refine ⟨a, ha, fun text i j => ?_⟩
    unfold Spans
    rw [hnode, matches_followedBy]
    constructor
    · rintro ⟨hi, m, ⟨rfl, hle, hstart⟩, hmatches⟩
      exact ⟨(Node.looksTrue_textStart hle).1 hstart, hi, hmatches⟩
    · rintro ⟨rfl, hi, hmatches⟩
      exact ⟨hi, 0, ⟨rfl, Nat.zero_le _, (Node.looksTrue_textStart (Nat.zero_le _)).2 rfl⟩,
        hmatches⟩
  textEnd h := by
    obtain ⟨a, ha, hmatches⟩ := operand_textEnd h
    refine ⟨a, ha, fun text i j => ?_⟩
    have hsize : text.toList.toArray.size = text.length := by
      rw [List.size_toArray, String.length_toList]
    unfold Spans
    rw [hmatches]
    constructor
    · rintro ⟨hi, m, hpiece, rfl, hle, hstop⟩
      exact ⟨⟨hi, hpiece⟩, ((Node.looksTrue_textEnd hle).1 hstop).trans hsize⟩
    · rintro ⟨⟨hi, hpiece⟩, rfl⟩
      exact ⟨hi, _, hpiece, rfl, hsize.ge, (Node.looksTrue_textEnd hsize.ge).2 hsize.symm⟩
  comment := isPattern_past_comment
  not_isPattern_open := not_isPattern_open
  closesUnopened_of_open := closesUnopened_of_open

end MetricAlgebra.Pattern
