import MetricAlgebra.Pattern.Engine

/-!
# What an engine for patterns promises

Nothing is known of an engine but what its documentation promises. `PatternEngine.SearchSpec` is
about searches, and `PatternEngine.SyntaxSpec` about the few parts of the syntax that a text between
anchors meets: groups, anchors, and comments. Limits on the sizes of patterns are set aside.

From the syntax follows when a text makes a pattern for whole texts, and what that matches
(`PatternEngine.exists_compileAnchored_iff`, `PatternEngine.isMatch_compileAnchored_iff`). A text
that is no pattern makes one only if it closes the group between the anchors
(`PatternEngine.isPattern_or_closesUnopened`).
-/

namespace MetricAlgebra.PatternEngine

variable {E : PatternEngine} {source : String}

/-- A pattern for whole texts is the one that is read of the text between the anchors. -/
theorem compileAnchored_eq_ok_iff {p : E.Pattern} :
    E.compileAnchored source = .ok p ↔ E.compile (anchored source) = .ok p := by
  unfold compileAnchored
  cases E.compile (anchored source) with
  | ok a => simp
  | error report => simp

/-- A text that makes no pattern for whole texts is reported as the engine does between the
anchors. -/
theorem compileAnchored_eq_error_iff {e : Error} :
    E.compileAnchored source = .error e ↔
      ∃ report, E.compile (anchored source) = .error report ∧ e = .invalidPattern report := by
  unfold compileAnchored
  cases E.compile (anchored source) with
  | ok a => simp
  | error report => simp [eq_comm]

/-- What an engine promises of its searches. -/
structure SearchSpec (E : PatternEngine) : Prop where
  /-- There is a match to be had exactly if the pattern matches somewhere. -/
  isSome_captures? : ∀ p text, (E.captures? p text).isSome = E.isMatch p text

/-- There is no match to be had exactly if the pattern matches nowhere. -/
theorem SearchSpec.captures?_eq_none_iff (hE : E.SearchSpec) {p : E.Pattern} {text : String} :
    E.captures? p text = none ↔ E.isMatch p text = false := by
  rw [← hE.isSome_captures? p text, Option.isSome_eq_false_iff, Option.isNone_iff_eq_none]

/-! ## Syntax -/

/-- A text is a pattern by itself. -/
def IsPattern (E : PatternEngine) (text : String) : Prop := ∃ p, E.compile text = .ok p

/-- A text is a pattern, and a parenthesis behind it is in a comment. -/
def EndsInComment (E : PatternEngine) (text : String) : Prop :=
  E.IsPattern text ∧ E.IsPattern (text ++ ")")

/-- A parenthesis of a text closes a group that the text has not opened: up to it the text is a
pattern, and with it no more. -/
def ClosesUnopened (E : PatternEngine) (text : String) : Prop :=
  ∃ inner rest, text = inner ++ ")" ++ rest ∧ E.IsPattern inner ∧ ¬ E.IsPattern (inner ++ ")")

/-- What an engine promises of groups, anchors and comments. `Spans p text i j` is for a match of
`p` from place `i` to place `j` of a text. `Operand t p` is for a text `t` that is the pattern `p`
and stays one piece of any pattern that it is put into, such as a group and what stands beside it
without a choice between them. -/
structure SyntaxSpec (E : PatternEngine) (Spans : E.Pattern → String → Nat → Nat → Prop)
    (Operand : String → E.Pattern → Prop) : Prop where
  /-- A pattern is found in a text if there is a match from some place to another. -/
  isMatch_iff : ∀ p text, E.isMatch p text = true ↔ ∃ i j, Spans p text i j
  /-- A text that stays one piece is a pattern by itself. -/
  compile_operand : ∀ {t p}, Operand t p → E.compile t = .ok p
  /-- A pattern in a group is one piece, and matches what it matches by itself. The parenthesis that
  closes the group must not be in a comment. -/
  group : ∀ {t p}, E.compile t = .ok p → ¬ E.EndsInComment t →
    ∃ g, Operand ("(?:" ++ t ++ ")") g ∧ ∀ text i j, Spans g text i j ↔ Spans p text i j
  /-- Behind a circumflex a piece matches at the start of a text alone. -/
  textStart : ∀ {t p}, Operand t p →
    ∃ a, Operand ("^" ++ t) a ∧ ∀ text i j, Spans a text i j ↔ i = 0 ∧ Spans p text i j
  /-- Before a dollar sign a piece matches at the end of a text alone. -/
  textEnd : ∀ {t p}, Operand t p →
    ∃ a, Operand (t ++ "$") a ∧ ∀ text i j, Spans a text i j ↔ Spans p text i j ∧ j = text.length
  /-- A comment goes on to the end of the line. -/
  comment : ∀ {t tail}, E.EndsInComment t → '\n' ∉ tail.toList → E.IsPattern (t ++ ")" ++ tail)
  /-- A pattern closes no group but its own, so that one before it stays open. -/
  not_isPattern_open : ∀ {t}, E.IsPattern t → ¬ E.IsPattern ("^(?:" ++ t)
  /-- The group that a pattern begins with has a pattern in it, and is closed behind that. -/
  closesUnopened_of_open : ∀ {t}, E.IsPattern ("^(?:" ++ t) → E.ClosesUnopened t

namespace SyntaxSpec

variable {Spans : E.Pattern → String → Nat → Nat → Prop} {Operand : String → E.Pattern → Prop}

/-- A pattern that does not end in a comment makes a pattern for whole texts, with the matches that
go from the start of a text to its end. -/
theorem exists_compileAnchored (hE : E.SyntaxSpec Spans Operand) {p : E.Pattern}
    (hp : E.compile source = .ok p) (hcomment : ¬ E.EndsInComment source) :
    ∃ a, E.compileAnchored source = .ok a ∧ ∀ text,
      E.isMatch a text = true ↔ Spans p text 0 text.length := by
  -- The anchors are put around the group one after the other: each takes the piece so far.
  obtain ⟨group, hgroup, hinside⟩ := hE.group hp hcomment
  obtain ⟨start, hstart, hfirst⟩ := hE.textStart hgroup
  obtain ⟨whole, hwhole, hlast⟩ := hE.textEnd hstart
  have htext : "^" ++ ("(?:" ++ source ++ ")") ++ "$" = anchored source := by
    simp [anchored, ← String.toList_inj]
  refine ⟨whole, compileAnchored_eq_ok_iff.2 (htext ▸ hE.compile_operand hwhole), fun text => ?_⟩
  rw [hE.isMatch_iff]
  simp [hlast, hfirst, hinside]

/-- A pattern that ends in a comment makes none: the parenthesis behind it is in the comment, and
the group of the anchors stays open. -/
theorem not_compileAnchored (hE : E.SyntaxSpec Spans Operand) (hcomment : E.EndsInComment source)
    (a : E.Pattern) : E.compileAnchored source ≠ .ok a := by
  intro ha
  have hpast : E.IsPattern (source ++ ")" ++ "$") := hE.comment hcomment (by decide)
  refine hE.not_isPattern_open hpast ⟨a, ?_⟩
  have htext : "^(?:" ++ (source ++ ")" ++ "$") = anchored source := by
    simp [anchored, ← String.toList_inj]
  rw [htext]
  exact compileAnchored_eq_ok_iff.1 ha

/-- A text that is a pattern by itself makes one for whole texts, unless it ends in a comment. -/
theorem exists_compileAnchored_iff (hE : E.SyntaxSpec Spans Operand) (hp : E.IsPattern source) :
    (∃ a, E.compileAnchored source = .ok a) ↔ ¬ E.EndsInComment source := by
  obtain ⟨p, hp⟩ := hp
  constructor
  · rintro ⟨a, ha⟩ hcomment
    exact hE.not_compileAnchored hcomment a ha
  · intro hcomment
    obtain ⟨a, ha, -⟩ := hE.exists_compileAnchored hp hcomment
    exact ⟨a, ha⟩

/-- The pattern for whole texts that a pattern makes matches what the pattern matches as a whole. -/
theorem isMatch_compileAnchored_iff (hE : E.SyntaxSpec Spans Operand) {p a : E.Pattern}
    (hp : E.compile source = .ok p) (ha : E.compileAnchored source = .ok a) (text : String) :
    E.isMatch a text = true ↔ Spans p text 0 text.length := by
  have hcomment := (hE.exists_compileAnchored_iff ⟨p, hp⟩).1 ⟨a, ha⟩
  obtain ⟨a', ha', hmatch⟩ := hE.exists_compileAnchored hp hcomment
  obtain rfl := Except.ok.inj (ha.symm.trans ha')
  exact hmatch text

/-- A text that makes a pattern for whole texts is a pattern by itself, or it closes the group
between the anchors before its end. -/
theorem isPattern_or_closesUnopened (hE : E.SyntaxSpec Spans Operand) {a : E.Pattern}
    (ha : E.compileAnchored source = .ok a) : E.IsPattern source ∨ E.ClosesUnopened source := by
  have htext : anchored source = "^(?:" ++ (source ++ ")$") := by
    simp [anchored, ← String.toList_inj]
  have hopen : E.IsPattern ("^(?:" ++ (source ++ ")$")) :=
    ⟨a, htext ▸ compileAnchored_eq_ok_iff.1 ha⟩
  obtain ⟨inner, rest, hsplit, hinner, hclose⟩ := hE.closesUnopened_of_open hopen
  -- The group is closed by the parenthesis before the dollar sign, or by one of the text.
  have hchars : source.toList ++ [')', '$'] = inner.toList ++ ')' :: rest.toList := by
    simpa using congrArg String.toList hsplit
  obtain ⟨behind, hinside, hrest⟩ | ⟨behind, hsource, hrest⟩ := List.append_eq_append_iff.1 hchars
  · obtain rfl : behind = [] := by
      rcases behind with _ | ⟨c, _ | ⟨d, behind⟩⟩ <;> simp_all
    rw [List.append_nil, String.toList_inj] at hinside
    exact .inl (hinside ▸ hinner)
  · cases behind with
    | nil =>
      rw [List.append_nil, String.toList_inj] at hsource
      exact .inl (hsource ▸ hinner)
    | cons c behind =>
      obtain ⟨rfl, -⟩ := List.cons.inj hrest
      refine .inr ⟨inner, String.ofList behind, ?_, hinner, hclose⟩
      simp [← String.toList_inj, hsource]

end SyntaxSpec

end MetricAlgebra.PatternEngine
