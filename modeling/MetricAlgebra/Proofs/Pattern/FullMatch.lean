import MetricAlgebra.LabelFilter
import MetricAlgebra.Proofs.Operator
import MetricAlgebra.Proofs.Pattern.Syntax

/-!
# Patterns for whole texts

Comparisons of labels with patterns go by the match of the whole value, whatever the engine is, as
long as it keeps what is promised of groups, anchors and comments. The pattern that a filter looks
for is read of a text between `^(?:` and `)$`, and that is where it can differ from what the text
says by itself (`PatternEngine.compileAnchored_full_match`): a pattern that ends in a comment makes
no pattern for whole texts, and a text that is no pattern can make one if it closes the group
between the anchors before its end.
-/

namespace MetricAlgebra

variable {E : PatternEngine} {Spans : E.Pattern → String → Nat → Nat → Prop}
  {Operand : String → E.Pattern → Prop}

/-- A sample passes a comparison of a label with a pattern if it has the label, and the pattern
matches the whole of its value, or does not if the comparison is a negative one. -/
def LabelComparison.PassesWhole (E : PatternEngine)
    (Spans : E.Pattern → String → Nat → Nat → Prop) (op : LabelComparison) (s : Sample)
    (name source : String) : Prop :=
  ∃ value p, s.label? name = some value ∧ E.compile source = .ok p ∧
    (Spans p value 0 value.length ↔ op.isNegative = false)

namespace LabelFilter

/-- A filter made of a pattern accepts the samples that pass the comparison. -/
theorem accepts_iff_passesWhole (hE : E.SyntaxSpec Spans Operand) {op : LabelComparison}
    (hop : op.isPattern = true) {name source : String} {p : E.Pattern}
    (hp : E.compile source = .ok p) {filter : LabelFilter E}
    (hfilter : (op.test E source).map (fun test => LabelFilter.mk name test) = .ok filter)
    (s : Sample) : filter.accepts s = true ↔ op.PassesWhole E Spans s name source := by
  have hpasses : op.PassesWhole E Spans s name source ↔ ∃ value, s.label? name = some value ∧
      (Spans p value 0 value.length ↔ op.isNegative = false) := by
    constructor
    · rintro ⟨value, p', hvalue, hp', hmatch⟩
      obtain rfl := Except.ok.inj (hp.symm.trans hp')
      exact ⟨value, hvalue, hmatch⟩
    · rintro ⟨value, hvalue, hmatch⟩
      exact ⟨value, p, hvalue, hp, hmatch⟩
  rw [hpasses]
  cases ha : E.compileAnchored source with
  | error e =>
    cases op with
    | equal | notEqual => exact absurd hop (by decide)
    | fits | fitsNot => simp [LabelComparison.test, ha, Except.map] at hfilter
  | ok a =>
    have hmatch := hE.isMatch_compileAnchored_iff hp ha
    cases op with
    | equal | notEqual => exact absurd hop (by decide)
    | fits =>
      simp only [LabelComparison.test, ha, Except.map, Except.ok.injEq] at hfilter
      subst hfilter
      simp [accepts, LabelTest.holds, LabelComparison.isNegative, hmatch, Option.any_eq_true]
    | fitsNot =>
      simp only [LabelComparison.test, ha, Except.map, Except.ok.injEq] at hfilter
      subst hfilter
      simp [accepts, LabelTest.holds, LabelComparison.isNegative, ← hmatch, Option.any_eq_true]

/-- Filters made of patterns accept the samples that pass the comparison for every label. -/
theorem all_accept_iff_passesWhole (hE : E.SyntaxSpec Spans Operand) {op : LabelComparison}
    (hop : op.isPattern = true) {pairs : List (String × String)} {filters : List (LabelFilter E)}
    (hfilters : List.Forall₂ (fun pair filter =>
      (op.test E pair.2).map (fun test => LabelFilter.mk pair.1 test) = .ok filter) pairs filters)
    (hpatterns : ∀ pair ∈ pairs, E.IsPattern pair.2) (s : Sample) :
    (filters.all fun filter => filter.accepts s) = true ↔
      ∀ pair ∈ pairs, op.PassesWhole E Spans s pair.1 pair.2 := by
  induction hfilters with
  | nil => simp
  | cons hfilter _ ih =>
    rw [List.forall_mem_cons] at hpatterns
    obtain ⟨⟨p, hp⟩, hpatterns⟩ := hpatterns
    rw [List.all_cons, Bool.and_eq_true, List.forall_mem_cons, ih hpatterns,
      accepts_iff_passesWhole hE hop hp hfilter]

end LabelFilter

/-- The samples that a comparison with patterns keeps are those that pass it for every label. -/
theorem Family.matchLabels_passesWhole (hE : E.SyntaxSpec Spans Operand) {f g : Family}
    {op : LabelComparison} (hop : op.isPattern = true) {arguments : List String}
    (hpatterns : ∀ pair ∈ LabelFilter.pairUp arguments, E.IsPattern pair.2)
    (h : f.matchLabels E op arguments = .ok g) :
    ∃ keep : Sample → Bool, g = f.filter keep ∧
      ∀ s, keep s = true ↔
        ∀ pair ∈ LabelFilter.pairUp arguments, op.PassesWhole E Spans s pair.1 pair.2 := by
  obtain ⟨filters, hfilters, hg⟩ := exists_ok_of_bind h
  obtain rfl := Except.ok.inj hg
  unfold LabelFilter.ofArguments at hfilters
  split at hfilters
  · cases hfilters
  · have hall := forall₂_of_mapM hfilters
    exact ⟨_, rfl, LabelFilter.all_accept_iff_passesWhole hE hop hall hpatterns⟩

namespace PatternEngine

/-- Label patterns are patterns for whole texts. A text that is a pattern by itself makes one
between the anchors exactly if it does not end in a comment, and that is found in a text exactly if
the pattern matches the whole of it. No other text makes one, unless a parenthesis in it closes the
group between the anchors. Comparisons of labels with texts that are patterns by themselves so go
by the match of the whole value. -/
theorem compileAnchored_full_match (hE : E.SyntaxSpec Spans Operand) (source : String) :
    (∀ p, E.compile source = .ok p →
      ((∃ a, E.compileAnchored source = .ok a) ↔ ¬ E.EndsInComment source) ∧
      ∀ a, E.compileAnchored source = .ok a →
        ∀ text, E.isMatch a text = true ↔ Spans p text 0 text.length) ∧
    (∀ a, E.compileAnchored source = .ok a → E.IsPattern source ∨ E.ClosesUnopened source) ∧
    ∀ (f g : Family) (op : LabelComparison) (arguments : List String), op.isPattern = true →
      (∀ pair ∈ LabelFilter.pairUp arguments, E.IsPattern pair.2) →
      f.matchLabels E op arguments = .ok g →
      ∃ keep : Sample → Bool, g = f.filter keep ∧ ∀ s, keep s = true ↔
        ∀ pair ∈ LabelFilter.pairUp arguments, op.PassesWhole E Spans s pair.1 pair.2 := by
  refine ⟨fun p hp => ?_, fun a ha => ?_, fun f g op arguments hop hpatterns h => ?_⟩
  · exact ⟨hE.exists_compileAnchored_iff ⟨p, hp⟩, fun a ha => hE.isMatch_compileAnchored_iff hp ha⟩
  · exact hE.isPattern_or_closesUnopened ha
  · exact Family.matchLabels_passesWhole hE hop hpatterns h

/-- The choice between two letters makes a pattern for whole texts, which matches a letter and not
more. -/
theorem compileAnchored_full_match_choice :
    ∃ a, Pattern.engine.compileAnchored "a|b" = .ok a ∧ Pattern.engine.isMatch a "b" = true ∧
      Pattern.engine.isMatch a "bb" = false := by
  let node : Pattern.Node := .alt (.one (.single 'a')) (.one (.single 'b'))
  let p : Pattern.engine.Pattern := Pattern.mk "a|b" node []
  have hp : Pattern.engine.compile "a|b" = .ok p := rfl
  have hcomment : ¬ Pattern.engine.EndsInComment "a|b" := by
    rintro ⟨-, a, ha⟩
    cases ha
  have hfull (text : String) :
      Pattern.Spans p text 0 text.length ↔ node.isFullMatch text.toList.toArray = true := by
    rw [Pattern.Node.isFullMatch_iff, Pattern.Spans, List.size_toArray, String.length_toList]
    exact and_iff_right (Nat.zero_le _)
  obtain ⟨hiff, hmatch⟩ := (compileAnchored_full_match Pattern.engine_syntaxSpec "a|b").1 p hp
  obtain ⟨a, ha⟩ := hiff.2 hcomment
  refine ⟨a, ha, ?_, Bool.eq_false_iff.2 ?_⟩
  · rw [hmatch a ha, hfull]
    decide +kernel
  · rw [Ne, hmatch a ha, hfull]
    decide +kernel

/-- A parenthesis that closes the group between the anchors lets a text pass that is no pattern, and
leaves each anchor in a branch of its own. -/
theorem compileAnchored_closes_unopened :
    (∀ p, Pattern.engine.compile "a)|(?:b" ≠ .ok p) ∧
      ∃ a, Pattern.engine.compileAnchored "a)|(?:b" = .ok a ∧
        Pattern.engine.isMatch a "ax" = true := by
  let node : Pattern.Node :=
    .alt (.seq (.look .textStart) (.one (.single 'a'))) (.seq (.one (.single 'b')) (.look .textEnd))
  refine ⟨fun p hp => ?_, Pattern.mk "^(?:a)|(?:b)$" node [], rfl, by decide +kernel⟩
  cases hp

end PatternEngine

end MetricAlgebra
