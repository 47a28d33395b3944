import MetricAlgebra.Proofs.FloatOrder
import MetricAlgebra.Proofs.Selection
import MetricAlgebra.ValueFilter

/-!
# Filters that complement each other

A comparison of a label and its opposite part the samples that have the label, and the samples that
lack it pass neither. The relations of values to a threshold part the samples in two ways: by
equality all of them, and by order those whose values are numbers, if the threshold is one. What
is not a number is the only exception, and passes the test for inequality alone
(`Family.complementary_filters_part`).

Relations are told apart by the order of the two numbers (`Comparison.holds_of_rank`), so that each
of these laws is one about three cases.
-/

namespace MetricAlgebra

/-! ## Parts of lists -/

section Parts

variable {α : Type} {n : Nat}

/-- Whether lists are the parts of a list under a numbering of its items: each item stands in the
part of its number and in no other one, as often as in the whole and in its order. -/
def PartedBy (number : α → Fin n) (whole : List α) (parts : Fin n → List α) : Prop :=
  ∀ i, parts i = whole.filter fun a => number a = i

/-- Tests part the items that are within a range if each test passes those within of its number. -/
theorem partedBy_filter {number : α → Fin n} {within : α → Bool} {keep : Fin n → α → Bool}
    (h : ∀ i a, keep i a = (within a && decide (number a = i))) (items : List α) :
    PartedBy number (items.filter within) fun i => items.filter (keep i) := by
  intro i
  rw [List.filter_filter]
  exact List.filter_congr fun a _ => by rw [h, Bool.and_comm]

end Parts

/-! ## Relations of values -/

namespace Comparison

open Binary64

/-- Whether the relation is one of numbers in the given order. -/
def allows : Comparison → Ordering → Bool
  | equal, order => order == .eq
  | notEqual, order => order != .eq
  | greater, order => order == .gt
  | greaterEqual, order => order != .lt
  | less, order => order == .lt
  | lessEqual, order => order != .gt

/-- A relation other than inequality holds of two values if both are numbers, in an order that it
allows. -/
theorem holds_iff {relation : Comparison} (h : relation ≠ notEqual) (x t : Float) :
    relation.holds x t = true ↔
      ∃ a b, rankOf? x = some a ∧ rankOf? t = some b ∧ relation.allows (compare a b) = true := by
  have hswap {p : ℤ ×ₗ ℤ ×ₗ ℤ → ℤ ×ₗ ℤ ×ₗ ℤ → Prop} :
      (∃ b a, rankOf? t = some b ∧ rankOf? x = some a ∧ p b a) ↔
        ∃ a b, rankOf? x = some a ∧ rankOf? t = some b ∧ p b a :=
    ⟨fun ⟨b, a, ht, hx, hp⟩ => ⟨a, b, hx, ht, hp⟩, fun ⟨a, b, hx, ht, hp⟩ => ⟨b, a, ht, hx, hp⟩⟩
  cases relation with
  | equal =>
    refine (beq_iff x t).trans ?_
    simp only [allows, beq_iff_eq, compare_eq_iff_eq, exists_and_left, exists_eq_right']
  | notEqual => exact absurd rfl h
  | greater =>
    refine ((lt_iff t x).trans hswap).trans ?_
    simp only [allows, beq_iff_eq, compare_gt_iff_gt]
  | greaterEqual =>
    refine ((le_iff t x).trans hswap).trans ?_
    simp only [allows, bne_iff_ne, ne_eq, compare_lt_iff_lt, not_lt]
  | less =>
    refine (lt_iff x t).trans ?_
    simp only [allows, beq_iff_eq, compare_lt_iff_lt]
  | lessEqual =>
    refine (le_iff x t).trans ?_
    simp only [allows, bne_iff_ne, ne_eq, compare_gt_iff_gt, not_lt]

variable {x t : Float}

/-- Numbers stand in the relations that their order allows. -/
theorem holds_of_rank {a b : ℤ ×ₗ ℤ ×ₗ ℤ} (hx : rankOf? x = some a) (ht : rankOf? t = some b)
    (relation : Comparison) : relation.holds x t = relation.allows (compare a b) := by
  -- Inequality is not a relation of the order; it follows as the negation of equality.
  have hother {relation : Comparison} (h : relation ≠ notEqual) :
      relation.holds x t = relation.allows (compare a b) := by
    rw [Bool.eq_iff_iff, holds_iff h, hx, ht]
    simp only [Option.some.injEq, exists_and_left, exists_eq_left']
  by_cases h : relation = notEqual
  · subst h
    exact congrArg not (hother (show equal ≠ notEqual by decide))
  · exact hother h

/-- What is not a number is unequal to everything, and stands in no other relation. -/
theorem holds_of_isNaN (h : x.isNaN = true ∨ t.isNaN = true) (relation : Comparison) :
    relation.holds x t = decide (relation = notEqual) := by
  have hother {relation : Comparison} (hrelation : relation ≠ notEqual) :
      relation.holds x t = false := by
    rw [Bool.eq_false_iff, ne_eq, holds_iff hrelation]
    rintro ⟨a, b, hx, ht, -⟩
    rw [isNaN_iff, isNaN_iff, hx, ht] at h
    rcases h with h | h <;> cases h
  by_cases hrelation : relation = notEqual
  · subst hrelation
    exact congrArg not (hother (show equal ≠ notEqual by decide))
  · rw [hother hrelation, decide_eq_false hrelation]

end Comparison

/-! ## Families -/

namespace Family

/-- The samples of a family that have the label of a name. -/
def carriers (f : Family) (name : String) : List Sample :=
  f.samples.filter fun s => (s.label? name).isSome

/-- The samples of a family whose values are numbers. -/
def numbers (f : Family) : List Sample := f.samples.filter fun s => !s.value.isNaN

/-- What is left of a family is what is left of its samples. -/
theorem samples_filter (f : Family) (keep : Sample → Bool) :
    (f.filter keep).samples = f.samples.filter keep := by
  obtain ⟨context, samples, rfl⟩ := exists_eq_ofSamples f
  rw [filter_ofSamples, samples_ofSamples, samples_ofSamples]

/-- A single pair keeps the samples that pass the test that its text makes. -/
theorem matchLabels_pair {E : PatternEngine} {op : LabelComparison} {text : String}
    {test : LabelTest E} (h : op.test E text = .ok test) (f : Family) (name : String) :
    f.matchLabels E op [name, text] = .ok (f.filter (LabelFilter.accepts ⟨name, test⟩)) := by
  have hfilters : LabelFilter.ofArguments E op [name, text] = .ok [⟨name, test⟩] := by
    have heven : [name, text].length % 2 = 0 := Nat.mod_self 2
    rw [LabelFilter.ofArguments_of_even heven]
    show [(name, text)].mapM (LabelFilter.ofPair E op) = _
    rw [List.mapM_cons, LabelFilter.ofPair, h]
    rfl
  rw [matchLabels_of_ok hfilters]
  simp only [List.all_cons, List.all_nil, Bool.and_true]

/-- A test and its opposite part the samples that have the label. -/
theorem partedBy_accepts {E : PatternEngine} (test opposite : LabelTest E)
    (h : ∀ value, opposite.holds value = !test.holds value) (f : Family) (name : String) :
    PartedBy (fun s => if (s.label? name).any test.holds then 0 else 1) (f.carriers name)
      ![(f.filter (LabelFilter.accepts ⟨name, test⟩)).samples,
        (f.filter (LabelFilter.accepts ⟨name, opposite⟩)).samples] := by
  have hkeep (i : Fin 2) (s : Sample) :
      LabelFilter.accepts ⟨name, ![test, opposite] i⟩ s = ((s.label? name).isSome &&
        decide ((if (s.label? name).any test.holds then 0 else 1) = i)) := by
    unfold LabelFilter.accepts
    cases s.label? name with
    | none => rfl
    | some value =>
      cases hvalue : test.holds value <;> fin_cases i <;> simp [h, hvalue]
  have hparts := partedBy_filter hkeep f.samples
  rw [samples_filter, samples_filter]
  intro i
  fin_cases i
  · exact hparts 0
  · exact hparts 1

/-- Relations part the samples whose values are within a range if each holds of the values within of
its number. -/
theorem partedBy_holds {n : Nat} {number : Float → Fin n} {within : Float → Bool}
    {relation : Fin n → Comparison} {t : Float}
    (h : ∀ i x, (relation i).holds x t = (within x && decide (number x = i))) (f : Family) :
    PartedBy (fun s => number s.value) (f.samples.filter fun s => within s.value)
      fun i => (f.filterValues (relation i) t).samples := by
  unfold filterValues
  simp only [samples_filter]
  exact partedBy_filter (fun i s => h i s.value) f.samples

open Binary64 Comparison

/-- Equality and inequality part all samples. -/
theorem partedBy_equality (f : Family) (t : Float) :
    PartedBy (fun s => if s.value == t then 0 else 1) f.samples
      fun i => (f.filterValues (![equal, notEqual] i) t).samples := by
  have hholds (i : Fin 2) (x : Float) : (![equal, notEqual] i).holds x t =
      (true && decide ((if x == t then 0 else 1) = i)) := by
    have hequal : equal.holds x t = (x == t) := rfl
    have hnotEqual : notEqual.holds x t = !(x == t) := rfl
    fin_cases i <;> cases hx : x == t <;> simp [hequal, hnotEqual, hx]
  have hparts := partedBy_holds hholds f
  rwa [List.filter_true] at hparts

/-- The order to a number parts the samples whose values are numbers. -/
theorem partedBy_order (f : Family) {t : Float} (ht : t.isNaN = false) :
    PartedBy (fun s => if s.value < t then 0 else if s.value == t then 1 else 2) f.numbers
      fun i => (f.filterValues (![less, equal, greater] i) t).samples := by
  obtain ⟨b, hb⟩ := exists_rank ht
  have hholds (i : Fin 3) (x : Float) : (![less, equal, greater] i).holds x t =
      (!x.isNaN && decide ((if x < t then 0 else if x == t then 1 else 2) = i)) := by
    cases hx : x.isNaN with
    | true =>
      rw [holds_of_isNaN (.inl hx)]
      fin_cases i <;> rfl
    | false =>
      -- The order of the two numbers decides both the number of the part and the three relations.
      obtain ⟨a, ha⟩ := exists_rank hx
      have hbelow : x < t ↔ compare a b = .lt :=
        (Bool.eq_iff_iff.1 (holds_of_rank ha hb less)).trans beq_iff_eq
      have hequal : (x == t) = true ↔ compare a b = .eq :=
        (Bool.eq_iff_iff.1 (holds_of_rank ha hb equal)).trans beq_iff_eq
      simp only [holds_of_rank ha hb, hbelow, hequal]
      cases compare a b <;> fin_cases i <;> rfl
  exact partedBy_holds hholds f

/-- A relation that allows equality is parted into the strict relation and equality, if it is so for
each order. -/
theorem partedBy_strict (f : Family) (t : Float) {weak strict : Comparison}
    (h : ∀ i order, (![strict, equal] i).allows order =
      (weak.allows order && decide ((if order == .eq then 1 else 0) = i)))
    (hweak : weak ≠ notEqual) (hstrict : strict ≠ notEqual) :
    PartedBy (fun s => if s.value == t then 1 else 0) (f.filterValues weak t).samples
      fun i => (f.filterValues (![strict, equal] i) t).samples := by
  have hholds (i : Fin 2) (x : Float) : (![strict, equal] i).holds x t =
      (weak.holds x t && decide ((if x == t then 1 else 0) = i)) := by
    -- Where one of the two is not a number, neither the weak relation nor a part of it holds.
    by_cases hnan : x.isNaN = true ∨ t.isNaN = true
    · rw [holds_of_isNaN hnan, holds_of_isNaN hnan, decide_eq_false hweak, Bool.false_and]
      fin_cases i
      · exact decide_eq_false hstrict
      · rfl
    · rw [not_or, Bool.not_eq_true, Bool.not_eq_true] at hnan
      obtain ⟨a, ha⟩ := exists_rank hnan.1
      obtain ⟨b, hb⟩ := exists_rank hnan.2
      have hequal : (x == t) = (compare a b == .eq) := holds_of_rank ha hb equal
      rw [holds_of_rank ha hb, holds_of_rank ha hb, h, hequal]
  unfold filterValues
  rw [samples_filter]
  exact partedBy_holds hholds f

/-- Filters that complement each other part the samples of a family. Of the samples that have the
label of a name, each is left by just one of the tests whether the value is a text and whether it is
another one, and by just one of the tests whether it matches a pattern and whether it does not; a
sample without the label is left by none. Each sample is left by just one of equality with a
threshold and inequality. If the threshold is a number, each sample whose value is one is left by
just one of the relations below, equal and above; and those at most, or at least, the threshold
are the ones equal to it together with the ones below, or above. What is not a number is left by
inequality alone, and so is everything where the threshold is not a number. -/
theorem complementary_filters_part (E : PatternEngine) (f : Family) :
    (∀ name text : String, ∃ same other,
      f.matchLabels E .equal [name, text] = .ok same ∧
      f.matchLabels E .notEqual [name, text] = .ok other ∧
      PartedBy (fun s => if s.label? name = some text then 0 else 1) (f.carriers name)
        ![same.samples, other.samples]) ∧
    (∀ (name text : String) (p : E.Pattern), E.compileAnchored text = .ok p →
      ∃ fitting other, f.matchLabels E .fits [name, text] = .ok fitting ∧
        f.matchLabels E .fitsNot [name, text] = .ok other ∧
        PartedBy (fun s => if (s.label? name).any (E.isMatch p) then 0 else 1) (f.carriers name)
          ![fitting.samples, other.samples]) ∧
    ∀ t : Float,
      PartedBy (fun s => if s.value == t then 0 else 1) f.samples
        (fun i => (f.filterValues (![equal, notEqual] i) t).samples) ∧
      (t.isNaN = false →
        PartedBy (fun s => if s.value < t then 0 else if s.value == t then 1 else 2) f.numbers
          fun i => (f.filterValues (![less, equal, greater] i) t).samples) ∧
      PartedBy (fun s => if s.value == t then 1 else 0) (f.filterValues greaterEqual t).samples
        (fun i => (f.filterValues (![greater, equal] i) t).samples) ∧
      PartedBy (fun s => if s.value == t then 1 else 0) (f.filterValues lessEqual t).samples
        (fun i => (f.filterValues (![less, equal] i) t).samples) ∧
      ∀ s ∈ f.samples, s.value.isNaN = true ∨ t.isNaN = true →
        ∀ relation, s ∈ (f.filterValues relation t).samples ↔ relation = notEqual := by
  refine ⟨fun name text => ?_, fun name text p hp => ?_, fun t => ⟨f.partedBy_equality t,
    f.partedBy_order, ?_, ?_, ?_⟩⟩
  · have hparts := partedBy_accepts (E := E) (.equal text) (.notEqual text) (fun _ => rfl) f name
    have hnumber (s : Sample) :
        (s.label? name).any (LabelTest.equal (E := E) text).holds = true ↔
          s.label? name = some text := by
      cases s.label? name <;> simp [LabelTest.holds]
    simp only [hnumber] at hparts
    exact ⟨_, _, matchLabels_pair rfl f name, matchLabels_pair rfl f name, hparts⟩
  · have hfits : LabelComparison.fits.test E text = .ok (.fits p) := congrArg (Except.map _) hp
    have hfitsNot : LabelComparison.fitsNot.test E text = .ok (.fitsNot p) :=
      congrArg (Except.map _) hp
    exact ⟨_, _, matchLabels_pair hfits f name, matchLabels_pair hfitsNot f name,
      partedBy_accepts (.fits p) (.fitsNot p) (fun _ => rfl) f name⟩
  · exact f.partedBy_strict t (by decide) (by decide) (by decide)
  · exact f.partedBy_strict t (by decide) (by decide) (by decide)
  · intro s hs hnan relation
    unfold filterValues
    rw [samples_filter, List.mem_filter, holds_of_isNaN hnan, decide_eq_true_eq]
    exact and_iff_right hs

/-- Of three samples, one lacks the label, and the value of one is not a number. -/
theorem complementary_filters_part_three_samples :
    let get : Sample := ⟨.ofPairs [("method", "GET")], 1000, 1.0⟩
    let post : Sample := ⟨.ofPairs [("method", "POST")], 1000, 0.0 / 0.0⟩
    let bare : Sample := ⟨.empty, 1000, 4.0⟩
    let f := ofSamples {} [get, post, bare]
    (∃ fitting other, f.matchLabels Pattern.engine .fits ["method", "G.*"] = .ok fitting ∧
      f.matchLabels Pattern.engine .fitsNot ["method", "G.*"] = .ok other ∧
      fitting.samples = [get] ∧ other.samples = [post]) ∧
    (f.filterValues less 2.0).samples = [get] ∧ (f.filterValues equal 2.0).samples = [] ∧
    (f.filterValues greater 2.0).samples = [bare] ∧
    post ∈ (f.filterValues notEqual 2.0).samples ∧
    post ∉ (f.filterValues lessEqual 2.0).samples := by
  intro get post bare f
  obtain ⟨p, hp, hfits, hfitsNot⟩ : ∃ p, Pattern.engine.compileAnchored "G.*" = .ok p ∧
      Pattern.engine.isMatch p "GET" = true ∧ Pattern.engine.isMatch p "POST" = false :=
    ⟨_, rfl, by decide +kernel, by decide +kernel⟩
  obtain ⟨-, hpattern, hvalues⟩ := complementary_filters_part Pattern.engine f
  obtain ⟨fitting, other, hfitting, hother, hlabels⟩ := hpattern "method" "G.*" p hp
  obtain ⟨-, horder, -, -, hnan⟩ := hvalues 2.0
  have hsamples : f.samples = [get, post, bare] := samples_ofSamples ..
  have hgetLabel : get.label? "method" = some "GET" := by cbv
  have hpostLabel : post.label? "method" = some "POST" := by cbv
  have hbareLabel : bare.label? "method" = none := rfl
  have hcarriers : f.carriers "method" = [get, post] := by
    simp [carriers, hsamples, hgetLabel, hpostLabel, hbareLabel]
  have hnumbers : f.numbers = [get, bare] := by
    have hget : get.value.isNaN = false := by decide +kernel
    have hbare : bare.value.isNaN = false := by decide +kernel
    have hpost : post.value.isNaN = true := by decide +kernel
    rw [numbers, hsamples, List.filter_cons_of_pos (by rw [hget]; rfl),
      List.filter_cons_of_neg (by rw [hpost]; decide), List.filter_cons_of_pos (by rw [hbare]; rfl),
      List.filter_nil]
  have hget : get.value < 2.0 := by decide +kernel
  have hbare : ¬ bare.value < 2.0 := by decide +kernel
  have hbare' : (bare.value == 2.0) = false := by decide +kernel
  rw [hcarriers] at hlabels
  rw [hnumbers] at horder
  have hpost := hnan post (by simp [hsamples]) (.inl (by decide +kernel))
  have horder := horder (by decide +kernel)
  refine ⟨⟨fitting, other, hfitting, hother, ?_, ?_⟩, ?_, ?_, ?_, (hpost _).2 rfl,
    mt (hpost _).1 (by decide)⟩
  · exact (hlabels 0).trans (by simp [hgetLabel, hpostLabel, hfits, hfitsNot])
  · exact (hlabels 1).trans (by simp [hgetLabel, hpostLabel, hfits, hfitsNot])
  · exact (horder 0).trans (by simp [hget, hbare, hbare'])
  · exact (horder 1).trans (by simp [hget, hbare, hbare'])
  · exact (horder 2).trans (by simp [hget, hbare, hbare'])

end Family

end MetricAlgebra
