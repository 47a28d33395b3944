import Mathlib.Data.Nat.Bitwise
import MetricAlgebra.Pattern.Match

/-!
# What patterns match

A pattern matches from one place of a text to another. `Node.Matches` says when, by recursion on the
pattern and without sets of places; a repetition is a chain of matches (`Times`). The sets of
places that a pattern leads to hold exactly the ends of its matches from the set that it starts
from (`Node.follows_matches`), and so a text is searched with success exactly if it has a match
(`Node.isMatch_iff`).

Unbounded repetitions are cut off after as many rounds as there are places. No more are needed: a
match never ends before it starts (`Node.Matches.le`), so that rounds that stay where they are can
be left out of a chain (`Times.exists_le_sub`).
-/

namespace MetricAlgebra.Pattern

/-! ## Chains -/

/-- A number of steps of a relation, one behind the other. -/
def Times (r : Nat → Nat → Prop) : Nat → Nat → Nat → Prop
  | 0, p, q => p = q
  | count + 1, p, q => ∃ m, r p m ∧ Times r count m q

namespace Times

variable {r : Nat → Nat → Prop} {p q : Nat}

/-- A chain of two parts. -/
theorem add_iff (a b : Nat) : Times r (a + b) p q ↔ ∃ m, Times r a p m ∧ Times r b m q := by
  induction a generalizing p with
  | zero => simp [Times]
  | succ a ih =>
    rw [Nat.succ_add]
    simp only [Times, ih]
    constructor
    · rintro ⟨m, hm, n, hn, hq⟩
      exact ⟨n, ⟨m, hm, hn⟩, hq⟩
    · rintro ⟨n, ⟨m, hm, hn⟩, hq⟩
      exact ⟨m, hm, n, hn, hq⟩

/-- A chain with its last step apart. -/
theorem succ_iff (count : Nat) : Times r (count + 1) p q ↔ ∃ m, Times r count p m ∧ r m q := by
  rw [add_iff]
  simp [Times]

/-- Steps that never go back make a chain that does not. -/
theorem le (hr : ∀ p q, r p q → p ≤ q) {count : Nat} (h : Times r count p q) : p ≤ q := by
  induction count generalizing p with
  | zero => exact Nat.le_of_eq h
  | succ count ih =>
    obtain ⟨m, hm, hq⟩ := h
    exact Nat.le_trans (hr p m hm) (ih hq)

/-- Steps that do not pass a bound make a chain that does not. -/
theorem le_of_le {size : Nat} (hr : ∀ p q, r p q → p ≤ size → q ≤ size) {count : Nat}
    (h : Times r count p q) (hp : p ≤ size) : q ≤ size := by
  induction count generalizing p with
  | zero => exact h ▸ hp
  | succ count ih =>
    obtain ⟨m, hm, hq⟩ := h
    exact ih hq (hr p m hm hp)

/-- Of steps that never go back, no more are needed than there are places to go on. -/
theorem exists_le_sub (hr : ∀ p q, r p q → p ≤ q) {count : Nat} (h : Times r count p q) :
    ∃ few ≤ q - p, Times r few p q := by
  induction count generalizing p with
  | zero => exact ⟨0, Nat.zero_le _, h⟩
  | succ count ih =>
    obtain ⟨m, hm, hq⟩ := h
    obtain ⟨few, hfew, hchain⟩ := ih hq
    have hpm := hr p m hm
    have hmq := hchain.le hr
    by_cases heq : p = m
    · -- The first step stays where it is, and is left out.
      subst heq
      exact ⟨few, hfew, hchain⟩
    · exact ⟨few + 1, by omega, m, hm, hchain⟩

end Times

/-! ## Matches -/

namespace Node

/-- A pattern matches from the first place to the second. Of a repetition there are `min` rounds and
at most as many more as `max` is greater than `min`. -/
def Matches (text : Array Char) : Node → Nat → Nat → Prop
  | empty, p, q => p = q
  | one s, p, q => q = p + 1 ∧ ∃ c ∈ text[p]?, s.contains c = true
  | look l, p, q => p = q ∧ p ≤ text.size ∧ looksTrue text l p = true
  | capture _ n, p, q => n.Matches text p q
  | seq a b, p, q => ∃ m, a.Matches text p m ∧ b.Matches text m q
  | alt a b, p, q => a.Matches text p q ∨ b.Matches text p q
  | rep n min max _, p, q =>
    ∃ more, (∀ most ∈ max, more ≤ most - min) ∧ Times (n.Matches text) (min + more) p q

/-- A match does not end before it starts. -/
theorem Matches.le {text : Array Char} {n : Node} {p q : Nat} (h : n.Matches text p q) : p ≤ q := by
  induction n generalizing p q with
  | empty => exact Nat.le_of_eq h
  | one s => exact h.1 ▸ Nat.le_succ p
  | look l => exact Nat.le_of_eq h.1
  | capture _ n ih => exact ih h
  | seq a b iha ihb =>
    obtain ⟨m, ha, hb⟩ := h
    exact Nat.le_trans (iha ha) (ihb hb)
  | alt a b iha ihb => exact h.elim iha ihb
  | rep n min max _ ih =>
    obtain ⟨more, -, hchain⟩ := h
    exact hchain.le fun _ _ => ih

/-- A match that starts in the text ends in it. -/
theorem Matches.le_size {text : Array Char} {n : Node} {p q : Nat} (h : n.Matches text p q)
    (hp : p ≤ text.size) : q ≤ text.size := by
  induction n generalizing p q with
  | empty => exact h ▸ hp
  | one s =>
    obtain ⟨rfl, c, hc, -⟩ := h
    obtain ⟨hlt, -⟩ := Array.getElem?_eq_some_iff.1 hc
    exact hlt
  | look l => exact h.1 ▸ hp
  | capture _ n ih => exact ih h hp
  | seq a b iha ihb =>
    obtain ⟨m, ha, hb⟩ := h
    exact ihb hb (iha ha hp)
  | alt a b iha ihb => exact h.elim (iha · hp) (ihb · hp)
  | rep n min max _ ih =>
    obtain ⟨more, -, hchain⟩ := h
    exact hchain.le_of_le (fun _ _ => ih) hp

end Node

/-! ## Sets of places -/

namespace Places

/-- No place behind a bound is in the set. -/
def Within (size : Nat) (set : Places) : Prop := ∀ p, set.testBit p = true → p ≤ size

/-- The places that pass a test are those of the text that do. -/
theorem testBit_ofTest (size : Nat) (test : Nat → Bool) (p : Nat) :
    (ofTest size test).testBit p = true ↔ p ≤ size ∧ test p = true := by
  have hfold (count : Nat) :
      ((List.range count).foldl (fun set p => if test p then set ||| 1 <<< p else set) 0).testBit p
        = true ↔ p < count ∧ test p = true := by
    induction count with
    | zero => simp
    | succ count ih =>
      rw [List.range_succ, List.foldl_append, List.foldl_cons, List.foldl_nil]
      by_cases hp : p = count
      · subst hp
        by_cases htest : test p = true
        · simp [htest, Nat.one_shiftLeft]
        · simp only [htest, Bool.false_eq_true, if_false, ih, and_false]
      · have hlt : p < count + 1 ↔ p < count := by omega
        split
        · rw [Nat.testBit_or, Nat.one_shiftLeft, Nat.testBit_two_pow_of_ne (Ne.symm hp),
            Bool.or_false, ih, hlt]
        · rw [ih, hlt]
  unfold ofTest
  rw [hfold, Nat.lt_succ_iff]

/-- Every place of the text is in the set of all. -/
theorem testBit_all (size p : Nat) : (all size).testBit p = true ↔ p ≤ size := by
  unfold all
  rw [Nat.one_shiftLeft, Nat.testBit_two_pow_sub_one, decide_eq_true_eq, Nat.lt_succ_iff]

/-- A set is empty if no place is in it. -/
theorem ne_zero_iff (set : Places) : set ≠ 0 ↔ ∃ p, set.testBit p = true :=
  ⟨Nat.exists_testBit_of_ne_zero, by
    rintro ⟨p, hp⟩ rfl
    simp at hp⟩

end Places

/-- A step on sets of places follows a relation in a text of `size` characters: it leads to the
places that the relation leads to, which does not lead out of the text. -/
structure Follows (size : Nat) (step : Places → Places) (r : Nat → Nat → Prop) : Prop where
  /-- The places that are reached. -/
  testBit : ∀ set, Places.Within size set → ∀ q,
    (step set).testBit q = true ↔ ∃ p, set.testBit p = true ∧ r p q
  /-- The relation stays in the text. -/
  le_size : ∀ p q, r p q → p ≤ size → q ≤ size

namespace Follows

variable {size : Nat} {step step' : Places → Places} {r r' : Nat → Nat → Prop}

/-- What is reached in the text is in the text. -/
theorem within (h : Follows size step r) {set : Places} (hset : Places.Within size set) :
    Places.Within size (step set) := by
  intro q hq
  obtain ⟨p, hp, hr⟩ := (h.testBit set hset q).1 hq
  exact h.le_size p q hr (hset p hp)

/-- One step behind another follows one relation behind another. -/
theorem comp (h : Follows size step r) (h' : Follows size step' r') :
    Follows size (fun set => step' (step set)) (fun p q => ∃ m, r p m ∧ r' m q) where
  testBit set hset q := by
    rw [h'.testBit _ (h.within hset)]
    constructor
    · rintro ⟨m, hm, hq⟩
      obtain ⟨p, hp, hr⟩ := (h.testBit set hset m).1 hm
      exact ⟨p, hp, m, hr, hq⟩
    · rintro ⟨p, hp, m, hr, hq⟩
      exact ⟨m, (h.testBit set hset m).2 ⟨p, hp, hr⟩, hq⟩
  le_size := by
    rintro p q ⟨m, hr, hq⟩ hp
    exact h'.le_size m q hq (h.le_size p m hr hp)

/-- The union of two steps follows either relation. -/
theorem union (h : Follows size step r) (h' : Follows size step' r') :
    Follows size (fun set => step set ||| step' set) (fun p q => r p q ∨ r' p q) where
  testBit set hset q := by
    rw [Nat.testBit_or, Bool.or_eq_true, h.testBit set hset, h'.testBit set hset, ← exists_or]
    simp only [and_or_left]
  le_size p q hr hp := hr.elim (h.le_size p q · hp) (h'.le_size p q · hp)

/-- A number of steps follows a chain. -/
theorem iterate (h : Follows size step r) (count : Nat) :
    Follows size (Nat.repeat step count) (Times r count) where
  testBit set hset q := by
    induction count generalizing q with
    | zero => exact ⟨fun hq => ⟨q, hq, rfl⟩, fun ⟨p, hp, hpq⟩ => hpq ▸ hp⟩
    | succ count ih =>
      have hwithin : Places.Within size (Nat.repeat step count set) := by
        intro m hm
        obtain ⟨p, hp, hchain⟩ := (ih m).1 hm
        exact hchain.le_of_le h.le_size (hset p hp)
      rw [Nat.repeat, h.testBit _ hwithin]
      simp only [Times.succ_iff, ih]
      constructor
      · rintro ⟨m, ⟨p, hp, hchain⟩, hq⟩
        exact ⟨p, hp, m, hchain, hq⟩
      · rintro ⟨p, hp, m, hchain, hq⟩
        exact ⟨m, ⟨p, hp, hchain⟩, hq⟩
  le_size _ _ hchain hp := hchain.le_of_le h.le_size hp

/-- Spreading follows chains up to the limit. -/
theorem spread (h : Follows size step r) (limit : Nat) :
    Follows size (Places.spread step limit) (fun p q => ∃ few ≤ limit, Times r few p q) where
  testBit set hset q := by
    induction limit generalizing set with
    | zero =>
      constructor
      · exact fun hq => ⟨q, hq, 0, Nat.le_refl 0, rfl⟩
      · rintro ⟨p, hp, few, hfew, hchain⟩
        obtain rfl := Nat.le_zero.1 hfew
        exact hchain ▸ hp
    | succ limit ih =>
      unfold Places.spread
      have hwider (m : Nat) : (set ||| step set).testBit m = true ↔
          set.testBit m = true ∨ ∃ p, set.testBit p = true ∧ r p m := by
        rw [Nat.testBit_or, Bool.or_eq_true, h.testBit set hset]
      dsimp only
      split
      · rename_i hclosed
        -- A set to which a step adds nothing holds all that chains from it lead to.
        have hchains (few p : Nat) (hp : set.testBit p = true) (hchain : Times r few p q) :
            set.testBit q = true := by
          induction few generalizing p with
          | zero => exact hchain ▸ hp
          | succ few ihfew =>
            obtain ⟨m, hm, hq⟩ := hchain
            rw [hclosed] at hwider
            exact ihfew m ((hwider m).2 (.inr ⟨p, hp, hm⟩)) hq
        constructor
        · exact fun hq => ⟨q, hq, 0, Nat.zero_le _, rfl⟩
        · rintro ⟨p, hp, few, -, hchain⟩
          exact hchains few p hp hchain
      · have hwithin : Places.Within size (set ||| step set) := by
          intro m hm
          rcases (hwider m).1 hm with hm | ⟨p, hp, hr⟩
          · exact hset m hm
          · exact h.le_size p m hr (hset p hp)
        rw [ih _ hwithin]
        constructor
        · rintro ⟨m, hm, few, hfew, hchain⟩
          rcases (hwider m).1 hm with hm | ⟨p, hp, hr⟩
          · exact ⟨m, hm, few, by omega, hchain⟩
          · exact ⟨p, hp, few + 1, by omega, m, hr, hchain⟩
        · rintro ⟨p, hp, few, hfew, hchain⟩
          cases few with
          | zero => exact ⟨p, (hwider p).2 (.inl hp), 0, Nat.zero_le _, hchain⟩
          | succ few =>
            obtain ⟨m, hm, hq⟩ := hchain
            exact ⟨m, (hwider m).2 (.inr ⟨p, hp, hm⟩), few, by omega, hq⟩
  le_size := by
    rintro p q ⟨few, -, hchain⟩ hp
    exact hchain.le_of_le h.le_size hp

/-- Relations that agree in the text are followed alike. -/
theorem congr (h : Follows size step r) (heq : ∀ p q, p ≤ size → (r p q ↔ r' p q)) :
    Follows size step r' where
  testBit set hset q := by
    rw [h.testBit set hset]
    constructor
    · rintro ⟨p, hp, hr⟩
      exact ⟨p, hp, (heq p q (hset p hp)).1 hr⟩
    · rintro ⟨p, hp, hr⟩
      exact ⟨p, hp, (heq p q (hset p hp)).2 hr⟩
  le_size p q hr hp := h.le_size p q ((heq p q hp).2 hr) hp

end Follows

/-! ## Searching a text -/

namespace Node

/-- What a pattern leads to follows its matches. -/
theorem follows_matches (text : Array Char) (n : Node) :
    Follows text.size (n.reach text).ends (n.Matches text) := by
  induction n with
  | empty =>
    exact ⟨fun set _ q => ⟨fun hq => ⟨q, hq, rfl⟩, fun ⟨p, hp, hpq⟩ => hpq ▸ hp⟩,
      fun _ _ => Matches.le_size⟩
  | one s =>
    refine ⟨fun set _ q => ?_, fun _ _ => Matches.le_size⟩
    simp only [reach, Reach.stepFrom, placesBefore, Matches, Nat.testBit_shiftLeft,
      Nat.testBit_and, Bool.and_eq_true, decide_eq_true_eq, Places.testBit_ofTest,
      Option.any_eq_true]
    constructor
    · rintro ⟨hq, hset, -, hc⟩
      exact ⟨q - 1, hset, by omega, hc⟩
    · rintro ⟨p, hp, rfl, c, hc, hs⟩
      obtain ⟨hlt, -⟩ := Array.getElem?_eq_some_iff.1 hc
      exact ⟨by omega, hp, by omega, c, hc, hs⟩
  | look l =>
    refine ⟨fun set _ q => ?_, fun _ _ => Matches.le_size⟩
    simp only [reach, Reach.stayAt, Matches, Nat.testBit_and, Bool.and_eq_true,
      Places.testBit_ofTest]
    exact ⟨fun hq => ⟨q, hq.1, rfl, hq.2⟩, fun ⟨p, hp, hpq, hl⟩ => hpq ▸ ⟨hp, hl⟩⟩
  | capture _ n ih => exact ih
  | seq a b iha ihb => exact iha.comp ihb
  | alt a b iha ihb => exact iha.union ihb
  | rep n min max _ ih =>
    -- The rounds of the least number, and then those of the spreading.
    have hrounds (limit : Nat) := (ih.iterate min).comp (ih.spread limit)
    cases max with
    | some max =>
      refine (hrounds (max - min)).congr fun p q _ => ?_
      simp only [Matches, Times.add_iff, Option.mem_def, Option.some.injEq, forall_eq']
      constructor
      · rintro ⟨m, hm, more, hmore, hq⟩
        exact ⟨more, hmore, m, hm, hq⟩
      · rintro ⟨more, hmore, m, hm, hq⟩
        exact ⟨m, hm, more, hmore, hq⟩
    | none =>
      refine (hrounds (text.size + 1)).congr fun p q hp => ?_
      simp only [Matches, Times.add_iff, Option.mem_def, reduceCtorEq, false_implies,
        implies_true, true_and]
      constructor
      · rintro ⟨m, hm, more, -, hq⟩
        exact ⟨more, m, hm, hq⟩
      · rintro ⟨more, m, hm, hq⟩
        -- As many rounds as there are places are enough to reach the same end.
        obtain ⟨few, hfew, hchain⟩ := hq.exists_le_sub fun _ _ => Matches.le
        have hend : q ≤ text.size :=
          hq.le_of_le ih.le_size (hm.le_of_le ih.le_size hp)
        exact ⟨m, hm, few, by omega, hchain⟩

/-- A pattern is found in a text exactly if it has a match that starts in the text. -/
theorem isMatch_iff {n : Node} {text : Array Char} :
    n.isMatch text = true ↔ ∃ p ≤ text.size, ∃ q, n.Matches text p q := by
  have hall : Places.Within text.size (Places.all text.size) :=
    fun p => (Places.testBit_all text.size p).1
  unfold isMatch
  rw [bne_iff_ne, Places.ne_zero_iff]
  simp only [(n.follows_matches text).testBit _ hall, Places.testBit_all]
  constructor
  · rintro ⟨q, p, hp, h⟩
    exact ⟨p, hp, q, h⟩
  · rintro ⟨p, hp, q, h⟩
    exact ⟨q, p, hp, h⟩

/-- A pattern matches the whole of a text exactly if it has a match from its start to its end. -/
theorem isFullMatch_iff {n : Node} {text : Array Char} :
    n.isFullMatch text = true ↔ n.Matches text 0 text.size := by
  have hstart (p : Nat) : Nat.testBit 1 p = true ↔ p = 0 := Nat.testBit_one_eq_true_iff_self_eq_zero
  unfold isFullMatch
  rw [(n.follows_matches text).testBit 1 fun p hp => (hstart p).1 hp ▸ Nat.zero_le _]
  simp [hstart]

/-- The start of a text is the place before which there is no character. -/
theorem looksTrue_textStart {text : Array Char} {p : Nat} (hp : p ≤ text.size) :
    looksTrue text .textStart p = true ↔ p = 0 := by
  simp only [looksTrue, neighbours, Look.holds, Option.isNone_iff_eq_none, ite_eq_left_iff,
    Array.getElem?_eq_none_iff]
  omega

/-- The end of a text is the place behind which there is no character. -/
theorem looksTrue_textEnd {text : Array Char} {p : Nat} (hp : p ≤ text.size) :
    looksTrue text .textEnd p = true ↔ p = text.size := by
  simp only [looksTrue, neighbours, Look.holds, Option.isNone_iff_eq_none,
    Array.getElem?_eq_none_iff]
  omega

end Node

end MetricAlgebra.Pattern
