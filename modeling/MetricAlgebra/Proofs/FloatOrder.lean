import MetricAlgebra.Binary64
import MetricAlgebra.Proofs.Rounding

/-!
# The order of floating-point values

Numbers have ranks in a linear order, zeros of both signs the same one, and what is not a number has
none (`Binary64.rank?`). Comparing two values is comparing their ranks (`lt_iff`, `le_iff`,
`beq_iff`), so that comparisons are transitive among numbers and false elsewhere.

Going through a list with the greatest value so far, in which what is not a number stays, gives an
extreme of the list (`Preference.isExtreme_foldl_keep`), and so does going through it with the least
one. An extreme of the extremes of parts of a list is one of the list (`IsExtreme.of_parts`), and a
list has one extreme as a number (`IsExtreme.alike`).

The total order of all values, which is read off their bits, puts numbers in their order
(`le_of_orderKey_le`).
-/

namespace MetricAlgebra.Binary64

open Float.Model Float.Model.UnpackedFloat

/-! ## Ranks -/

/-- The rank of a number: its sign, and behind that the exponent and the mantissa. -/
def rank? : UnpackedFloat → Option (ℤ ×ₗ ℤ ×ₗ ℤ)
  | .notANumber => none
  | .infinity .negative => some (toLex (-2, toLex (0, 0)))
  | .finite .negative m e _ => some (toLex (-1, toLex (-e, -m)))
  | .zero _ => some (toLex (0, toLex (0, 0)))
  | .finite .positive m e _ => some (toLex (1, toLex (e, m)))
  | .infinity .positive => some (toLex (2, toLex (0, 0)))

/-- Pairs are compared by their first parts, and then by their second ones. -/
theorem compare_toLex {α β : Type} [LinearOrder α] [LinearOrder β] (a a' : α) (b b' : β) :
    compare (toLex (a, b)) (toLex (a', b')) = (compare a a').then (compare b b') := by
  rw [Prod.Lex.compare_def]
  rfl

/-- Negated integers are in the opposite order. -/
theorem compare_neg (a b : ℤ) : compare (-a) (-b) = (compare a b).swap := by
  rcases Int.lt_trichotomy a b with h | h | h
  · rw [Int.compare_eq_lt.2 h, Int.compare_eq_gt.2 (by omega)]
    rfl
  · rw [Int.compare_eq_eq.2 h, Int.compare_eq_eq.2 (by omega)]
    rfl
  · rw [Int.compare_eq_gt.2 h, Int.compare_eq_lt.2 (by omega)]
    rfl

/-- Natural numbers are compared as integers. -/
theorem compare_natCast (m n : ℕ) : compare (m : ℤ) (n : ℤ) = compare m n := by
  rcases Nat.lt_trichotomy m n with h | h | h
  · rw [Nat.compare_eq_lt.2 h, Int.compare_eq_lt.2 (by omega)]
  · rw [Nat.compare_eq_eq.2 h, Int.compare_eq_eq.2 (by omega)]
  · rw [Nat.compare_eq_gt.2 h, Int.compare_eq_gt.2 (by omega)]

/-- Numbers are compared by their ranks. -/
theorem compare_eq_compare_rank {u v : UnpackedFloat} {p q : ℤ ×ₗ ℤ ×ₗ ℤ} (hu : rank? u = some p)
    (hv : rank? v = some q) : u.compare v = some (compare p q) := by
  -- Only numbers of one sign have to be looked at closer than by their first parts.
  cases u with
  | notANumber => cases hu
  | infinity s =>
    cases v with
    | notANumber => cases hv
    | infinity t => cases s <;> cases t <;> cases hu <;> cases hv <;> rfl
    | zero t => cases s <;> cases hu <;> cases hv <;> rfl
    | finite t m e hm => cases s <;> cases t <;> cases hu <;> cases hv <;> rfl
  | zero s =>
    cases v with
    | notANumber => cases hv
    | infinity t => cases t <;> cases hu <;> cases hv <;> rfl
    | zero t => cases hu; cases hv; rfl
    | finite t m e hm => cases t <;> cases hu <;> cases hv <;> rfl
  | finite s m e hm =>
    cases v with
    | notANumber => cases hv
    | infinity t => cases s <;> cases t <;> cases hu <;> cases hv <;> rfl
    | zero t => cases s <;> cases hu <;> cases hv <;> rfl
    | finite t m' e' hm' =>
      cases s <;> cases t <;> cases hu <;> cases hv
      · rw [compare_toLex, compare_toLex, compare_neg e, compare_neg (m : ℤ), compare_natCast]
        show some ((compare e e').then (compare m m')).swap = _
        rw [Ordering.swap_then]
        rfl
      · rfl
      · rfl
      · rw [compare_toLex, compare_toLex, compare_natCast]
        rfl

/-- The rank of a value, if it is a number. -/
def rankOf? (x : Float) : Option (ℤ ×ₗ ℤ ×ₗ ℤ) := rank? x.toModel.unpack

/-- What has no rank is what is not a number. -/
theorem isNaN_iff (x : Float) : x.isNaN = true ↔ rankOf? x = none := by
  show x.toModel.unpack.isNaN = true ↔ rank? x.toModel.unpack = none
  cases x.toModel.unpack with
  | notANumber => exact ⟨fun _ => rfl, fun _ => rfl⟩
  | zero s => exact ⟨fun h => (Bool.false_ne_true h).elim, fun h => by cases h⟩
  | infinity s => cases s <;> exact ⟨fun h => (Bool.false_ne_true h).elim, fun h => by cases h⟩
  | finite s m e hm =>
    cases s <;> exact ⟨fun h => (Bool.false_ne_true h).elim, fun h => by cases h⟩

/-- What is not a number cannot be compared with anything. -/
theorem compare_eq_none {u v : UnpackedFloat} (h : rank? u = none ∨ rank? v = none) :
    u.compare v = none := by
  have hnone : ∀ w, rank? w = none → w = .notANumber := by
    intro w hw
    cases w with
    | notANumber => rfl
    | zero s => cases hw
    | infinity s => cases s <;> cases hw
    | finite s m e hm => cases s <;> cases hw
  rcases h with h | h
  · rw [hnone u h]
    rfl
  · rw [hnone v h]
    cases u <;> rfl

/-- A comparison of two values says something about their ranks, which are there then. -/
theorem compare_any_iff (x y : Float) (p : Ordering → Bool) :
    (x.toModel.unpack.compare y.toModel.unpack).any p = true ↔
      ∃ a b, rankOf? x = some a ∧ rankOf? y = some b ∧ p (compare a b) = true := by
  unfold rankOf?
  cases hx : rank? x.toModel.unpack with
  | none => simp [compare_eq_none (.inl hx)]
  | some a =>
    cases hy : rank? y.toModel.unpack with
    | none => simp [compare_eq_none (.inr hy)]
    | some b => simp [compare_eq_compare_rank hx hy]

/-- One value is below another if both are numbers and its rank is below. -/
theorem lt_iff (x y : Float) :
    x < y ↔ ∃ a b, rankOf? x = some a ∧ rankOf? y = some b ∧ a < b := by
  have hany : x < y ↔
      (x.toModel.unpack.compare y.toModel.unpack).any (· == .lt) = true := by
    show decide (x.toModel < y.toModel) = true ↔ _
    rw [decide_eq_true_iff]
    show (x.toModel.unpack.compare y.toModel.unpack == some .lt) = true ↔ _
    cases x.toModel.unpack.compare y.toModel.unpack <;> simp
  rw [hany, compare_any_iff]
  simp only [beq_iff_eq, compare_lt_iff_lt]

/-- One value is at most another if both are numbers and its rank is at most the other one. -/
theorem le_iff (x y : Float) :
    x ≤ y ↔ ∃ a b, rankOf? x = some a ∧ rankOf? y = some b ∧ a ≤ b := by
  have hany : x ≤ y ↔ (x.toModel.unpack.compare y.toModel.unpack).any (·.isLE) = true := by
    show decide (x.toModel ≤ y.toModel) = true ↔ _
    rw [decide_eq_true_iff]
    exact Iff.rfl
  rw [hany, compare_any_iff]
  simp only [Ordering.isLE_iff_ne_gt, compare_gt_iff_gt, not_lt]

/-- Two values are equal as numbers if both are numbers and of one rank. -/
theorem beq_iff (x y : Float) :
    (x == y) = true ↔ ∃ a, rankOf? x = some a ∧ rankOf? y = some a := by
  have hany : (x == y) = true ↔
      (x.toModel.unpack.compare y.toModel.unpack).any (· == .eq) = true := by
    show (x.toModel.unpack.compare y.toModel.unpack == some .eq) = true ↔ _
    cases x.toModel.unpack.compare y.toModel.unpack <;> simp
  rw [hany, compare_any_iff]
  simp only [beq_iff_eq, compare_eq_iff_eq]
  constructor
  · rintro ⟨a, b, ha, hb, rfl⟩
    exact ⟨a, ha, hb⟩
  · rintro ⟨a, ha, hb⟩
    exact ⟨a, a, ha, hb, rfl⟩

/-- A number has a rank. -/
theorem exists_rank {x : Float} (hx : x.isNaN = false) : ∃ a, rankOf? x = some a := by
  cases hrank : rankOf? x with
  | none =>
    rw [(isNaN_iff x).2 hrank] at hx
    cases hx
  | some a => exact ⟨a, rfl⟩

/-- What is not a number is neither below nor above anything. -/
theorem not_lt_of_isNaN {x : Float} (hx : x.isNaN = true) (y : Float) : ¬ x < y ∧ ¬ y < x := by
  have hrank := (isNaN_iff x).1 hx
  constructor
  · rw [lt_iff, hrank]
    rintro ⟨a, b, ha, -, -⟩
    cases ha
  · rw [lt_iff, hrank]
    rintro ⟨a, b, -, hb, -⟩
    cases hb

/-- A number that is not above another one is at most that. -/
theorem le_of_numbers {x y : Float} (hx : x.isNaN = false) (hy : y.isNaN = false)
    (h : ¬ y < x) : x ≤ y := by
  obtain ⟨a, ha⟩ := exists_rank hx
  obtain ⟨b, hb⟩ := exists_rank hy
  rw [lt_iff] at h
  exact (le_iff x y).2 ⟨a, b, ha, hb, not_lt.1 fun hlt => h ⟨b, a, hb, ha, hlt⟩⟩

/-- What is below a value is at most that. -/
theorem le_of_below {x y : Float} (h : x < y) : x ≤ y := by
  obtain ⟨a, b, ha, hb, hlt⟩ := (lt_iff x y).1 h
  exact (le_iff x y).2 ⟨a, b, ha, hb, hlt.le⟩

/-- The order is transitive. -/
theorem le_of_le_of_le {x y z : Float} (hxy : x ≤ y) (hyz : y ≤ z) : x ≤ z := by
  obtain ⟨a, b, ha, hb, hab⟩ := (le_iff x y).1 hxy
  obtain ⟨b', c, hb', hc, hbc⟩ := (le_iff y z).1 hyz
  obtain rfl : b = b' := Option.some.inj (hb.symm.trans hb')
  exact (le_iff x z).2 ⟨a, c, ha, hc, hab.trans hbc⟩

/-- Values that are at most each other are equal as numbers. -/
theorem beq_of_le_of_le {x y : Float} (hxy : x ≤ y) (hyx : y ≤ x) : (x == y) = true := by
  obtain ⟨a, b, ha, hb, hab⟩ := (le_iff x y).1 hxy
  obtain ⟨b', a', hb', ha', hba⟩ := (le_iff y x).1 hyx
  obtain rfl : b = b' := Option.some.inj (hb.symm.trans hb')
  obtain rfl : a = a' := Option.some.inj (ha.symm.trans ha')
  exact (beq_iff x y).2 ⟨a, ha, le_antisymm hab hba ▸ hb⟩

/-! ## Extremes of lists -/

/-- Whether two values are equal as numbers, or both not numbers. -/
def Alike (x y : Float) : Prop := (x.isNaN = true ∧ y.isNaN = true) ∨ (x == y) = true

/-- Whether a value is an extreme of a list: one of its values, to which all others are related. A
list with a value that is not a number has no other extreme than that. -/
def IsExtreme (r : Float → Float → Prop) (xs : List Float) (v : Float) : Prop :=
  if ∃ x ∈ xs, x.isNaN = true then v.isNaN = true else v ∈ xs ∧ ∀ x ∈ xs, r x v

/-- What is kept of two values: the new one, if it beats the old one or is not a number. -/
def keep (beats : Float → Float → Bool) (kept x : Float) : Float :=
  if x.isNaN || beats x kept then x else kept

/-- A way to prefer some numbers to others, from a start that all others beat. -/
structure Preference (beats : Float → Float → Bool) (r : Float → Float → Prop) (start : Float) :
    Prop where
  /-- Nothing beats what is not a number. -/
  not_beats_nan : ∀ x y, y.isNaN = true → beats x y = false
  /-- A number is related to what it does not beat. -/
  of_not_beats : ∀ x y, x.isNaN = false → y.isNaN = false → beats x y = false → r x y
  /-- What is beaten is related to what beats it. -/
  of_beats : ∀ x y, beats x y = true → r y x
  /-- The relation is transitive. -/
  trans : ∀ x y z, r x y → r y z → r x z
  /-- Values related to each other are equal as numbers. -/
  antisymm : ∀ x y, r x y → r y x → (x == y) = true
  /-- A number that does not beat the start is the start. -/
  eq_start : ∀ x, x.isNaN = false → beats x start = false → x = start

namespace Preference

variable {beats : Float → Float → Bool} {r : Float → Float → Prop} {start : Float}

/-- A number is related to itself. -/
theorem refl (h : Preference beats r start) {x : Float} (hx : x.isNaN = false) : r x x := by
  cases hbeats : beats x x with
  | true => exact h.of_beats x x hbeats
  | false => exact h.of_not_beats x x hx hx hbeats

/-- The first value is the extreme of itself. -/
theorem isExtreme_keep_start (h : Preference beats r start) (x : Float) :
    IsExtreme r [x] (keep beats start x) := by
  unfold IsExtreme keep
  simp only [List.mem_singleton, exists_eq_left, forall_eq]
  cases hx : x.isNaN with
  | true => simpa using hx
  | false =>
    have hkept : (if beats x start = true then x else start) = x := by
      split
      · rfl
      · rename_i hbeats
        exact (h.eq_start x hx (by simpa using hbeats)).symm
    simp only [Bool.false_or, Bool.false_eq_true, if_false]
    rw [hkept]
    exact ⟨rfl, h.refl hx⟩

/-- What is kept of an extreme and one value more is an extreme with it. -/
theorem isExtreme_keep_concat (h : Preference beats r start) {xs : List Float} {v : Float}
    (hv : IsExtreme r xs v) (x : Float) : IsExtreme r (xs ++ [x]) (keep beats v x) := by
  unfold IsExtreme at hv
  unfold keep
  cases hx : x.isNaN with
  | true =>
    have hnan : ∃ y ∈ xs ++ [x], y.isNaN = true := ⟨x, by simp, hx⟩
    rw [IsExtreme, if_pos hnan, Bool.true_or, if_pos rfl]
    exact hx
  | false =>
    rw [Bool.false_or]
    by_cases hnan : ∃ y ∈ xs, y.isNaN = true
    · -- What is not a number stays, because nothing beats it.
      rw [if_pos hnan] at hv
      obtain ⟨y, hy, hynan⟩ := hnan
      have hnan' : ∃ y ∈ xs ++ [x], y.isNaN = true := ⟨y, by simp [hy], hynan⟩
      rw [IsExtreme, if_pos hnan', h.not_beats_nan x v hv, if_neg Bool.false_ne_true]
      exact hv
    · rw [if_neg hnan] at hv
      obtain ⟨hmem, hall⟩ := hv
      have hvnumber : v.isNaN = false := by
        cases hvnan : v.isNaN with
        | false => rfl
        | true => exact (hnan ⟨v, hmem, hvnan⟩).elim
      have hnan' : ¬ ∃ y ∈ xs ++ [x], y.isNaN = true := by
        rintro ⟨y, hy, hynan⟩
        rcases List.mem_append.1 hy with hy | hy
        · exact hnan ⟨y, hy, hynan⟩
        · rw [List.mem_singleton.1 hy, hx] at hynan
          cases hynan
      rw [IsExtreme, if_neg hnan']
      cases hbeats : beats x v with
      | true =>
        refine ⟨by simp, fun y hy => ?_⟩
        rcases List.mem_append.1 hy with hy | hy
        · exact h.trans y v x (hall y hy) (h.of_beats x v hbeats)
        · rw [List.mem_singleton.1 hy]
          exact h.refl hx
      | false =>
        rw [if_neg Bool.false_ne_true]
        refine ⟨by simp [hmem], fun y hy => ?_⟩
        rcases List.mem_append.1 hy with hy | hy
        · exact hall y hy
        · rw [List.mem_singleton.1 hy]
          exact h.of_not_beats x v hx hvnumber hbeats

/-- Going through some values keeps an extreme of them. -/
theorem isExtreme_foldl_keep (h : Preference beats r start) {xs : List Float} (hxs : xs ≠ []) :
    IsExtreme r xs (xs.foldl (keep beats) start) := by
  induction xs using List.reverseRecOn with
  | nil => exact (hxs rfl).elim
  | append_singleton xs x ih =>
    rw [List.foldl_append]
    by_cases hnil : xs = []
    · subst hnil
      exact h.isExtreme_keep_start x
    · exact h.isExtreme_keep_concat (ih hnil) x

end Preference

namespace IsExtreme

variable {r : Float → Float → Prop} {xs : List Float} {v w : Float}

/-- The extreme of a list is not a number exactly if some value of the list is none. -/
theorem isNaN_iff (h : IsExtreme r xs v) : v.isNaN = true ↔ ∃ x ∈ xs, x.isNaN = true := by
  unfold IsExtreme at h
  split at h
  · rename_i hnan
    exact ⟨fun _ => hnan, fun _ => h⟩
  · rename_i hnumbers
    exact ⟨fun hv => ⟨v, h.1, hv⟩, fun hnan => absurd hnan hnumbers⟩

/-- In a list of numbers, the extreme is one of them, and all are related to it. -/
theorem of_numbers (h : IsExtreme r xs v) (hxs : ¬ ∃ x ∈ xs, x.isNaN = true) :
    v ∈ xs ∧ ∀ x ∈ xs, r x v := by
  rwa [IsExtreme, if_neg hxs] at h

/-- An extreme of the extremes of parts is an extreme of the whole list. -/
theorem of_parts (htrans : ∀ x y z, r x y → r y z → r x z) {ws : List Float}
    (hv : IsExtreme r ws v)
    (hparts : ∀ w ∈ ws, ∃ part, IsExtreme r part w ∧ ∀ x ∈ part, x ∈ xs)
    (hcover : ∀ x ∈ xs, ∃ w ∈ ws, ∃ part, IsExtreme r part w ∧ x ∈ part) :
    IsExtreme r xs v := by
  have hnan : (∃ w ∈ ws, w.isNaN = true) ↔ ∃ x ∈ xs, x.isNaN = true := by
    constructor
    · rintro ⟨w, hw, hwnan⟩
      obtain ⟨part, hpart, hsub⟩ := hparts w hw
      obtain ⟨x, hx, hxnan⟩ := hpart.isNaN_iff.1 hwnan
      exact ⟨x, hsub x hx, hxnan⟩
    · rintro ⟨x, hx, hxnan⟩
      obtain ⟨w, hw, part, hpart, hxpart⟩ := hcover x hx
      exact ⟨w, hw, hpart.isNaN_iff.2 ⟨x, hxpart, hxnan⟩⟩
  by_cases hxs : ∃ x ∈ xs, x.isNaN = true
  · rw [IsExtreme, if_pos hxs]
    exact hv.isNaN_iff.2 (hnan.2 hxs)
  · rw [IsExtreme, if_neg hxs]
    obtain ⟨hmem, hall⟩ := hv.of_numbers fun hws => hxs (hnan.1 hws)
    constructor
    · -- The extreme comes from one of the parts, which is a list of numbers too.
      obtain ⟨part, hpart, hsub⟩ := hparts v hmem
      have hnumbers : ¬ ∃ x ∈ part, x.isNaN = true := fun ⟨x, hx, hxnan⟩ =>
        hxs ⟨x, hsub x hx, hxnan⟩
      exact hsub v (hpart.of_numbers hnumbers).1
    · intro x hx
      obtain ⟨w, hw, part, hpart, hxpart⟩ := hcover x hx
      have hnumbers : ¬ ∃ y ∈ part, y.isNaN = true := fun hpartnan =>
        hxs (hnan.1 ⟨w, hw, hpart.isNaN_iff.2 hpartnan⟩)
      exact htrans x w v ((hpart.of_numbers hnumbers).2 x hxpart) (hall w hw)

/-- A list has one extreme, as a number. -/
theorem alike (hantisymm : ∀ x y, r x y → r y x → (x == y) = true) (hv : IsExtreme r xs v)
    (hw : IsExtreme r xs w) : Alike v w := by
  by_cases hxs : ∃ x ∈ xs, x.isNaN = true
  · exact .inl ⟨hv.isNaN_iff.2 hxs, hw.isNaN_iff.2 hxs⟩
  · obtain ⟨hvmem, hvall⟩ := hv.of_numbers hxs
    obtain ⟨hwmem, hwall⟩ := hw.of_numbers hxs
    exact .inr (hantisymm v w (hwall v hvmem) (hvall w hwmem))

end IsExtreme

/-! ## The greatest and the least value -/

/-- The only value of the rank of an infinite one is that one. -/
theorem eq_infinity_of_rank {x : Float} {s : Sign} (hx : rankOf? x = rank? (.infinity s)) :
    x = .ofModel (.pack (.infinity s)) := by
  have hinfinity : x.toModel.unpack = .infinity s := by
    unfold rankOf? at hx
    cases hu : x.toModel.unpack with
    | notANumber => rw [hu] at hx; cases s <;> cases hx
    | zero t => rw [hu] at hx; cases s <;> cases hx
    | infinity t => rw [hu] at hx; cases s <;> cases t <;> cases hx <;> rfl
    | finite t m e hm => rw [hu] at hx; cases s <;> cases t <;> cases hx
  rw [← hinfinity]
  exact (Float.ofBits_toBits x).symm

/-- All ranks are between those of the infinite values. -/
theorem rank_bounds {x : Float} {a : ℤ ×ₗ ℤ ×ₗ ℤ} (hx : rankOf? x = some a) :
    toLex (-2, toLex (0, 0)) ≤ a ∧ a ≤ toLex (2, toLex (0, 0)) := by
  unfold rankOf? at hx
  cases hu : x.toModel.unpack with
  | notANumber => rw [hu] at hx; cases hx
  | zero s => rw [hu] at hx; cases hx; decide
  | infinity s => rw [hu] at hx; cases s <;> cases hx <;> decide
  | finite s m e hm =>
    rw [hu] at hx
    cases s <;> cases hx <;> simp [Prod.Lex.toLex_le_toLex]

/-- Nothing else is at most the negative infinite value. -/
theorem eq_of_le_negInfinity {x : Float} (h : x ≤ -1.0 / 0.0) : x = -1.0 / 0.0 := by
  have hinfinity : (-1.0 / 0.0 : Float) = .ofModel (.pack (.infinity .negative)) := by
    decide +kernel
  obtain ⟨a, b, ha, hb, hab⟩ := (le_iff _ _).1 h
  obtain rfl : toLex (-2, toLex (0, 0)) = b := Option.some.inj hb
  have hbound := (rank_bounds ha).1
  rw [hinfinity]
  exact eq_infinity_of_rank (ha.trans (congrArg some (le_antisymm hab hbound)))

/-- Nothing else is at least the positive infinite value. -/
theorem eq_of_infinity_le {x : Float} (h : 1.0 / 0.0 ≤ x) : x = 1.0 / 0.0 := by
  have hinfinity : (1.0 / 0.0 : Float) = .ofModel (.pack (.infinity .positive)) := by
    decide +kernel
  obtain ⟨b, a, hb, ha, hba⟩ := (le_iff _ _).1 h
  obtain rfl : toLex (2, toLex (0, 0)) = b := Option.some.inj hb
  have hbound := (rank_bounds ha).2
  rw [hinfinity]
  exact eq_infinity_of_rank (ha.trans (congrArg some (le_antisymm hbound hba)))

/-- Greater values are preferred, from the negative infinite one. -/
theorem preference_greater :
    Preference (fun x kept => decide (x > kept)) (fun x v => x ≤ v) (-1.0 / 0.0) where
  not_beats_nan x _ hy := decide_eq_false (not_lt_of_isNaN hy x).1
  of_not_beats _ _ hx hy h := le_of_numbers hx hy (of_decide_eq_false h)
  of_beats _ _ h := le_of_below (of_decide_eq_true h)
  trans _ _ _ := le_of_le_of_le
  antisymm _ _ := beq_of_le_of_le
  eq_start _ hx h :=
    eq_of_le_negInfinity (le_of_numbers hx (by decide +kernel) (of_decide_eq_false h))

/-- Smaller values are preferred, from the positive infinite one. -/
theorem preference_less :
    Preference (fun x kept => decide (x < kept)) (fun x v => v ≤ x) (1.0 / 0.0) where
  not_beats_nan x _ hy := decide_eq_false (not_lt_of_isNaN hy x).2
  of_not_beats _ _ hx hy h := le_of_numbers hy hx (of_decide_eq_false h)
  of_beats _ _ h := le_of_below (of_decide_eq_true h)
  trans _ _ _ hxy hyz := le_of_le_of_le hyz hxy
  antisymm _ _ hxy hyx := beq_of_le_of_le hyx hxy
  eq_start _ hx h :=
    eq_of_infinity_le (le_of_numbers (by decide +kernel) hx (of_decide_eq_false h))

/-! ## The total order -/

/-- The fields of bits, as numbers. -/
theorem toNat_fields (bits : BitVec Format.binary64.numBits) :
    (unpackExponent bits).toNat = bits.toNat / 2 ^ 52 % 2 ^ 11 ∧
      (unpackMantissa bits).toNat = bits.toNat % 2 ^ 52 ∧
      (unpackSign bits).toNat = bits.toNat / 2 ^ 63 % 2 := by
  refine ⟨?_, ?_, ?_⟩
  · show (BitVec.extractLsb' 52 11 bits).toNat = _
    rw [BitVec.extractLsb'_toNat, Nat.shiftRight_eq_div_pow]
  · show (BitVec.extractLsb' 0 52 bits).toNat = _
    rw [BitVec.extractLsb'_toNat, Nat.shiftRight_zero]
  · show (BitVec.extractLsb' 63 1 bits).toNat = _
    rw [BitVec.extractLsb'_toNat, Nat.shiftRight_eq_div_pow, pow_one]

/-- The rank of the number that the bits behind the sign give. -/
def magnitudeRank (n : ℕ) : ℤ ×ₗ ℤ ×ₗ ℤ :=
  if n / 2 ^ 52 = 2047 then toLex (2, toLex (0, 0))
  else if n / 2 ^ 52 = 0 then if n = 0 then toLex (0, toLex (0, 0)) else toLex (1, toLex (-1074, n))
  else toLex (1, toLex (n / 2 ^ 52 - 1075, 2 ^ 52 + n % 2 ^ 52))

/-- Among bits behind the sign, greater ones give greater numbers. -/
theorem magnitudeRank_le {n n' : ℕ} (h : n ≤ n') (hn' : n' / 2 ^ 52 ≤ 2047) :
    magnitudeRank n ≤ magnitudeRank n' := by
  unfold magnitudeRank
  -- Both numbers are infinite, zero or have an exponent and a mantissa.
  split_ifs <;> simp only [Prod.Lex.toLex_le_toLex, le_refl, lt_irrefl, and_true, true_and,
    false_or] <;> omega

/-- The rank of a number with a sign, from that without. -/
def signedRank : Sign → ℤ ×ₗ ℤ ×ₗ ℤ → ℤ ×ₗ ℤ ×ₗ ℤ
  | .positive, r => r
  | .negative, r => -r

/-- The rank of a finite value with a sign. -/
theorem rank?_finite (s : Sign) (m : ℕ) (e : ℤ) (hm : 0 < m) :
    rank? (.finite s m e hm) = some (signedRank s (toLex (1, toLex (e, (m : ℤ))))) := by
  cases s <;> rfl

/-- The rank of a number is that of the bits behind the sign, with the sign. -/
theorem rank?_unpack {bits : BitVec Format.binary64.numBits} {r : ℤ ×ₗ ℤ ×ₗ ℤ}
    (h : rank? (unpack .binary64 bits) = some r) :
    r = signedRank (Sign.ofBitVec (unpackSign bits)) (magnitudeRank (bits.toNat % 2 ^ 63)) := by
  obtain ⟨hexponent, hmantissa, -⟩ := toNat_fields bits
  have hexponent' : (unpackExponent bits).toNat = bits.toNat % 2 ^ 63 / 2 ^ 52 := by omega
  have hmantissa' : (unpackMantissa bits).toNat = bits.toNat % 2 ^ 63 % 2 ^ 52 := by omega
  unfold magnitudeRank
  generalize bits.toNat % 2 ^ 63 = n at hexponent' hmantissa'
  unfold UnpackedFloat.unpack at h
  dsimp only at h
  generalize Sign.ofBitVec (unpackSign bits) = s at h
  split at h
  · rename_i hgreatest
    have hn : n / 2 ^ 52 = 2047 := by
      rw [← hexponent', hgreatest]
      rfl
    rw [if_pos hn]
    split at h
    · cases s <;> exact (Option.some.inj h).symm
    · cases h
  · rename_i hgreatest
    have hn : n / 2 ^ 52 ≠ 2047 := fun heq =>
      hgreatest (BitVec.eq_of_toNat_eq (hexponent'.trans heq))
    rw [if_neg hn]
    split at h
    · rename_i hleast
      have hn : n / 2 ^ 52 = 0 := by
        rw [← hexponent', hleast]
        rfl
      rw [if_pos hn]
      split at h
      · rename_i hzero
        have hn : n = 0 := by
          have hmod := congrArg BitVec.toNat hzero
          rw [hmantissa'] at hmod
          change n % 2 ^ 52 = 0 at hmod
          omega
        rw [if_pos hn]
        cases s <;> exact (Option.some.inj h).symm
      · rename_i hzero
        have hn : n ≠ 0 := fun heq => hzero (BitVec.eq_of_toNat_eq (by rw [hmantissa', heq]; rfl))
        rw [if_neg hn]
        rw [rank?_finite] at h
        have he : ((unpackExponent bits).toNat : ℤ) - 1075 + 1 = -1074 := by omega
        have hm : ((unpackMantissa bits).toNat : ℤ) = n := by omega
        rw [← he, ← hm]
        exact (Option.some.inj h).symm
    · rename_i hleast
      have hn : n / 2 ^ 52 ≠ 0 := fun heq => hleast (BitVec.eq_of_toNat_eq (hexponent'.trans heq))
      rw [if_neg hn]
      rw [rank?_finite, toNat_one_append] at h
      have he : ((unpackExponent bits).toNat : ℤ) - 1075 = n / 2 ^ 52 - 1075 := by omega
      have hm : ((2 ^ 52 + (unpackMantissa bits).toNat : ℕ) : ℤ) = 2 ^ 52 + n % 2 ^ 52 := by omega
      rw [← he, ← hm]
      exact (Option.some.inj h).symm

/-- The rank of a number from its place in the total order. -/
theorem rank_eq_of_orderKey {x : Float} {r : ℤ ×ₗ ℤ ×ₗ ℤ} (h : rankOf? x = some r) :
    ∃ n : ℕ, n / 2 ^ 52 ≤ 2047 ∧ (orderKey x = n ∧ r = magnitudeRank n ∨
      orderKey x = -1 - n ∧ r = -magnitudeRank n) := by
  let bits : BitVec Format.binary64.numBits := x.toModel.toBits.toBitVec
  have hrank : r = signedRank (Sign.ofBitVec (unpackSign bits))
    (magnitudeRank (x.toBits.toNat % 2 ^ 63)) := rank?_unpack h
  have hsign : (unpackSign bits).toNat = x.toBits.toNat / 2 ^ 63 % 2 := (toNat_fields bits).2.2
  have hlt : x.toBits.toNat < 2 ^ 64 := x.toBits.toNat_lt
  refine ⟨x.toBits.toNat % 2 ^ 63, by omega, ?_⟩
  unfold Sign.ofBitVec at hrank
  unfold orderKey signBit
  by_cases hpositive : x.toBits.toNat < 2 ^ 63
  · have hzero : unpackSign bits = 0#1 := by
      refine BitVec.eq_of_toNat_eq ?_
      show (unpackSign bits).toNat = 0
      omega
    rw [if_pos hzero] at hrank
    refine .inl ⟨(if_pos hpositive).trans ?_, hrank⟩
    omega
  · have hone : unpackSign bits ≠ 0#1 := by
      intro hzero
      have htoNat : (unpackSign bits).toNat = 0 := congrArg BitVec.toNat hzero
      omega
    rw [if_neg hone] at hrank
    refine .inr ⟨(if_neg hpositive).trans ?_, hrank⟩
    omega

/-- Numbers are in order if they are in the total order. -/
theorem le_of_orderKey_le {x y : Float} (hx : x.isNaN = false) (hy : y.isNaN = false)
    (h : orderKey x ≤ orderKey y) : x ≤ y := by
  obtain ⟨a, ha⟩ := exists_rank hx
  obtain ⟨b, hb⟩ := exists_rank hy
  refine (le_iff x y).2 ⟨a, b, ha, hb, ?_⟩
  obtain ⟨m, hm, ⟨hkeyx, rfl⟩ | ⟨hkeyx, rfl⟩⟩ := rank_eq_of_orderKey ha
  · obtain ⟨n, hn, ⟨hkeyy, rfl⟩ | ⟨hkeyy, rfl⟩⟩ := rank_eq_of_orderKey hb
    · exact magnitudeRank_le (by omega) hn
    · omega
  · obtain ⟨n, hn, ⟨hkeyy, rfl⟩ | ⟨hkeyy, rfl⟩⟩ := rank_eq_of_orderKey hb
    · -- What has a negative sign is at most zero, and what has a positive one at least that.
      have hzero : magnitudeRank 0 = 0 := rfl
      have hm := magnitudeRank_le (Nat.zero_le m) hm
      have hn := magnitudeRank_le (Nat.zero_le n) hn
      rw [hzero] at hm hn
      exact (neg_nonpos.2 hm).trans hn
    · exact neg_le_neg (magnitudeRank_le (by omega) hm)

end MetricAlgebra.Binary64
