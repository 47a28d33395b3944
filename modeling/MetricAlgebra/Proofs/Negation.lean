import MetricAlgebra.Proofs.GroupBy
import MetricAlgebra.Proofs.Join
import MetricAlgebra.Proofs.RoundedArithmetic

/-!
# Negated values

Negation changes the sign of a value and nothing else (`Binary64.unpack_neg`). So a difference is a
sum with the negated value (`Binary64.difference_eq_sum`), and negated values are in the opposite
order (`Binary64.neg_lt_iff`), for infinite values, zeros of both signs and what is not a number
too.

Subtracting a family is adding the negated one, whichever of the two is empty
(`Family.binaryOp_sub_eq_add_negative`). The tallies of negated samples mirror those of the samples:
the least and the greatest value change places and signs at the start (`Tally.mirrors_ofFirst`) and
with every sample (`Tally.Mirrors.push`). Hence the greatest of the negated values of a group is the
negated least one, with its bits (`Family.aggregate_negative`).
-/

namespace MetricAlgebra

open Grouping

/-! ## Values -/

namespace Binary64

open Float.Model Float.Model.UnpackedFloat

/-- A negated value has the parts of the value, with the other sign. -/
theorem unpack_neg (x : Float) : (-x).toModel.unpack = x.toModel.unpack.neg := by
  show (Float.Model.pack x.toModel.unpack.neg).unpack = _
  cases hx : x.toModel.unpack with
  | notANumber => rfl
  | infinity s => cases s <;> rfl
  | zero s => cases s <;> rfl
  | finite s m e hm =>
    -- The parts of a value are in canonical form, and are so with either sign.
    obtain ⟨hcanonical, he⟩ := canonical_of_unpack hx
    exact hcanonical.unpack_pack he (-s)

/-- A difference is the sum with the negated value. -/
theorem difference_eq_sum (x y : Float) : x - y = x + -y := by
  show Float.ofModel (.pack (UnpackedFloat.sub .binary64 x.toModel.unpack y.toModel.unpack)) =
    Float.ofModel (.pack (UnpackedFloat.add .binary64 x.toModel.unpack (-y).toModel.unpack))
  rw [unpack_neg, HasParts.sub_eq_add_neg]

/-- A negated number has the opposite rank. -/
theorem rankOf?_neg (x : Float) : rankOf? (-x) = (rankOf? x).map (-·) := by
  unfold rankOf?
  rw [unpack_neg]
  cases x.toModel.unpack with
  | notANumber => rfl
  | infinity s => cases s <;> rfl
  | zero s => rfl
  | finite s m e hm =>
    cases s with
    | positive => rfl
    | negative =>
      show some (toLex (1, toLex (e, (m : ℤ)))) = some (-toLex (-1, toLex (-e, -(m : ℤ))))
      simp [← toLex_neg]

/-- Negation makes no number of what is none, and keeps numbers. -/
theorem isNaN_neg (x : Float) : (-x).isNaN = x.isNaN := by
  rw [Bool.eq_iff_iff, isNaN_iff, isNaN_iff, rankOf?_neg, Option.map_eq_none_iff]

/-- Negated values are in the opposite order. -/
theorem neg_lt_iff (x y : Float) : -x < -y ↔ y < x := by
  rw [lt_iff, lt_iff, rankOf?_neg, rankOf?_neg]
  constructor
  · rintro ⟨_, _, hx, hy, hlt⟩
    obtain ⟨a, ha, rfl⟩ := Option.map_eq_some_iff.1 hx
    obtain ⟨b, hb, rfl⟩ := Option.map_eq_some_iff.1 hy
    exact ⟨b, a, hb, ha, neg_lt_neg_iff.1 hlt⟩
  · rintro ⟨b, a, hb, ha, hlt⟩
    exact ⟨-a, -b, by rw [ha]; rfl, by rw [hb]; rfl, neg_lt_neg hlt⟩

end Binary64

/-- The sample with the negated value. -/
def Sample.negated (s : Sample) : Sample := s.withValue (-s.value)

/-! ## Differences -/

namespace Family

/-- The negated family of a list of samples is that of the negated samples. -/
theorem negative_ofSamples (context : Context) (samples : List Sample) :
    (ofSamples context samples).negative = ofSamples context (samples.map Sample.negated) :=
  mapValues_ofSamples context samples _

/-- A join of differences is the join of sums with the negated samples on the right. -/
theorem nestedJoin_sub (left right : List Sample) :
    nestedJoin .sub left right = nestedJoin .add left (right.map Sample.negated) := by
  unfold nestedJoin
  refine List.filterMap_congr fun s _ => ?_
  -- Negation keeps the labels, so that the first match is the first match negated.
  have hfirst : ((right.map Sample.negated).find? fun t => t.labels = s.labels) =
      (right.find? fun t => t.labels = s.labels).map Sample.negated := List.find?_map
  rw [hfirst, Option.map_map]
  congr 1
  funext t
  exact congrArg s.withValue (Binary64.difference_eq_sum s.value t.value)

/-- Subtracting a family is adding the negated one, also where one of the two is empty or both
are. -/
theorem binaryOp_sub_eq_add_negative (left right : Family) :
    binaryOp .sub left right = binaryOp .add left right.negative := by
  cases left with
  | empty =>
    rw [binaryOp_empty_left, binaryOp_empty_left]
    rfl
  | populated left =>
    cases right with
    | empty =>
      have hnone : negative empty = empty := rfl
      rw [hnone, binaryOp_empty_right, binaryOp_empty_right]
    | populated right =>
      have hleft : left.samples ≠ [] := left.nonempty
      have hright : right.samples.map Sample.negated ≠ [] := by simpa using right.nonempty
      rw [binaryOp_populated_populated, join_eq, nestedJoin_sub, populated_eq_ofSamples left,
        populated_eq_ofSamples right, negative_ofSamples,
        binaryOp_ofSamples (.inr (iff_of_false hleft hright))]

end Family

/-! ## Least and greatest values -/

namespace Tally

/-- Whether a tally is that of the negated samples, as far as the least and the greatest value go:
they have changed places and signs. -/
structure Mirrors (t t' : Tally) : Prop where
  /-- The instants are the same. -/
  timestamp_eq : t'.timestamp = t.timestamp
  /-- The least value is the negated greatest one. -/
  min_eq : t'.min = -t.max
  /-- The greatest value is the negated least one. -/
  max_eq : t'.max = -t.min

/-- Before there are members, the infinite values mirror each other. -/
theorem mirrors_ofFirst (s : Sample) : (ofFirst s).Mirrors (ofFirst s.negated) where
  timestamp_eq := rfl
  min_eq := by
    show (1.0 / 0.0 : Float) = -(-1.0 / 0.0)
    decide +kernel
  max_eq := by
    show (-1.0 / 0.0 : Float) = -(1.0 / 0.0)
    decide +kernel

/-- Tallies that mirror each other still do so with one member more and its negation. -/
theorem Mirrors.push {t t' : Tally} (h : t.Mirrors t') (s : Sample) :
    (t.push s).Mirrors (t'.push s.negated) where
  timestamp_eq := h.timestamp_eq
  min_eq := by
    show (if (-s.value).isNaN || decide (-s.value < t'.min) then -s.value else t'.min) =
      -(if s.value.isNaN || decide (t.max < s.value) then s.value else t.max)
    rw [h.min_eq, Binary64.isNaN_neg, apply_ite (-·)]
    simp only [Binary64.neg_lt_iff]
  max_eq := by
    show (if (-s.value).isNaN || decide (t'.max < -s.value) then -s.value else t'.max) =
      -(if s.value.isNaN || decide (s.value < t.min) then s.value else t.min)
    rw [h.max_eq, Binary64.isNaN_neg, apply_ite (-·)]
    simp only [Binary64.neg_lt_iff]

end Tally

namespace Family

/-- The groups of negated samples are those of the samples, with tallies that mirror them. -/
theorem rel_tallies_negated (names : List String) (samples : List Sample) :
    List.Forall₂ (SameKey Tally.Mirrors) (tallies (groupKey names) samples)
      (tallies (groupKey names) (samples.map Sample.negated)) := by
  have hnegated : List.Forall₂ (fun s t => t = Sample.negated s) samples
      (samples.map Sample.negated) := by
    rw [List.forall₂_map_right_iff, List.forall₂_same]
    exact fun s _ => rfl
  refine rel_collect ?_ ?_ ?_ hnegated
  · rintro s _ rfl
    rfl
  · rintro s _ rfl
    exact (Tally.mirrors_ofFirst s).push s
  · rintro s _ t t' rfl h
    exact h.push s

/-- Of negated samples, a reduction makes the negated samples that another one makes of the samples,
if their values of tallies that mirror each other are negations. -/
theorem aggregate_negative_of_mirrors {how how' : Reduction}
    (hvalue : ∀ t t' : Tally, t.Mirrors t' → t'.value how' = -t.value how) (f : Family)
    (names : Option (List String)) :
    f.negative.aggregate how' names = (f.aggregate how names).negative := by
  obtain ⟨context, samples, rfl⟩ := exists_eq_ofSamples f
  rw [negative_ofSamples, aggregate_ofSamples, aggregate_ofSamples, negative_ofSamples]
  congr 1
  unfold reduced
  rw [List.map_map]
  refine (map_eq_of_forall₂ ?_ (rel_tallies_negated (names.getD []) samples)).symm
  rintro ⟨labels, t⟩ ⟨labels', t'⟩ ⟨hlabels, hmirrors⟩
  dsimp only at hlabels hmirrors
  subst hlabels
  show Sample.mk labels t.timestamp (-t.value how) = ⟨labels, t'.timestamp, t'.value how'⟩
  rw [hmirrors.timestamp_eq, hvalue t t' hmirrors]

/-- The greatest values of a negated family are the negated least values of the family, and the
least ones the negated greatest ones, in the same groups and bit by bit. -/
theorem aggregate_negative (f : Family) (names : Option (List String)) :
    f.negative.aggregate .max names = (f.aggregate .min names).negative ∧
      f.negative.aggregate .min names = (f.aggregate .max names).negative := by
  have hmax : ∀ t t' : Tally, t.Mirrors t' → t'.value .max = -t.value .min :=
    fun _ _ h => h.max_eq
  have hmin : ∀ t t' : Tally, t.Mirrors t' → t'.value .min = -t.value .max :=
    fun _ _ h => h.min_eq
  exact ⟨aggregate_negative_of_mirrors hmax f names, aggregate_negative_of_mirrors hmin f names⟩

-- Of zeros of both signs, the first one is the greatest value and the least one.
example :
    let zeros := ofSamples {} [⟨.empty, 1000, 0.0⟩, ⟨.empty, 2000, -0.0⟩]
    (zeros.negative.aggregate .max none).samples = [⟨.empty, 1000, -0.0⟩] ∧
      (zeros.aggregate .min none).samples = [⟨.empty, 1000, 0.0⟩] := by
  decide +kernel

end Family

end MetricAlgebra
