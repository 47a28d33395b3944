import MetricAlgebra.Proofs.Join
import MetricAlgebra.Proofs.RoundedArithmetic

/-!
# Sums and products in either order

Sums and products of values do not depend on the order of the two, whatever the values are
(`Binary64.sum_comm`, `Binary64.product_comm`). In a join of two families the order does count,
since one side gives the labels and the first match on the other side gives the value. But where no
labels occur twice on a side, matches are unique in both directions, and either order gives the same
values by labels (`Family.binaryOp_comm_by_labels`).
-/

namespace MetricAlgebra

/-! ## Values -/

namespace Binary64

open Float.Model Float.Model.UnpackedFloat

/-- The parts of a sum do not depend on the order. -/
theorem add_unpacked_comm (u v : UnpackedFloat) :
    UnpackedFloat.add .binary64 u v = UnpackedFloat.add .binary64 v u := by
  cases u with
  | infinity s =>
    cases v with
    | infinity t => cases s <;> cases t <;> rfl
    | _ => rfl
  | zero s =>
    cases v with
    | zero t => cases s <;> cases t <;> rfl
    | _ => rfl
  | notANumber => cases v <;> rfl
  | finite s m e hm =>
    cases v with
    | finite t n k hn =>
      -- The mantissas are added as integers, at the lesser exponent.
      show UnpackedFloat.normalize _ (s.apply _ + t.apply _) _ _ =
        UnpackedFloat.normalize _ (t.apply _ + s.apply _) _ _
      rw [min_comm, add_comm]
    | _ => rfl

/-- The parts of a product do not depend on the order. -/
theorem mul_unpacked_comm (u v : UnpackedFloat) :
    UnpackedFloat.mul .binary64 u v = UnpackedFloat.mul .binary64 v u := by
  have hsign (s t : Sign) : s * t = t * s := by cases s <;> cases t <;> rfl
  cases u with
  | infinity s =>
    cases v with
    | infinity t | finite t => exact congrArg _ (hsign s t)
    | _ => rfl
  | zero s =>
    cases v with
    | zero t | finite t => exact congrArg _ (hsign s t)
    | _ => rfl
  | notANumber => cases v <;> rfl
  | finite s m e hm =>
    cases v with
    | finite t n k hn =>
      show roundWithAccuracy _ (s * t) (m * n) (e + k) _ =
        roundWithAccuracy _ (t * s) (n * m) (k + e) _
      rw [hsign, mul_comm m, add_comm e]
    | infinity t | zero t => exact congrArg _ (hsign s t)
    | notANumber => rfl

/-- A sum does not depend on the order. -/
theorem sum_comm (x y : Float) : x + y = y + x :=
  congrArg (fun u => Float.ofModel (pack u)) (add_unpacked_comm x.toModel.unpack y.toModel.unpack)

/-- A product does not depend on the order. -/
theorem product_comm (x y : Float) : x * y = y * x :=
  congrArg (fun u => Float.ofModel (pack u)) (mul_unpacked_comm x.toModel.unpack y.toModel.unpack)

end Binary64

/-- An addition and a multiplication do not depend on the order of their values. -/
theorem BinaryOp.apply_comm {op : BinaryOp} (h : op = .add ∨ op = .mul) (x y : Float) :
    op.apply x y = op.apply y x := by
  rcases h with rfl | rfl
  · exact Binary64.sum_comm x y
  · exact Binary64.product_comm x y

/-! ## Families -/

namespace Family

/-- The values of samples with the labels of their series. -/
def valuesOf (samples : List Sample) : List (LabelSet × Float) :=
  samples.map fun s => (s.labels, s.value)

/-- Labels that occur once are those of one sample, which is the first. -/
theorem find?_labels_eq_some_iff {samples : List Sample} (h : (samples.map (·.labels)).Nodup)
    {labels : LabelSet} {t : Sample} :
    samples.find? (fun t => t.labels = labels) = some t ↔ t ∈ samples ∧ t.labels = labels := by
  constructor
  · intro hfind
    exact ⟨List.mem_of_find?_eq_some hfind, of_decide_eq_true (List.find?_some hfind :)⟩
  · rintro ⟨hmem, rfl⟩
    cases hfind : samples.find? fun s => s.labels = t.labels with
    | none => exact absurd (decide_eq_true rfl) (List.find?_eq_none.1 hfind t hmem)
    | some first =>
      have hsame : first.labels = t.labels := of_decide_eq_true (List.find?_some hfind :)
      rw [List.inj_on_of_nodup_map h (List.mem_of_find?_eq_some hfind) hmem hsame]

/-- What a join makes of labels that occur once on the right: the value of the operation with the
sample of the same labels. -/
theorem mem_valuesOf_nestedJoin_iff {op : BinaryOp} {left right : List Sample}
    (h : (right.map (·.labels)).Nodup) {labels : LabelSet} {value : Float} :
    (labels, value) ∈ valuesOf (nestedJoin op left right) ↔
      ∃ s ∈ left, ∃ t ∈ right, s.labels = labels ∧ t.labels = labels ∧
        op.apply s.value t.value = value := by
  unfold valuesOf nestedJoin
  simp only [List.mem_map, List.mem_filterMap, Option.map_eq_some_iff, find?_labels_eq_some_iff h,
    Prod.mk.injEq]
  constructor
  · rintro ⟨_, ⟨s, hs, t, ⟨ht, hsame⟩, rfl⟩, rfl, rfl⟩
    exact ⟨s, hs, t, ht, rfl, hsame, rfl⟩
  · rintro ⟨s, hs, t, ht, rfl, hsame, rfl⟩
    exact ⟨_, ⟨s, hs, t, ⟨ht, hsame⟩, rfl⟩, rfl, rfl⟩

/-- A join has no labels twice that are there once on the left. -/
theorem nodup_labels_nestedJoin (op : BinaryOp) {left : List Sample}
    (h : (left.map (·.labels)).Nodup) (right : List Sample) :
    ((nestedJoin op left right).map (·.labels)).Nodup := by
  refine h.sublist (map_filterMap_sublist (fun s made hmade => ?_) left)
  obtain ⟨t, -, rfl⟩ := Option.map_eq_some_iff.1 hmade
  rfl

/-- Values of labels that occur once are there once. -/
theorem nodup_valuesOf {samples : List Sample} (h : (samples.map (·.labels)).Nodup) :
    (valuesOf samples).Nodup := by
  refine List.Nodup.of_map Prod.fst ?_
  rw [valuesOf, List.map_map]
  exact h

/-- Sums and products join in either order, where labels occur once on each side. -/
theorem valuesOf_nestedJoin_perm {op : BinaryOp} (hop : op = .add ∨ op = .mul)
    {left right : List Sample} (hleft : (left.map (·.labels)).Nodup)
    (hright : (right.map (·.labels)).Nodup) :
    (valuesOf (nestedJoin op left right)).Perm (valuesOf (nestedJoin op right left)) := by
  refine (List.perm_ext_iff_of_nodup (nodup_valuesOf (nodup_labels_nestedJoin op hleft right))
    (nodup_valuesOf (nodup_labels_nestedJoin op hright left))).2 fun ⟨labels, value⟩ => ?_
  rw [mem_valuesOf_nestedJoin_iff hright, mem_valuesOf_nestedJoin_iff hleft]
  -- The two samples of the labels change places.
  constructor
  · rintro ⟨s, hs, t, ht, hslabels, htlabels, rfl⟩
    exact ⟨t, ht, s, hs, htlabels, hslabels, op.apply_comm hop _ _⟩
  · rintro ⟨t, ht, s, hs, htlabels, hslabels, rfl⟩
    exact ⟨s, hs, t, ht, hslabels, htlabels, op.apply_comm hop _ _⟩

/-- Sums and products of two families, each of which has no labels twice, do not depend on the order
as far as values by labels go: there are the same labels with the same values, each of them once.
The samples, their instants and the context may differ. -/
theorem binaryOp_comm_by_labels {op : BinaryOp} (hop : op = .add ∨ op = .mul) {left right : Family}
    (hleft : (left.samples.map (·.labels)).Nodup) (hright : (right.samples.map (·.labels)).Nodup) :
    (valuesOf (binaryOp op left right).samples).Perm (valuesOf (binaryOp op right left).samples) ∧
      ((binaryOp op left right).samples.map (·.labels)).Nodup := by
  cases left with
  | empty =>
    rw [binaryOp_empty_left, binaryOp_empty_right]
    rcases hop with rfl | rfl
    · exact ⟨.refl _, hright⟩
    · exact ⟨.refl _, .nil⟩
  | populated left =>
    cases right with
    | empty =>
      rw [binaryOp_empty_left, binaryOp_empty_right]
      rcases hop with rfl | rfl
      · exact ⟨.refl _, hleft⟩
      · exact ⟨.refl _, .nil⟩
    | populated right =>
      rw [binaryOp_populated_populated, binaryOp_populated_populated, join_eq, join_eq,
        samples_ofSamples, samples_ofSamples]
      exact ⟨valuesOf_nestedJoin_perm hop hleft hright, nodup_labels_nestedJoin op hleft _⟩

/-- A sum of two zones, which are in another order on the right, and of which one is not a number on
the left. -/
theorem binaryOp_comm_by_labels_two_zones :
    let zone (name : String) : LabelSet := .ofPairs [("zone", name)]
    let nan : Float := 0.0 / 0.0
    let left := populated ⟨[⟨zone "a", 1000, 5.0⟩, ⟨zone "b", 2000, nan⟩], {}, by simp⟩
    let right := populated ⟨[⟨zone "b", 9000, 3.0⟩, ⟨zone "a", 8000, 1.0⟩], {}, by simp⟩
    (left.samples.map (·.labels)).Nodup ∧ (right.samples.map (·.labels)).Nodup ∧
      [(zone "a", 6.0), (zone "b", nan)].Perm (valuesOf (binaryOp .add right left).samples) := by
  intro zone nan left right
  have hleft : (left.samples.map (·.labels)).Nodup := by decide +kernel
  have hright : (right.samples.map (·.labels)).Nodup := by decide +kernel
  have hvalues : valuesOf (binaryOp .add left right).samples =
      [(zone "a", 6.0), (zone "b", nan)] := by decide +kernel
  rw [← hvalues]
  exact ⟨hleft, hright, (binaryOp_comm_by_labels (.inl rfl) hleft hright).1⟩

end Family

end MetricAlgebra
