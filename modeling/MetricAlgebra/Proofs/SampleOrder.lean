import MetricAlgebra.Proofs.RollUp

/-!
# Samples in another order

A group has the same members in whatever order the samples come, and the greatest value, the least
value and the number of its members do not look at their order (`Reduction.Reduces.alike_of_perm`).
So a family and a permutation of it have the same aggregates by labels (`Family.aggregate_perm`).
Sums do depend on the order, since they are rounded at each step, and so do averages.
-/

namespace MetricAlgebra

open Binary64 Grouping

/-! ## Values -/

namespace Binary64

/-- A value is like itself, also if it is not a number. -/
theorem Alike.refl (x : Float) : Alike x x := by
  cases hx : x.isNaN with
  | true => exact .inl ⟨hx, hx⟩
  | false =>
    obtain ⟨a, ha⟩ := exists_rank hx
    exact .inr ((beq_iff x x).2 ⟨a, ha, ha⟩)

/-- An extreme of a list is one of the list in another order. -/
theorem IsExtreme.of_perm {r : Float → Float → Prop} {xs ys : List Float} {v : Float}
    (hperm : xs.Perm ys) (h : IsExtreme r xs v) : IsExtreme r ys v := by
  -- It is about the members alone.
  unfold IsExtreme at *
  simpa only [hperm.mem_iff] using h

end Binary64

/-- A greatest value, a least value and a count of values in one order are like those in another. -/
theorem Reduction.Reduces.alike_of_perm {how : Reduction}
    (hhow : how = .max ∨ how = .min ∨ how = .count) {xs ys : List Float} {v w : Float}
    (hperm : xs.Perm ys) (hv : how.Reduces xs v) (hw : how.Reduces ys w) : Alike v w := by
  rcases hhow with rfl | rfl | rfl
  · have hextreme : IsExtreme (fun x v => x ≤ v) xs v := hv
    exact (hextreme.of_perm hperm).alike preference_greater.antisymm hw
  · have hextreme : IsExtreme (fun x v => v ≤ x) xs v := hv
    exact (hextreme.of_perm hperm).alike preference_less.antisymm hw
  · obtain rfl : v = Float.ofNat xs.length := hv
    obtain rfl : w = Float.ofNat ys.length := hw
    rw [hperm.length_eq]
    exact .refl _

/-! ## Families -/

namespace Family

/-- Aggregates of samples in another order have the same labels, in another order perhaps. -/
theorem labels_reduced_perm (how : Reduction) (names : List String) {samples samples' : List Sample}
    (hperm : samples.Perm samples') :
    ((reduced how names samples).map (·.labels)).Perm
      ((reduced how names samples').map (·.labels)) := by
  rw [map_labels_reduced, map_labels_reduced]
  exact perm_eraseDups (hperm.map _)

/-- The greatest values, the least values and the counts of a family do not depend on the order of
its samples. A permutation of the family has the same labels, each of them once, with values that
are equal as numbers or both not numbers, under the same context. The order of the groups and the
instants may differ. -/
theorem aggregate_perm {how : Reduction} (hhow : how = .max ∨ how = .min ∨ how = .count)
    {f f' : Family} (hperm : f.samples.Perm f'.samples) (hcontext : f.context? = f'.context?)
    (names : Option (List String)) :
    let g := f.aggregate how names
    let g' := f'.aggregate how names
    (g.samples.map (·.labels)).Nodup ∧
      (g.samples.map (·.labels)).Perm (g'.samples.map (·.labels)) ∧
      (∀ s ∈ g.samples, ∀ s' ∈ g'.samples, s.labels = s'.labels → Alike s.value s'.value) ∧
      g.context? = g'.context? := by
  intro g g'
  have hsamples : g.samples = reduced how (names.getD []) f.samples := samples_aggregate f how names
  have hsamples' : g'.samples = reduced how (names.getD []) f'.samples :=
    samples_aggregate f' how names
  rw [hsamples, hsamples']
  refine ⟨?_, labels_reduced_perm how _ hperm, ?_, ?_⟩
  · rw [map_labels_reduced]
    exact nodup_eraseDups _
  · intro s hs s' hs' hlabels
    have hmakes := makesOf_of_mem_reduced hs
    have hmakes' := makesOf_of_mem_reduced hs'
    rw [← hlabels] at hmakes'
    -- The two groups have the same members.
    have hmembers := (hperm.filter fun t => groupKey (names.getD []) t = s.labels).map (·.value)
    exact hmakes.reduces.alike_of_perm hhow hmembers hmakes'.reduces
  · rw [context?_aggregate, context?_aggregate, hcontext]

/-- In two zones, one of which has zeros of both signs and the other one what is not a number, the
greatest values are like those in the opposite order, though the zeros have other signs. -/
theorem aggregate_perm_two_zones :
    let zone (name : String) : LabelSet := .ofPairs [("zone", name)]
    let nan : Float := 0.0 / 0.0
    let samples : List Sample := [⟨zone "a", 1000, 0.0⟩, ⟨zone "b", 2000, nan⟩,
      ⟨zone "a", 3000, -0.0⟩, ⟨zone "b", 4000, 7.0⟩]
    let f := populated ⟨samples, {}, by simp [samples]⟩
    let f' := populated ⟨samples.reverse, {}, by simp [samples]⟩
    f.samples.Perm f'.samples ∧ f.context? = f'.context? ∧
      ⟨zone "a", 1000, 0.0⟩ ∈ (f.aggregate .max (some ["zone"])).samples ∧
      ⟨zone "a", 3000, -0.0⟩ ∈ (f'.aggregate .max (some ["zone"])).samples ∧
      Alike 0.0 (-0.0) := by
  intro zone nan samples f f'
  have hperm : f.samples.Perm f'.samples := (List.reverse_perm samples).symm
  have hg : (f.aggregate .max (some ["zone"])).samples =
      [⟨zone "a", 1000, 0.0⟩, ⟨zone "b", 2000, nan⟩] := by decide +kernel
  have hg' : (f'.aggregate .max (some ["zone"])).samples =
      [⟨zone "b", 4000, nan⟩, ⟨zone "a", 3000, -0.0⟩] := by decide +kernel
  have hmem : ⟨zone "a", 1000, 0.0⟩ ∈ (f.aggregate .max (some ["zone"])).samples := by simp [hg]
  have hmem' : ⟨zone "a", 3000, -0.0⟩ ∈ (f'.aggregate .max (some ["zone"])).samples := by
    simp [hg']
  have hcontext : f.context? = f'.context? := rfl
  obtain ⟨-, -, hvalues, -⟩ := aggregate_perm (.inl rfl) hperm hcontext (some ["zone"])
  have hzeros := hvalues _ hmem _ hmem' rfl
  exact ⟨hperm, hcontext, hmem, hmem', hzeros⟩

end Family

end MetricAlgebra
