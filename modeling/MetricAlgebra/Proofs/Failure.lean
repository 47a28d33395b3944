import MetricAlgebra.Proofs.Operator

/-!
# Which failure is reported

What goes through a list step by step stops at the first step that fails, and reports the failure of
this step. `FirstFailure` names it where every step fails or succeeds by itself: if a function is
applied to each item (`mapM_eq_error_iff`), and if a state is passed on from item to item but does
not count for the failures (`foldlM_eq_error_iff`).

A function that fails for all arguments alike, or for none, can be applied to a whole list before
the next one is, in place of both to one item after the other (`Uniform.mapM_bind`).
-/

namespace MetricAlgebra

/-- Whether a failure is that of the first item of a list that fails. -/
inductive FirstFailure {α : Type} (fails : α → Error → Prop) : List α → Error → Prop where
  /-- The first item fails. -/
  | head {a : α} {as : List α} {e : Error} (h : fails a e) : FirstFailure fails (a :: as) e
  /-- The first item does not fail, and the failure is that of the first that does behind it. -/
  | tail {a : α} {as : List α} {e : Error} (ha : ∀ e', ¬ fails a e')
      (h : FirstFailure fails as e) : FirstFailure fails (a :: as) e

section Lists

variable {α β γ σ : Type} {fails : α → Error → Prop}

/-- What is done with the result alone does not count for the failures. -/
theorem map_eq_error_iff {x : Except Error α} {f : α → β} {e : Error} :
    x.map f = .error e ↔ x = .error e := by
  cases x with
  | error e' =>
    show (Except.error e' : Except Error β) = .error e ↔ _
    rw [Except.error.injEq, Except.error.injEq]
  | ok a => exact iff_of_false nofun nofun

/-- Of no items none fails. -/
theorem not_firstFailure_nil (e : Error) : ¬ FirstFailure fails [] e := nofun

/-- The first item comes before those behind it. -/
theorem firstFailure_cons_iff {a : α} {as : List α} {e : Error} :
    FirstFailure fails (a :: as) e ↔
      fails a e ∨ ((∀ e', ¬ fails a e') ∧ FirstFailure fails as e) := by
  constructor
  · intro h
    cases h with
    | head h => exact .inl h
    | tail ha h => exact .inr ⟨ha, h⟩
  · rintro (h | ⟨ha, h⟩)
    · exact .head h
    · exact .tail ha h

/-- There is a first item that fails exactly if there is one that fails. -/
theorem exists_firstFailure_iff {as : List α} :
    (∃ e, FirstFailure fails as e) ↔ ∃ a ∈ as, ∃ e, fails a e := by
  induction as with
  | nil => simp [not_firstFailure_nil]
  | cons a as ih =>
    simp only [firstFailure_cons_iff, exists_or, exists_and_left, ih, List.exists_mem_cons_iff]
    by_cases ha : ∃ e, fails a e
    · simp [ha]
    · simp [not_exists.1 ha]

/-- A function applied to every item fails with the failure of the first item that it fails for. -/
theorem mapM_eq_error_iff {g : α → Except Error β} {as : List α} {e : Error} :
    as.mapM g = .error e ↔ FirstFailure (fun a e => g a = .error e) as e := by
  induction as with
  | nil => exact iff_of_false nofun (not_firstFailure_nil e)
  | cons a as ih =>
    rw [List.mapM_cons, firstFailure_cons_iff, ← ih]
    cases g a with
    | error e' =>
      show (Except.error e' : Except Error (List β)) = .error e ↔ _
      rw [Except.error.injEq, Except.error.injEq]
      exact (or_iff_left fun h => h.1 e' rfl).symm
    | ok b =>
      have hfirst : ∀ e', ¬ (Except.ok b : Except Error β) = .error e' := nofun
      cases as.mapM g with
      | error e' => exact ⟨fun h => .inr ⟨hfirst, h⟩, fun h => h.resolve_left (hfirst e) |>.2⟩
      | ok bs => exact iff_of_false nofun fun h => nomatch h.resolve_left (hfirst e) |>.2

/-- A function applied to every item succeeds with the results of the items, in order. -/
theorem mapM_eq_ok_iff {g : α → Except Error β} {as : List α} {bs : List β} :
    as.mapM g = .ok bs ↔ List.Forall₂ (fun a b => g a = .ok b) as bs := by
  refine ⟨Family.forall₂_of_mapM, fun h => ?_⟩
  induction h with
  | nil => rfl
  | cons hb _ ih =>
    rw [List.mapM_cons, hb, ih]
    rfl

/-- A state that does not count for the failures of steps is passed on up to the first step that
fails. -/
theorem foldlM_eq_error_iff {step : σ → α → Except Error σ}
    (hstep : ∀ s a e, step s a = .error e ↔ fails a e) {as : List α} (s : σ) {e : Error} :
    as.foldlM step s = .error e ↔ FirstFailure fails as e := by
  induction as generalizing s with
  | nil => exact iff_of_false nofun (not_firstFailure_nil e)
  | cons a as ih =>
    rw [List.foldlM_cons, firstFailure_cons_iff]
    cases hs : step s a with
    | error e' =>
      have hfails : fails a e' := (hstep s a e').1 hs
      have hsame : fails a e ↔ e' = e := by
        rw [← hstep s a e, hs, Except.error.injEq]
      have hstop : (.error e' >>= fun s => as.foldlM step s) = (.error e' : Except Error σ) := rfl
      rw [hstop, Except.error.injEq, hsame]
      exact (or_iff_left fun h => h.1 e' hfails).symm
    | ok s' =>
      have hfirst : ∀ e', ¬ fails a e' := by
        intro e' hfails
        rw [← hstep s a e', hs] at hfails
        cases hfails
      have hgo : (.ok s' >>= fun s => as.foldlM step s) = as.foldlM step s' := rfl
      rw [hgo, ih s']
      exact ⟨fun h => .inr ⟨hfirst, h⟩, fun h => (h.resolve_left (hfirst e)).2⟩

/-- Whether a function fails for all arguments alike or for none. -/
inductive Uniform (g : α → Except Error β) : Prop where
  /-- It fails with one failure. -/
  | fails (e : Error) (h : ∀ a, g a = .error e)
  /-- It succeeds. -/
  | succeeds (value : α → β) (h : ∀ a, g a = .ok (value a))

/-- A function is uniform if its arguments do not count for its failures. -/
theorem Uniform.of_eq_error_iff {g : α → Except Error β} {failure : Error → Prop}
    (h : ∀ a e, g a = .error e ↔ failure e) : Uniform g := by
  by_cases hfails : ∃ e, failure e
  · obtain ⟨e, he⟩ := hfails
    exact .fails e fun a => (h a e).2 he
  · have hvalue : ∀ a, ∃ b, g a = .ok b := by
      intro a
      cases hga : g a with
      | error e => exact absurd ⟨e, (h a e).1 hga⟩ hfails
      | ok b => exact ⟨b, rfl⟩
    choose value hvalue using hvalue
    exact .succeeds value hvalue

/-- What is done to a part of an argument uniformly, and put back into the argument, is done to the
argument uniformly. -/
theorem Uniform.map_comp {g : α → Except Error β} (hg : Uniform g) (part : σ → α)
    (putBack : σ → β → γ) : Uniform fun s => (g (part s)).map (putBack s) := by
  cases hg with
  | fails e h =>
    refine .fails e fun s => ?_
    rw [h]
    rfl
  | succeeds value h =>
    refine .succeeds (fun s => putBack s (value (part s))) fun s => ?_
    rw [h]
    rfl

/-- On a list with an item, a uniform function fails as it does on the item. -/
theorem Uniform.mapM_eq_error_iff {g : α → Except Error β} (hg : Uniform g) {as : List α} {a : α}
    (ha : a ∈ as) {e : Error} : as.mapM g = .error e ↔ g a = .error e := by
  rw [MetricAlgebra.mapM_eq_error_iff]
  cases hg with
  | fails e' h =>
    simp only [h, Except.error.injEq]
    obtain ⟨first, rest, rfl⟩ := List.exists_cons_of_ne_nil (List.ne_nil_of_mem ha)
    rw [firstFailure_cons_iff]
    exact or_iff_left fun hrest => hrest.1 e' rfl
  | succeeds value h =>
    have hnone : ∀ a e, ¬ g a = .error e := fun a e => by rw [h]; nofun
    refine iff_of_false (fun hfirst => ?_) (hnone a e)
    obtain ⟨b, -, e', hb⟩ := exists_firstFailure_iff.1 ⟨e, hfirst⟩
    exact hnone b e' hb

/-- A uniform function can be applied to a whole list before another one is. -/
theorem Uniform.mapM_bind {g : α → Except Error β} (hg : Uniform g) (h : β → Except Error γ)
    (as : List α) : (as.mapM fun a => g a >>= h) = as.mapM g >>= fun bs => bs.mapM h := by
  cases hg with
  | fails e hfails =>
    -- On both sides the first item fails, if there is one.
    cases as with
    | nil => rfl
    | cons a as =>
      rw [List.mapM_cons, List.mapM_cons, hfails]
      rfl
  | succeeds value hvalue =>
    obtain rfl : g = fun a => pure (value a) := funext hvalue
    calc (as.mapM fun a => pure (value a) >>= h)
        = as.mapM fun a => h (value a) := by simp only [pure_bind]
      _ = (as.map value).mapM h := List.mapM_map.symm
      _ = as.mapM (fun a => pure (value a)) >>= fun bs => bs.mapM h := by
        rw [List.mapM_pure, pure_bind]

end Lists

end MetricAlgebra
