import MetricAlgebra.Lookback.Store
import MetricAlgebra.Proofs.RateProtocol
import MetricAlgebra.Proofs.Join

/-!
# Batches are their queries

However a store is asked, by batches, one by one or through what passes the questions on, a batch is
answered by the answers to its queries, at their places (`Store.Access.batch_eq`). What an operator
makes of a family is therefore made of each sample alone (`Family.RateOp.run_ofSamples`): it goes
below a concatenation, and a label filter goes below it (`Store.batching_transparent`).
-/

namespace MetricAlgebra

open Family

variable {m : Type → Type} [Monad m]

/-- The ways to ask a store: itself, one query at a time, and through a source that passes the
questions on, of which any can come before any other. -/
inductive Store.Access (store : Store) : Source m → Prop
  | itself : store.Access store.source
  | oneByOne {source : Source m} : store.Access source →
      store.Access { lookup := source.lookup }
  | forward {source : Source m} : store.Access source → store.Access source.forward

/-- The past point that a sample is measured against: the one that the store has, or else the one
that the policy puts in its place. -/
def Store.past? (store : Store) (policy : MissPolicy) (window : Int64) (s : Sample) :
    Option Point :=
  store.lookup (query window s) <|> policy.baseline? s (query window s)

section Past

variable {store : Store} {policy : MissPolicy} {window : Int64} {s : Sample}

/-- A point that the store has comes before the policy. -/
theorem Store.past?_of_found {past : Point} (h : store.lookup (query window s) = some past) :
    store.past? policy window s = some past := by
  unfold past?
  rw [h]
  rfl

/-- Where the store has no point, the policy is left. -/
theorem Store.past?_of_missing (h : store.lookup (query window s) = none) :
    store.past? policy window s = policy.baseline? s (query window s) := by
  unfold past?
  rw [h]
  rfl

end Past

/-- What an operator makes of a sample with a store: nothing if there is no past point. -/
def Family.RateOp.measured? (op : RateOp) (store : Store) (policy : MissPolicy) (window : Int64)
    (s : Sample) : Option Sample :=
  (store.past? policy window s).map fun past => s.withValue (op.value s past)

namespace Store.Access

variable {store : Store} {source : Source m}

/-- A query has the answer of the store. -/
theorem lookup_eq (h : store.Access source) (q : Query) :
    source.lookup q = pure (store.lookup q) := by
  induction h with
  | itself => rfl
  | oneByOne _ ih => exact ih
  | forward _ ih => exact ih

variable [LawfulMonad m]

/-- A batch has the answers of the store to its queries, in their order. -/
theorem batch_eq (h : store.Access source) (queries : List Query) :
    source.batch queries = pure (queries.map store.lookup) := by
  induction h with
  | itself => rfl
  | @oneByOne source h _ =>
    -- The queries are asked one by one, and no answer is a failure.
    have hlookup : source.lookup = fun q => pure (store.lookup q) := funext h.lookup_eq
    show queries.mapM source.lookup = _
    rw [hlookup, List.mapM_pure]
  | forward _ ih => exact ih

/-- There are as many answers as queries. -/
theorem resolve_eq (h : store.Access source) (queries : List Query) :
    source.batch.resolve queries = pure (queries.map store.lookup) := by
  unfold Resolver.resolve
  rw [h.batch_eq, pure_bind, if_pos (List.length_map _)]

end Store.Access

namespace Family

variable [LawfulMonad m] {store : Store} {source : Source m}

/-- With a store, an operator makes a family of each of its samples alone. -/
theorem RateOp.run_ofSamples (hsource : store.Access source) {op : RateOp} {window : Int64}
    (hwindow : op.Accepts window) (policy : MissPolicy) (context : Context)
    (samples : List Sample) :
    op.run (ofSamples context samples) policy source.batch =
      pure (ofSamples context (samples.filterMap (op.measured? store policy window))) := by
  rw [run_of_accepts hwindow]
  by_cases hnil : samples = []
  · rw [hnil]
    rfl
  · -- Each sample is put together with the answer to its own query.
    have hzip : samples.zip ((samples.map (query window)).map store.lookup) =
        samples.map fun s => (s, store.lookup (query window s)) := by
      rw [List.map_map, ← List.map_prod_left_eq_zip]
      rfl
    have hmeasured : (fun s => changed? policy window op.measure s
        (store.lookup (query window s))) = op.measured? store policy window := by
      rw [measure_eq_value]
      rfl
    rw [ofSamples, dif_neg hnil, overWindow, hsource.resolve_eq, pure_bind]
    dsimp only
    rw [hzip, List.filterMap_map, ← hmeasured]
    rfl

/-- What an operator makes of a sample has its labels. -/
theorem RateOp.labels_of_measured? {op : RateOp} {policy : MissPolicy} {window : Int64}
    {s t : Sample} (h : op.measured? store policy window s = some t) : t.labels = s.labels := by
  obtain ⟨past, -, rfl⟩ := Option.map_eq_some_iff.1 h
  rfl

/-- A filter on labels goes below an operator. -/
theorem RateOp.run_keepLabels (hsource : store.Access source) {op : RateOp} {window : Int64}
    (hwindow : op.Accepts window) (policy : MissPolicy) (keep : LabelSet → Bool) (f : Family) :
    (do
      let g ← op.run f policy source.batch
      pure (g.keepLabels keep)) = op.run (f.keepLabels keep) policy source.batch := by
  obtain ⟨context, samples, rfl⟩ := exists_eq_ofSamples f
  have hsamples : (samples.filterMap (op.measured? store policy window)).filter
      (fun s => keep s.labels) =
        (samples.filter fun s => keep s.labels).filterMap (op.measured? store policy window) := by
    rw [List.filter_filterMap, List.filterMap_filter]
    congr 1
    funext s
    -- A sample that is left out is left out with the filter too; another one keeps its labels.
    cases h : op.measured? store policy window s with
    | none => simp
    | some t => rw [Option.filter_some, labels_of_measured? h]
  unfold keepLabels
  rw [filter_ofSamples, run_ofSamples hsource hwindow, run_ofSamples hsource hwindow, pure_bind,
    filter_ofSamples, hsamples]

/-- A label filter and an operator are applied in either order, failures of the filter included. -/
theorem RateOp.run_matchLabels (E : PatternEngine) (hsource : store.Access source) {op : RateOp}
    {window : Int64} (hwindow : op.Accepts window) (policy : MissPolicy) (f : Family)
    (comparison : LabelComparison) (arguments : List String) :
    (do
      let g ← op.run f policy source.batch
      ExceptT.mk (pure (g.matchLabels E comparison arguments))) =
    (do
      let g ← ExceptT.mk (pure (f.matchLabels E comparison arguments))
      op.run g policy source.batch) := by
  cases hfilters : LabelFilter.ofArguments E comparison arguments with
  | error e =>
    -- The filter fails on every family, and the operator on none.
    have hfails (g : Family) : g.matchLabels E comparison arguments = .error e := by
      unfold matchLabels
      rw [hfilters]
      rfl
    obtain ⟨context, samples, rfl⟩ := exists_eq_ofSamples f
    simp only [hfails]
    rw [run_ofSamples hsource hwindow, pure_bind]
    refine ExceptT.ext ?_
    rw [ExceptT.run_bind, ExceptT.run_mk, pure_bind]
  | ok filters =>
    have hkeep (g : Family) : g.matchLabels E comparison arguments =
        .ok (g.keepLabels fun labels => filters.all fun filter => filter.acceptsLabels labels) :=
      matchLabels_of_ok hfilters g
    have hpure (g : Family) : ExceptT.mk (pure (.ok g)) = (pure g : ExceptT Error m Family) := rfl
    simp only [hkeep, hpure, pure_bind]
    exact run_keepLabels hsource hwindow policy _ f

end Family

/-- Batches are transparent. Whichever way a store is asked, a batch has the answers to its queries
at their places. Therefore an operator with an accepted range makes of a family what it makes of
each sample alone: of two lists of samples under one context, one behind the other, what it makes of
them one behind the other; and of what a label filter leaves, what the filter leaves of what it
makes. -/
theorem Store.batching_transparent [LawfulMonad m] (E : PatternEngine) {store : Store}
    {source : Source m} (hsource : store.Access source) :
    (∀ queries, source.batch queries = pure (queries.map store.lookup)) ∧
    ∀ (op : RateOp) (window : Int64), op.Accepts window → ∀ policy : MissPolicy,
      (∀ context samples, op.run (ofSamples context samples) policy source.batch =
        pure (ofSamples context (samples.filterMap (op.measured? store policy window)))) ∧
      (∀ context first second, ∃ f g,
        op.run (ofSamples context first) policy source.batch = pure f ∧
        op.run (ofSamples context second) policy source.batch = pure g ∧
        op.run (ofSamples context (first ++ second)) policy source.batch =
          pure (ofSamples context (f.samples ++ g.samples))) ∧
      ∀ f comparison arguments,
        (do
          let g ← op.run f policy source.batch
          ExceptT.mk (pure (g.matchLabels E comparison arguments))) =
        (do
          let g ← ExceptT.mk (pure (f.matchLabels E comparison arguments))
          op.run g policy source.batch) := by
  refine ⟨hsource.batch_eq, fun op window hwindow policy => ?_⟩
  have hrun := RateOp.run_ofSamples hsource hwindow policy
  refine ⟨hrun, fun context first second => ?_, fun f comparison arguments =>
    RateOp.run_matchLabels E hsource hwindow policy f comparison arguments⟩
  -- What is made of each sample does not depend on the others, nor on its place.
  refine ⟨_, _, hrun context first, hrun context second, ?_⟩
  rw [hrun, List.filterMap_append, samples_ofSamples, samples_ofSamples]

set_option maxRecDepth 10000 in
/-- Three series, of which the store does not know the second, asked for one by one through a source
that passes the questions on. -/
theorem Store.batching_transparent_three_series :
    let service (name : String) : LabelSet := .ofPairs [("service", name)]
    let store := (Store.empty.record (service "a") 1000 1.0).record (service "b") 1000 2.0
    let source : Source Id := { lookup := store.source.forward.lookup }
    source.batch [⟨service "b", 5000⟩, ⟨service "c", 5000⟩, ⟨service "a", 5000⟩] =
        pure [some ⟨1000, 2.0⟩, none, some ⟨1000, 1.0⟩] ∧
      (RateOp.rate "5s").run (ofSamples {} [⟨service "a", 10000, 19.0⟩, ⟨service "c", 10000, 7.0⟩,
          ⟨service "b", 10000, 11.0⟩]) .skip source.batch =
        pure (ofSamples {} [⟨service "a", 10000, 2.0⟩, ⟨service "b", 10000, 1.0⟩]) := by
  intro service store source
  have hsource : store.Access source := .oneByOne (.forward .itself)
  have haccepts : (RateOp.rate "5s").Accepts 5000 := ⟨rfl, by decide⟩
  obtain ⟨hbatch, hops⟩ := Store.batching_transparent Pattern.engine hsource
  obtain ⟨hrun, -, -⟩ := hops (.rate "5s") 5000 haccepts .skip
  rw [hbatch, hrun]
  have hanswers : [⟨service "b", 5000⟩, ⟨service "c", 5000⟩, ⟨service "a", 5000⟩].map store.lookup =
      [some ⟨1000, 2.0⟩, none, some ⟨1000, 1.0⟩] := by decide +kernel
  have hmeasured : [⟨service "a", 10000, 19.0⟩, ⟨service "c", 10000, 7.0⟩,
      ⟨service "b", 10000, 11.0⟩].filterMap ((RateOp.rate "5s").measured? store .skip 5000) =
        [⟨service "a", 10000, 2.0⟩, ⟨service "b", 10000, 1.0⟩] := by decide +kernel
  rw [hanswers, hmeasured]
  exact ⟨rfl, rfl⟩

end MetricAlgebra
