import MetricAlgebra.Aggregation
import MetricAlgebra.Arithmetic
import MetricAlgebra.Histogram
import MetricAlgebra.LabelEdit
import MetricAlgebra.LabelFilter
import MetricAlgebra.ValueFilter
import MetricAlgebra.Proofs.RateProtocol

/-!
# Operators and what they make

The operators on one family as data, each with its arguments, so that there can be statements on
all of them and on pipelines of them. `Operator.Makes` says which samples an operator makes of a
batch, and `Operator.apply_cases` that its result is the family of just these samples under the
context that the operator leaves.
-/

namespace MetricAlgebra.Family

/-- A batch is the family of its samples. -/
theorem populated_eq_ofSamples (batch : Batch) :
    populated batch = ofSamples batch.context batch.samples := by
  unfold ofSamples
  rw [dif_neg batch.nonempty]

/-- The context of a list of samples that are some. -/
theorem context?_ofSamples {context : Context} {samples : List Sample} (h : samples ≠ []) :
    (ofSamples context samples).context? = some context := by
  unfold ofSamples
  rw [dif_neg h]
  rfl

/-- No other context than the given one is that of a list of samples. -/
theorem eq_of_mem_context?_ofSamples {context c : Context} {samples : List Sample}
    (h : c ∈ (ofSamples context samples).context?) : c = context := by
  by_cases hnil : samples = []
  · unfold ofSamples at h
    rw [dif_pos hnil] at h
    cases h
  · rw [context?_ofSamples hnil] at h
    exact (Option.some.inj h).symm

/-- An operator on one family, with its arguments. -/
inductive Operator where
  /-- Keeps the samples with labels that pass tests. -/
  | matchLabels (op : LabelComparison) (arguments : List String)
  /-- Keeps the samples with values in a relation to a threshold. -/
  | filterValues (relation : Comparison) (threshold : Float)
  /-- Combines every value with a number. -/
  | scalarOp (op : BinaryOp) (y : Float)
  /-- Negates every value. -/
  | negative
  /-- Makes one sample of each group. -/
  | aggregate (how : Reduction) (names : Option (List String))
  /-- Measures every sample against a past one, which a resolver gives by its answers. -/
  | lookBack (op : RateOp) (policy : MissPolicy)
      (answer : List Query → Except Error (List (Option Point)))
  /-- Turns cumulative buckets into the counts of intervals. -/
  | histogram (label : String) (unit : TimeUnit)
  /-- Asks for percentiles. -/
  | histogramPercentile (ranks : List Int32)
  /-- Changes the labels of every sample. -/
  | relabel (change : LabelSet → Except Error LabelSet)
  /-- Asks for a kind of downsampling. -/
  | downsample (kind : Downsampling)

namespace Operator

/-- The result of an operator on a family, with the patterns of an engine. -/
def apply (E : PatternEngine) : Operator → Family → Except Error Family
  | matchLabels op arguments, f => f.matchLabels E op arguments
  | filterValues relation threshold, f => .ok (f.filterValues relation threshold)
  | scalarOp op y, f => .ok (f.scalarOp op y)
  | negative, f => .ok f.negative
  | aggregate how names, f => .ok (f.aggregate how names)
  | lookBack op policy answer, f => ((op.run f policy (.recorded answer)).run.run []).1
  | histogram label unit, f => f.histogram label unit
  | histogramPercentile ranks, f => f.histogramPercentile ranks
  | relabel change, f => f.relabel change
  | downsample kind, f => .ok (f.downsample kind)

/-- The context that an operator leaves. -/
def contextAfter : Operator → Context → Context
  | histogram _ _, context => { context with isHistogram := true }
  | histogramPercentile ranks, context => { context with percentiles := some ranks }
  | downsample kind, context => { context with downsampling := kind }
  | _, context => context

/-- Whether samples are what an operator makes of a batch, with arguments that it accepts. -/
def Makes (E : PatternEngine) : Operator → Batch → List Sample → Prop
  | matchLabels op arguments, batch, made => ∃ filters,
      LabelFilter.ofArguments E op arguments = .ok filters ∧
      made = batch.samples.filter fun s => filters.all fun filter => filter.accepts s
  | filterValues relation threshold, batch, made =>
      made = batch.samples.filter fun s => relation.holds s.value threshold
  | scalarOp op y, batch, made =>
      made = batch.samples.map fun s => s.withValue (op.apply s.value y)
  | negative, batch, made => made = batch.samples.map fun s => s.withValue (-s.value)
  | aggregate how names, batch, made =>
      made = (tallies (groupLabels names) batch.samples).map fun (labels, tally) =>
        ⟨labels, tally.timestamp, tally.value how⟩
  | lookBack op policy answer, batch, made => ∃ window answers,
      op.window = .ok window ∧ answer (batch.samples.map (query window)) = .ok answers ∧
      answers.length = batch.samples.length ∧
      made = (batch.samples.zip answers).filterMap fun (s, answer) =>
        changed? policy window op.measure s answer
  | histogram label unit, batch, made => ∃ groups,
      unit.millis ≠ 0 ∧ Histogram.groups label batch.samples = .ok groups ∧
      made = groups.flatMap fun (series, buckets) =>
        Histogram.deaccumulate label unit.millis series buckets
  | histogramPercentile ranks, batch, made =>
      (∀ rank ∈ ranks, isRank rank = true) ∧ batch.context.isHistogram = true ∧
      made = batch.samples
  | relabel change, batch, made =>
      batch.samples.mapM (fun s => (change s.labels).map s.withLabels) = .ok made
  | downsample _, batch, made => made = batch.samples

end Operator

/-- A computation that succeeds has a first part that does. -/
theorem exists_ok_of_bind {α β : Type} {x : Except Error α} {f : α → Except Error β} {b : β}
    (h : x >>= f = .ok b) : ∃ a, x = .ok a ∧ f a = .ok b := by
  cases x with
  | error e => cases h
  | ok a => exact ⟨a, rfl, h⟩

/-- A function that may fail has succeeded on every item of a list, in order. -/
theorem forall₂_of_mapM {α β : Type} {g : α → Except Error β} :
    ∀ {as : List α} {bs : List β}, as.mapM g = .ok bs →
      List.Forall₂ (fun a b => g a = .ok b) as bs
  | [], bs, h => by
    obtain rfl := Except.ok.inj h
    exact .nil
  | a :: as, bs, h => by
    rw [List.mapM_cons] at h
    obtain ⟨b, hb, h⟩ := exists_ok_of_bind h
    obtain ⟨bs', hbs', hcons⟩ := exists_ok_of_bind h
    obtain rfl := Except.ok.inj hcons
    exact .cons hb (forall₂_of_mapM hbs')

/-- Looking back succeeds on a batch if the answers are as many as the samples. -/
theorem exists_answers_of_overWindow {batch : Batch} {window : Int64} {policy : MissPolicy}
    {answer : List Query → Except Error (List (Option Point))} {measure : Sample → Point → Float}
    {log : List (List Query)} {g : Family}
    (h : (((populated batch).overWindow window policy (.recorded answer) measure).run.run log).1 =
      .ok g) :
    ∃ answers, answer (batch.samples.map (query window)) = .ok answers ∧
      answers.length = batch.samples.length ∧
      g = ofSamples batch.context ((batch.samples.zip answers).filterMap fun (s, answer) =>
        changed? policy window measure s answer) := by
  rw [overWindow_recorded] at h
  obtain ⟨answers, hanswer, h⟩ := exists_ok_of_bind h
  split at h
  · rename_i hlength
    exact ⟨answers, hanswer, hlength, (Except.ok.inj h).symm⟩
  · cases h

/-- Percentiles are asked for on a histogram if all of them are ranks. -/
theorem histogramPercentile_cases {f g : Family} {ranks : List Int32}
    (h : f.histogramPercentile ranks = .ok g) :
    (∀ rank ∈ ranks, isRank rank = true) ∧
      ((f = empty ∧ g = empty) ∨ ∃ batch, f = populated batch ∧ batch.context.isHistogram = true ∧
        g = populated { batch with
          context := { batch.context with percentiles := some ranks } }) := by
  unfold histogramPercentile at h
  split at h
  · cases h
  · rename_i hfind
    refine ⟨fun rank hrank => ?_, ?_⟩
    · simpa using List.find?_eq_none.1 hfind rank hrank
    · cases f with
      | empty => exact .inl ⟨rfl, (Except.ok.inj h).symm⟩
      | populated batch =>
        dsimp only at h
        split at h
        · rename_i hhistogram
          exact .inr ⟨batch, rfl, hhistogram, (Except.ok.inj h).symm⟩
        · cases h

namespace Operator

variable {E : PatternEngine}

/-- What an operator does when it succeeds: of no data it makes no data, and of a batch the family
of the samples that it makes. -/
theorem apply_cases {op : Operator} {f g : Family} (h : op.apply E f = .ok g) :
    (f = empty ∧ g = empty) ∨ ∃ batch made, f = populated batch ∧ op.Makes E batch made ∧
      g = ofSamples (op.contextAfter batch.context) made := by
  cases op with
  | matchLabels op arguments =>
    obtain ⟨filters, hfilters, h⟩ := exists_ok_of_bind (h : f.matchLabels E op arguments = .ok g)
    obtain rfl := Except.ok.inj h
    cases f with
    | empty => exact .inl ⟨rfl, rfl⟩
    | populated batch => exact .inr ⟨batch, _, rfl, ⟨filters, hfilters, rfl⟩, rfl⟩
  | filterValues relation threshold | scalarOp op y | negative | aggregate how names =>
    obtain rfl := Except.ok.inj h
    cases f with
    | empty => exact .inl ⟨rfl, rfl⟩
    | populated batch => exact .inr ⟨batch, _, rfl, rfl, rfl⟩
  | lookBack op policy answer =>
    have hrun : ((op.run f policy (.recorded answer)).run.run []).1 = .ok g := h
    rw [RateOp.run_eq] at hrun
    cases hwindow : op.window with
    | error e =>
      rw [hwindow] at hrun
      cases hrun
    | ok window =>
      rw [hwindow] at hrun
      cases f with
      | empty => exact .inl ⟨rfl, (Except.ok.inj hrun).symm⟩
      | populated batch =>
        obtain ⟨answers, hanswer, hlength, hg⟩ := exists_answers_of_overWindow hrun
        exact .inr ⟨batch, _, rfl, ⟨window, answers, hwindow, hanswer, hlength, rfl⟩, hg⟩
  | histogram label unit =>
    have hrun : f.histogram label unit = .ok g := h
    unfold Family.histogram at hrun
    split at hrun
    · cases hrun
    · rename_i hunit
      cases f with
      | empty => exact .inl ⟨rfl, (Except.ok.inj hrun).symm⟩
      | populated batch =>
        obtain ⟨groups, hgroups, hg⟩ := exists_ok_of_bind hrun
        exact .inr ⟨batch, _, rfl, ⟨groups, hunit, hgroups, rfl⟩, (Except.ok.inj hg).symm⟩
  | histogramPercentile ranks =>
    obtain ⟨hranks, ⟨hf, hg⟩ | ⟨batch, hf, hhistogram, hg⟩⟩ := histogramPercentile_cases h
    · exact .inl ⟨hf, hg⟩
    · rw [populated_eq_ofSamples] at hg
      exact .inr ⟨batch, _, hf, ⟨hranks, hhistogram, rfl⟩, hg⟩
  | relabel change =>
    cases f with
    | empty => exact .inl ⟨rfl, (Except.ok.inj h).symm⟩
    | populated batch =>
      obtain ⟨made, hmade, hg⟩ := exists_ok_of_bind h
      exact .inr ⟨batch, made, rfl, hmade, (Except.ok.inj hg).symm⟩
  | downsample kind =>
    obtain rfl := Except.ok.inj h
    cases f with
    | empty => exact .inl ⟨rfl, rfl⟩
    | populated batch => exact .inr ⟨batch, _, rfl, rfl, populated_eq_ofSamples _⟩

/-- The result of operators one after the other, the first one first. -/
def applyAll (E : PatternEngine) (ops : List Operator) (f : Family) : Except Error Family :=
  ops.foldlM (fun f op => op.apply E f) f

/-- A pipeline that succeeds has a first operator that does, and a rest that does on its result. -/
theorem applyAll_cons {op : Operator} {ops : List Operator} {f g : Family}
    (h : applyAll E (op :: ops) f = .ok g) :
    ∃ f', op.apply E f = .ok f' ∧ applyAll E ops f' = .ok g := by
  unfold applyAll at h
  rw [List.foldlM_cons] at h
  exact exists_ok_of_bind h

end Operator

end MetricAlgebra.Family
