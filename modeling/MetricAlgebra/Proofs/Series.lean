import MetricAlgebra.Pattern
import MetricAlgebra.Proofs.Grouping
import MetricAlgebra.Proofs.Operator

/-!
# What operators do to series and contexts

A sample belongs to a series at an instant. Operators that are not there to regroup or rename
series keep the ones that they are given, in order, or some of them: none is made up, repeated or
moved. The context is the one given, save for the one thing that three operators set in it. Both
carry over from one operator to pipelines (`operators_keep_series_and_context`).
-/

namespace MetricAlgebra

/-- The series that a sample belongs to, and its instant. -/
def Sample.series (s : Sample) : LabelSet × Timestamp := (s.labels, s.timestamp)

/-- Images that agree with those of what they come from are some of these, in order. -/
theorem map_filterMap_sublist {α β γ : Type} {g : α → Option β} {p : β → γ} {q : α → γ}
    (h : ∀ a b, g a = some b → p b = q a) (as : List α) :
    ((as.filterMap g).map p).Sublist (as.map q) := by
  induction as with
  | nil => exact .slnil
  | cons a as ih =>
    cases hg : g a with
    | none =>
      rw [List.filterMap_cons_none hg, List.map_cons]
      exact ih.cons _
    | some b =>
      rw [List.filterMap_cons_some hg, List.map_cons, List.map_cons, h a b hg]
      exact ih.cons_cons _

/-- Images that agree with those of what they come from are the same, in order. -/
theorem map_eq_of_mapM {α β γ : Type} {g : α → Except Error β} {p : β → γ} {q : α → γ}
    (h : ∀ a b, g a = .ok b → p b = q a) {as : List α} {bs : List β} (hbs : as.mapM g = .ok bs) :
    bs.map p = as.map q :=
  (Grouping.map_eq_of_forall₂ (fun a b hb => (h a b hb).symm) (Family.forall₂_of_mapM hbs)).symm

namespace Family

/-- The series of a family with their instants, in order. -/
def series (f : Family) : List (LabelSet × Timestamp) := f.samples.map Sample.series

/-- Other values do not change the series of samples. -/
theorem map_series_withValue (samples : List Sample) (g : Sample → Float) :
    (samples.map fun s => s.withValue (g s)).map Sample.series = samples.map Sample.series := by
  rw [List.map_map]
  rfl

/-- The values of a family do not count for its series. -/
theorem series_mapValues (f : Family) (g : Float → Float) : (f.mapValues g).series = f.series := by
  cases f with
  | empty => rfl
  | populated batch =>
    unfold series mapValues
    rw [samples_ofSamples]
    exact map_series_withValue batch.samples fun s => g s.value

/-- The values of a family do not count for its context. -/
theorem context?_mapValues (f : Family) (g : Float → Float) :
    (f.mapValues g).context? = f.context? := by
  cases f with
  | empty => rfl
  | populated batch => exact context?_ofSamples (by simpa using batch.nonempty)

/-- What is measured against the past stays the series that it was. -/
theorem series_of_changed? {policy : MissPolicy} {window : Int64} {measure : Sample → Point → Float}
    {s made : Sample} {answer : Option Point}
    (h : changed? policy window measure s answer = some made) : made.series = s.series := by
  obtain ⟨past, -, rfl⟩ := Option.map_eq_some_iff.1 h
  rfl

/-! ## Joins -/

/-- A join keeps some of the series on the left. -/
theorem series_join_sublist (op : BinaryOp) (left right : Batch) :
    (join op left right).series.Sublist (populated left).series := by
  unfold join series
  rw [samples_ofSamples]
  refine map_filterMap_sublist (fun s made h => ?_) left.samples
  obtain ⟨y, -, rfl⟩ := Option.map_eq_some_iff.1 h
  rfl

/-- The context of a join is the one on the left. -/
theorem eq_of_mem_context?_join {op : BinaryOp} {left right : Batch} {c : Context}
    (h : c ∈ (join op left right).context?) : c = left.context := by
  unfold join at h
  exact eq_of_mem_context?_ofSamples h

/-- Two batches are joined, whatever the operation. -/
theorem binaryOp_populated_populated (op : BinaryOp) (left right : Batch) :
    binaryOp op (populated left) (populated right) = join op left right := by
  cases op <;> rfl

/-- A batch on the left gives the series, not all of them perhaps, and the context. -/
theorem binaryOp_populated (op : BinaryOp) (left : Batch) (right : Family) :
    (binaryOp op (populated left) right).series.Sublist (populated left).series ∧
      ∀ c ∈ (binaryOp op (populated left) right).context?, c = left.context := by
  cases right with
  | populated right =>
    rw [binaryOp_populated_populated]
    exact ⟨series_join_sublist op left right, fun c hc => eq_of_mem_context?_join hc⟩
  | empty =>
    cases op with
    | mul => exact ⟨List.nil_sublist _, fun c hc => by cases hc⟩
    | add => exact ⟨.refl _, fun c hc => (Option.some.inj hc).symm⟩
    | sub => exact ⟨.refl _, fun c hc => (Option.some.inj hc).symm⟩
    | div =>
      have hdiv : binaryOp .div (populated left) empty =
        (populated left).mapValues fun x => BinaryOp.div.apply x 0.0 := rfl
      rw [hdiv, series_mapValues, context?_mapValues]
      exact ⟨.refl _, fun c hc => (Option.some.inj hc).symm⟩

/-- With no data on the left, the right family gives the series, all of them, and the context. -/
theorem binaryOp_empty {op : BinaryOp} {right : Family}
    (h : (binaryOp op empty right).isEmpty = false) :
    (binaryOp op empty right).series = right.series ∧
      (binaryOp op empty right).context? = right.context? := by
  cases right with
  | empty =>
    cases op <;> exact ⟨rfl, rfl⟩
  | populated right =>
    cases op with
    | mul => cases h
    | add => exact ⟨rfl, rfl⟩
    | sub =>
      have hsub : binaryOp .sub empty (populated right) = (populated right).mapValues (-·) := rfl
      rw [hsub, series_mapValues, context?_mapValues]
      exact ⟨rfl, rfl⟩
    | div =>
      have hdiv : binaryOp .div empty (populated right) =
        (populated right).mapValues (0.0 / ·) := rfl
      rw [hdiv, series_mapValues, context?_mapValues]
      exact ⟨rfl, rfl⟩

namespace Operator

variable {E : PatternEngine}

/-! ## One operator -/

/-- What an operator keeps of the samples that it is given. Filters keep samples as they are;
percentiles and downsampling keep all of them; arithmetic keeps all series and rates some of them.
A change of labels keeps instants and values. Groups and intervals are other samples. -/
def Keeps : Operator → List Sample → List Sample → Prop
  | matchLabels _ _, before, after => after.Sublist before
  | filterValues _ _, before, after => after.Sublist before
  | scalarOp _ _, before, after => after.map Sample.series = before.map Sample.series
  | negative, before, after => after.map Sample.series = before.map Sample.series
  | aggregate _ _, _, _ => True
  | lookBack _ _ _, before, after =>
    (after.map Sample.series).Sublist (before.map Sample.series)
  | histogram _ _, _, _ => True
  | histogramPercentile _, before, after => after = before
  | relabel _, before, after =>
    after.map (fun s => (s.timestamp, s.value)) = before.map fun s => (s.timestamp, s.value)
  | downsample _, before, after => after = before

/-- Whether an operator is not there to make other series. -/
def keepsSeries : Operator → Bool
  | aggregate _ _ | histogram _ _ | relabel _ => false
  | _ => true

/-- Where there is nothing, nothing is kept. -/
theorem keeps_nil (op : Operator) : op.Keeps [] [] := by
  cases op with
  | matchLabels _ _ | filterValues _ _ | lookBack _ _ _ => exact .slnil
  | scalarOp _ _ | negative | histogramPercentile _ | relabel _ | downsample _ => rfl
  | aggregate _ _ | histogram _ _ => trivial

/-- What an operator makes of a batch keeps what it should of the samples. -/
theorem Makes.keeps {op : Operator} {batch : Batch} {made : List Sample}
    (h : op.Makes E batch made) : op.Keeps batch.samples made := by
  cases op with
  | matchLabels op arguments =>
    obtain ⟨filters, -, rfl⟩ := h
    exact List.filter_sublist
  | filterValues relation threshold =>
    obtain rfl := h
    exact List.filter_sublist
  | scalarOp op y =>
    obtain rfl := h
    exact map_series_withValue batch.samples fun s => op.apply s.value y
  | negative =>
    obtain rfl := h
    exact map_series_withValue batch.samples fun s => -s.value
  | aggregate how names => trivial
  | lookBack op policy answer =>
    obtain ⟨window, answers, -, -, hlength, rfl⟩ := h
    -- Every answer stands beside its sample, and what is made of the two has the sample's place.
    have hfst : (batch.samples.zip answers).map Prod.fst = batch.samples :=
      List.map_fst_zip hlength.ge
    have hseries : batch.samples.map Sample.series =
        (batch.samples.zip answers).map fun pair => pair.1.series := by
      conv_lhs => rw [← hfst, List.map_map]
      rfl
    show List.Sublist _ (batch.samples.map Sample.series)
    rw [hseries]
    exact map_filterMap_sublist (fun _ _ hmade => series_of_changed? hmade) _
  | histogram label unit => trivial
  | histogramPercentile ranks => exact h.2.2
  | relabel change =>
    refine map_eq_of_mapM (fun s made hmade => ?_) h
    cases hlabels : change s.labels with
    | error e =>
      rw [hlabels] at hmade
      cases hmade
    | ok labels =>
      rw [hlabels] at hmade
      obtain rfl := Except.ok.inj hmade
      rfl
  | downsample kind => exact h

/-- The samples of a result keep what they should of the samples given. -/
theorem apply_keeps {op : Operator} {f g : Family} (h : op.apply E f = .ok g) :
    op.Keeps f.samples g.samples := by
  obtain ⟨rfl, rfl⟩ | ⟨batch, made, rfl, hmade, rfl⟩ := apply_cases h
  · exact op.keeps_nil
  · rw [samples_ofSamples]
    exact hmade.keeps

/-- The context of a result is the one given, with what the operator sets in it. -/
theorem apply_context {op : Operator} {f g : Family} (h : op.apply E f = .ok g) :
    ∀ c ∈ g.context?, ∃ c₀ ∈ f.context?, c = op.contextAfter c₀ := by
  intro c hc
  obtain ⟨rfl, rfl⟩ | ⟨batch, made, rfl, -, rfl⟩ := apply_cases h
  · cases hc
  · exact ⟨batch.context, rfl, eq_of_mem_context?_ofSamples hc⟩

/-! ## Pipelines -/

/-- An operator that is not there to make other series keeps some of those given. -/
theorem Keeps.series_sublist {op : Operator} {before after : List Sample}
    (h : op.Keeps before after) (hop : op.keepsSeries = true) :
    (after.map Sample.series).Sublist (before.map Sample.series) := by
  cases op with
  | matchLabels _ _ | filterValues _ _ => exact List.Sublist.map _ h
  | scalarOp _ _ | negative => exact h ▸ .refl _
  | lookBack _ _ _ => exact h
  | histogramPercentile _ | downsample _ =>
    obtain rfl := h
    exact .refl _
  | aggregate _ _ | histogram _ _ | relabel _ => cases hop

/-- A pipeline of operators that are not there to make other series keeps some of those given. -/
theorem applyAll_series_sublist {ops : List Operator} {f g : Family}
    (h : applyAll E ops f = .ok g) (hops : ∀ op ∈ ops, op.keepsSeries = true) :
    g.series.Sublist f.series := by
  induction ops generalizing f with
  | nil =>
    obtain rfl := Except.ok.inj h
    exact .refl _
  | cons op ops ih =>
    obtain ⟨f', hf', hg⟩ := applyAll_cons h
    have hrest : g.series.Sublist f'.series :=
      ih hg fun op' hop' => hops op' (List.mem_cons_of_mem op hop')
    exact hrest.trans ((apply_keeps hf').series_sublist (hops op (List.mem_cons_self ..)))

/-- The context at the end of a pipeline is the one at its start, with what the operators set in it
one after the other. -/
theorem applyAll_context {ops : List Operator} {f g : Family} (h : applyAll E ops f = .ok g) :
    ∀ c ∈ g.context?, ∃ c₀ ∈ f.context?, c = ops.foldl (fun c op => op.contextAfter c) c₀ := by
  induction ops generalizing f with
  | nil =>
    obtain rfl := Except.ok.inj h
    exact fun c hc => ⟨c, hc, rfl⟩
  | cons op ops ih =>
    obtain ⟨f', hf', hg⟩ := applyAll_cons h
    intro c hc
    obtain ⟨c₁, hc₁, rfl⟩ := ih hg c hc
    obtain ⟨c₀, hc₀, rfl⟩ := apply_context hf' c₁ hc₁
    exact ⟨c₀, hc₀, rfl⟩

end Operator

/-- Operators never make up, repeat or move series, and carry the context along. The samples of a
result keep of those given what `Operator.Keeps` says, and the context is as
`Operator.contextAfter` says. An operation on two families has the series, or some of them, and the
context of the left one, and if that is empty all series and the context of the right one. The same
holds along pipelines. -/
theorem operators_keep_series_and_context (E : PatternEngine) :
    (∀ (op : Operator) (f g : Family), op.apply E f = .ok g →
      op.Keeps f.samples g.samples ∧ ∀ c ∈ g.context?, ∃ c₀ ∈ f.context?, c = op.contextAfter c₀) ∧
    (∀ (op : BinaryOp) (left : Batch) (right : Family),
      (binaryOp op (populated left) right).series.Sublist (populated left).series ∧
        ∀ c ∈ (binaryOp op (populated left) right).context?, c = left.context) ∧
    (∀ (op : BinaryOp) (right : Family), (binaryOp op empty right).isEmpty = false →
      (binaryOp op empty right).series = right.series ∧
        (binaryOp op empty right).context? = right.context?) ∧
    ∀ (ops : List Operator) (f g : Family), Operator.applyAll E ops f = .ok g →
      ((∀ op ∈ ops, op.keepsSeries = true) → g.series.Sublist f.series) ∧
        ∀ c ∈ g.context?, ∃ c₀ ∈ f.context?, c = ops.foldl (fun c op => op.contextAfter c) c₀ :=
  ⟨fun _ _ _ h => ⟨Operator.apply_keeps h, Operator.apply_context h⟩, binaryOp_populated,
    fun _ _ h => binaryOp_empty h,
    fun _ _ _ h => ⟨Operator.applyAll_series_sublist h, Operator.applyAll_context h⟩⟩

set_option maxRecDepth 10000 in
/-- Of two buckets, an instant rate leaves out the one without a past value; the rest of the
pipeline keeps the other where it is and sets percentiles and downsampling beside the mark of
histograms. Taken from no data, all is kept. -/
theorem operators_keep_series_and_context_skip :
    let bucket : LabelSet := .ofPairs [("le", "5")]
    let f := populated ⟨[⟨.empty, 1000, 5.0⟩, ⟨bucket, 2000, 7.0⟩], { isHistogram := true },
      by simp⟩
    let ops : List Operator := [.lookBack .instantRate .skip fun _ => .ok [none, some ⟨0, 3.0⟩],
      .negative, .downsample .sum, .histogramPercentile [50]]
    let g := populated ⟨[⟨bucket, 2000, -2.0⟩], ⟨true, some [50], .sum⟩, by simp⟩
    Operator.applyAll Pattern.engine ops f = .ok g ∧ g.series.Sublist f.series ∧
      (binaryOp .sub empty g).isEmpty = false ∧ (binaryOp .sub empty g).series = g.series := by
  intro bucket f ops g
  obtain ⟨-, -, hempty, hpipeline⟩ := operators_keep_series_and_context Pattern.engine
  have hvalue : -changePerSecond ⟨bucket, 2000, 7.0⟩ ⟨0, 3.0⟩ = -2.0 := by decide +kernel
  have hrun : Operator.applyAll Pattern.engine ops f = .ok g := by
    show _ = Except.ok (populated ⟨[⟨bucket, 2000, -2.0⟩], ⟨true, some [50], .sum⟩, _⟩)
    simp only [← hvalue]
    rfl
  have hops : ∀ op ∈ ops, op.keepsSeries = true := by
    simp [ops, Operator.keepsSeries]
  exact ⟨hrun, (hpipeline ops f g hrun).1 hops, rfl, (hempty .sub g rfl).1⟩

end Family

end MetricAlgebra
