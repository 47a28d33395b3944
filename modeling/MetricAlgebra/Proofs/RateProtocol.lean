import Mathlib.Data.List.FinRange
import MetricAlgebra.Rate

/-!
# What rates ask and what they make of the answers

Increases, rates and instant rates have one protocol. A range that is refused ends the evaluation
before anything is asked. Otherwise the resolver gets a single batch, with one query for each sample
at the sample's place; its failure is passed on, and so is a wrong number of answers; and else each
sample is measured against the answer at its own place (`Family.RateOp.run_recorded`).

`Resolver.recorded` is how this is observed: a resolver that answers in any given way, and keeps a
record of what it was asked.
-/

namespace MetricAlgebra

/-- The resolver that answers in the given way and keeps a record of the batches. -/
def Resolver.recorded (answer : List Query → Except Error (List (Option Point))) :
    Resolver (StateM (List (List Query))) :=
  fun queries => ExceptT.mk fun log => (answer queries, log ++ [queries])

/-- Answers of the right number are passed on, and others are a failure. -/
theorem Resolver.run_resolve_recorded (answer : List Query → Except Error (List (Option Point)))
    (queries : List Query) (log : List (List Query)) :
    ((Resolver.recorded answer).resolve queries).run.run log =
      (answer queries >>= fun answers =>
        if answers.length = queries.length then .ok answers
        else .error (.lookback (.miscounted answers.length queries.length)),
      log ++ [queries]) := by
  unfold resolve recorded
  have hask : (ExceptT.mk fun log => (answer queries, log ++ [queries]) :
      ExceptT Error (StateM (List (List Query))) _).run.run log =
        pure (answer queries, log ++ [queries]) := rfl
  rw [ExceptT.run_bind, StateT.run_bind, hask, pure_bind]
  cases answer queries with
  | error e => rfl
  | ok answers =>
    by_cases h : answers.length = queries.length
    · simp only [bind, Except.bind, h, if_true]
      rfl
    · simp only [bind, Except.bind, h, if_false]
      rfl

/-- The instant a window before another is that many milliseconds before it, or the first instant
there is. -/
theorem Timestamp.toInt_back {t window : Int64} (h : 0 ≤ window.toInt) :
    (Timestamp.back t window).toInt = max (t.toInt - window.toInt) Int64.minValue.toInt := by
  have hmax := t.toInt_le
  unfold Timestamp.back
  by_cases hmin : Int64.minValue.toInt ≤ t.toInt - window.toInt
  · rw [Int64.toInt_ofIntClamp hmin (by omega)]
    omega
  · rw [Int64.ofIntClamp, dif_neg hmin]
    omega

/-- Pairs of two lists of one length, by places. -/
theorem zip_eq_map_finRange {α β : Type} {as : List α} {bs : List β}
    (h : bs.length = as.length) :
    as.zip bs = (List.finRange as.length).map fun i => (as.get i, bs.get (i.cast h.symm)) := by
  refine List.ext_getElem (by simp [h]) fun i _ _ => ?_
  simp

namespace Family

/-- The operators that look back, with their ranges. -/
inductive RateOp where
  /-- The change over a range. -/
  | increase (range : String)
  /-- The change per second over a range. -/
  | rate (range : String)
  /-- The change per second over the last second. -/
  | instantRate

namespace RateOp

/-- What an operator makes of a family. -/
def run {m : Type → Type} [Monad m] (op : RateOp) (f : Family) (policy : MissPolicy)
    (ask : Resolver m) : ExceptT Error m Family :=
  match op with
  | increase range => f.increase range policy ask
  | rate range => f.rate range policy ask
  | instantRate => f.instantRate policy ask

/-- The window of an operator, if its range is accepted. -/
def window : RateOp → Except Error Int64
  | increase range => Duration.readRange range
  | rate range => Duration.readRange range
  | instantRate => .ok 1000

/-- How an operator measures a sample against a past point. -/
def measure : RateOp → Sample → Point → Float
  | increase _ => change
  | rate _ => changePerSecond
  | instantRate => changePerSecond

/-- Every operator looks back over its window, once it has one. -/
theorem run_eq {m : Type → Type} [Monad m] [LawfulMonad m] (op : RateOp) (f : Family)
    (policy : MissPolicy) (ask : Resolver m) :
    op.run f policy ask = (do
      let window ← ExceptT.mk (pure op.window)
      f.overWindow window policy ask op.measure) := by
  cases op with
  | increase range => rfl
  | rate range => rfl
  | instantRate =>
    have hpure : ExceptT.mk (pure (window instantRate)) = (pure 1000 : ExceptT Error m Int64) := rfl
    rw [hpure, pure_bind]
    rfl

/-- Whether an operator accepts its range, and looks back over the given window then. -/
def Accepts : RateOp → Int64 → Prop
  | increase range, window => Duration.read range = .ok window ∧ 0 < window.toInt
  | rate range, window => Duration.read range = .ok window ∧ 0 < window.toInt
  | instantRate, window => window = 1000

/-- The value that an operator gives a sample against a past point: the change of its value, and for
the rates, the change per second, or zero if less than a second lies between the two. -/
def value : RateOp → Sample → Point → Float
  | increase _, s, past => s.value - past.value
  | _, s, past =>
    let elapsed := (s.timestamp - past.timestamp).toInt
    if elapsed < 1000 then 0.0 else (s.value - past.value) / (Float.ofInt elapsed / 1000.0)

/-- What becomes of a sample: its value measured against the answer, or where there is none, against
the point that the policy puts in its place. -/
def outcome? (op : RateOp) (policy : MissPolicy) (s : Sample) (q : Query) :
    Option Point → Option Sample
  | some past => some ⟨s.labels, s.timestamp, op.value s past⟩
  | none =>
    match policy with
    | .currentSample => some ⟨s.labels, s.timestamp, op.value s ⟨s.timestamp, s.value⟩⟩
    | .zeroBaseline => some ⟨s.labels, s.timestamp, op.value s ⟨q.timestamp, 0.0⟩⟩
    | .skip => none

/-- A positive duration is accepted as a range. -/
theorem readRange_eq_ok {range : String} {window : Int64} (h : Duration.read range = .ok window)
    (hpos : 0 < window.toInt) : Duration.readRange range = .ok window := by
  rw [Duration.readRange_eq h, if_neg (by omega)]

/-- The window of an operator is the one that it accepts. -/
theorem Accepts.window_eq {op : RateOp} {window : Int64} (h : op.Accepts window) :
    op.window = .ok window ∧ 0 ≤ window.toInt := by
  cases op with
  | increase range => exact ⟨readRange_eq_ok h.1 h.2, h.2.le⟩
  | rate range => exact ⟨readRange_eq_ok h.1 h.2, h.2.le⟩
  | instantRate =>
    obtain rfl : window = 1000 := h
    exact ⟨rfl, by decide⟩

/-- With an accepted range, the window is there to look back over. -/
theorem run_of_accepts {m : Type → Type} [Monad m] [LawfulMonad m] {op : RateOp} {window : Int64}
    (h : op.Accepts window) (f : Family) (policy : MissPolicy) (ask : Resolver m) :
    op.run f policy ask = f.overWindow window policy ask op.measure := by
  have hpure : ExceptT.mk (pure op.window) = (pure window : ExceptT Error m Int64) := by
    rw [h.window_eq.1]
    rfl
  rw [run_eq, hpure, pure_bind]

end RateOp

/-- Looking back over a window asks one batch, and measures each sample against the answer at its
place if there are as many answers as samples. -/
theorem overWindow_recorded (batch : Batch) (window : Int64) (policy : MissPolicy)
    (answer : List Query → Except Error (List (Option Point))) (measure : Sample → Point → Float)
    (log : List (List Query)) :
    (((populated batch).overWindow window policy (.recorded answer) measure).run.run log) =
      ((do
        let answers ← answer (batch.samples.map (query window))
        if answers.length = batch.samples.length then
          .ok (ofSamples batch.context ((batch.samples.zip answers).filterMap fun (s, answer) =>
            changed? policy window measure s answer))
        else .error (.lookback (.miscounted answers.length batch.samples.length))),
      log ++ [batch.samples.map (query window)]) := by
  unfold overWindow
  rw [ExceptT.run_bind, StateT.run_bind, Resolver.run_resolve_recorded]
  cases answer (batch.samples.map (query window)) with
  | error e => rfl
  | ok answers =>
    by_cases h : answers.length = batch.samples.length
    · simp only [bind, Except.bind, List.length_map, h, if_true]
      rfl
    · simp only [bind, Except.bind, List.length_map, h, if_false]
      rfl

namespace RateOp

/-- Whether an operator asks a single batch, with a query for each sample at the instant that many
milliseconds before it. -/
def LooksBack (op : RateOp) (window : Int64) : Prop :=
  ∀ (batch : Batch) (policy : MissPolicy)
    (answer : List Query → Except Error (List (Option Point))) (log : List (List Query)),
    ∃ queries,
      ((op.run (.populated batch) policy (.recorded answer)).run.run log).2 = log ++ [queries] ∧
      List.Forall₂ (fun s q => q.labels = s.labels ∧ q.timestamp.toInt =
        max (s.timestamp.toInt - window.toInt) Int64.minValue.toInt) batch.samples queries

/-- With an accepted range, an operator looks back over the window. -/
theorem Accepts.looksBack {op : RateOp} {window : Int64} (h : op.Accepts window) :
    op.LooksBack window := by
  intro batch policy answer log
  refine ⟨batch.samples.map (query window), ?_, ?_⟩
  · rw [run_of_accepts h, overWindow_recorded]
  · rw [List.forall₂_map_right_iff, List.forall₂_same]
    exact fun s _ => ⟨rfl, Timestamp.toInt_back h.window_eq.2⟩

/-- An operator measures a sample by the value that it gives it. -/
theorem measure_eq_value (op : RateOp) : op.measure = op.value := by
  funext s past
  have hrate : changePerSecond s past = instantRate.value s past := by
    unfold changePerSecond
    simp only [Int64.lt_iff_toInt_lt]
    rfl
  cases op with
  | increase range => rfl
  | rate range => exact hrate
  | instantRate => exact hrate

/-- A sample is changed as its outcome says. -/
theorem changed?_eq_outcome? (op : RateOp) (policy : MissPolicy) (window : Int64) (s : Sample)
    (answer : Option Point) :
    changed? policy window op.measure s answer = op.outcome? policy s (query window s) answer := by
  rw [measure_eq_value]
  cases answer with
  | some past => rfl
  | none => cases policy <;> rfl

/-- The protocol of looking back. A refused range ends the evaluation with nothing asked. With an
accepted one a single batch is asked, the query at each place being for the labels of the sample
there, a window before it. A failure is passed on; a wrong number of answers is a failure; and else
the outcomes of the samples, each with the answer at its place, are the result, in order and under
the same context. -/
theorem run_recorded (op : RateOp) (batch : Batch) (policy : MissPolicy)
    (answer : List Query → Except Error (List (Option Point))) (log : List (List Query)) :
    let run := (op.run (.populated batch) policy (.recorded answer)).run.run log
    let n := batch.samples.length
    (∀ e, op.window = .error e → run = (.error e, log)) ∧
    ∀ window, op.Accepts window → ∃ queries : List Query, ∃ hq : n = queries.length,
      (∀ i : Fin n, (queries.get (i.cast hq)).labels = (batch.samples.get i).labels ∧
        (queries.get (i.cast hq)).timestamp.toInt =
          max ((batch.samples.get i).timestamp.toInt - window.toInt) Int64.minValue.toInt) ∧
      run.2 = log ++ [queries] ∧
      (∀ e, answer queries = .error e → run.1 = .error e) ∧
      (∀ answers, answer queries = .ok answers → answers.length ≠ n →
        run.1 = .error (.lookback (.miscounted answers.length n))) ∧
      ∀ answers, answer queries = .ok answers → ∀ ha : n = answers.length,
        run.1 = .ok (ofSamples batch.context ((List.finRange n).filterMap fun i =>
          op.outcome? policy (batch.samples.get i) (queries.get (i.cast hq))
            (answers.get (i.cast ha)))) := by
  intro run n
  have hrun : run = (op.run (.populated batch) policy (.recorded answer)).run.run log := rfl
  rw [run_eq] at hrun
  refine ⟨fun e he => ?_, fun window hwindow => ?_⟩
  · rw [hrun, he]
    rfl
  -- With an accepted range, the run is that of looking back over the window.
  obtain ⟨hw, hpos⟩ := hwindow.window_eq
  have hlook : run = ((populated batch).overWindow window policy (.recorded answer)
      op.measure).run.run log := by
    rw [hrun, hw]
    rfl
  rw [overWindow_recorded] at hlook
  refine ⟨batch.samples.map (query window), by simp [n], fun i => ?_, by rw [hlook], ?_, ?_, ?_⟩
  · simp [query, Timestamp.toInt_back hpos]
  · intro e he
    rw [hlook, he]
    rfl
  · intro answers ha hne
    rw [hlook, ha]
    exact if_neg hne
  · intro answers ha hlen
    rw [hlook, ha]
    refine (if_pos hlen.symm).trans ?_
    rw [zip_eq_map_finRange hlen.symm, List.filterMap_map]
    congr 3
    funext i
    simp [changed?_eq_outcome?, n]

set_option maxRecDepth 10000 in
/-- The rates over ninety seconds of three samples, of which the second has no past value and is
left out: the third keeps the answer at its own place. -/
theorem run_recorded_ninety_seconds :
    let batch : Batch := ⟨[⟨.empty, 100000, 19.0⟩, ⟨.empty, 200000, 5.0⟩, ⟨.empty, 300000, 7.0⟩],
      {}, by simp⟩
    let answers : List (Option Point) := [some ⟨10000, 1.0⟩, none, some ⟨299500, 6.0⟩]
    (rate "1m30s").Accepts 90000 ∧
      (((rate "1m30s").run (.populated batch) .skip
          (.recorded fun _ => .ok answers)).run.run []).1 =
        .ok (ofSamples {} [⟨.empty, 100000, 0.2⟩, ⟨.empty, 300000, 0.0⟩]) := by
  intro batch answers
  have haccepts : (rate "1m30s").Accepts 90000 := ⟨rfl, by decide⟩
  have hfirst : (rate "1m30s").value ⟨.empty, 100000, 19.0⟩ ⟨10000, 1.0⟩ = 0.2 := by decide +kernel
  have hthird : (rate "1m30s").value ⟨.empty, 300000, 7.0⟩ ⟨299500, 6.0⟩ = 0.0 := by decide +kernel
  obtain ⟨queries, hq, -, -, -, -, hok⟩ := (run_recorded (rate "1m30s") batch .skip
    (fun _ => .ok answers) []).2 90000 haccepts
  rw [← hfirst, ← hthird]
  exact ⟨haccepts, hok answers rfl rfl⟩

end RateOp

end Family

end MetricAlgebra
