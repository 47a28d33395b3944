import MetricAlgebra.Family
import MetricAlgebra.Lookback
import MetricAlgebra.Duration

/-!
# Increases and rates

The change of every series over a window of time that ends at its sample. All past values are asked
for in one batch, and a policy says what becomes of a series that has none.
-/

namespace MetricAlgebra.Family

/-- The window of an instant rate, in milliseconds. -/
def instantWindow : Int64 := 1000

/-- The time in milliseconds below which a rate counts as zero. -/
def minRateInterval : Int64 := 1000

/-- The change of the value since a past point. -/
def change (s : Sample) (past : Point) : Float := s.value - past.value

/-- The change per second since a past point, and zero if the point is less than a second old. The
time between the two is a number of 64 bits, like the instants, and wraps around beyond them. -/
def changePerSecond (s : Sample) (past : Point) : Float :=
  let elapsed := s.timestamp - past.timestamp
  if elapsed < minRateInterval then 0.0
  else (s.value - past.value) / (Float.ofInt elapsed.toInt / 1000.0)

/-- The question for the past value of a series. -/
def query (window : Int64) (s : Sample) : Query := ⟨s.labels, Timestamp.back s.timestamp window⟩

/-- The sample of the change since the answered point, or since the one that the policy puts in its
place; none if it puts none. -/
def changed? (policy : MissPolicy) (window : Int64) (f : Sample → Point → Float) (s : Sample)
    (answer : Option Point) : Option Sample :=
  (answer <|> policy.baseline? s (query window s)).map fun past => s.withValue (f s past)

variable {m : Type → Type} [Monad m]

/-- Replaces every value by its change over a window. The resolver is asked one batch, and none
where there are no samples. -/
def overWindow (f : Family) (window : Int64) (policy : MissPolicy) (ask : Resolver m)
    (measure : Sample → Point → Float) : ExceptT Error m Family :=
  match f with
  | empty => pure empty
  | populated batch => do
    let answers ← ask.resolve (batch.samples.map (query window))
    pure (ofSamples batch.context
      ((batch.samples.zip answers).filterMap fun (s, answer) =>
        changed? policy window measure s answer))

/-- The change of every series over a range; a counter that went down has a negative one. -/
def increase (f : Family) (range : String) (policy : MissPolicy) (ask : Resolver m) :
    ExceptT Error m Family := do
  let window ← ExceptT.mk (pure (Duration.readRange range))
  f.overWindow window policy ask change

/-- The change of every series per second over a range. -/
def rate (f : Family) (range : String) (policy : MissPolicy) (ask : Resolver m) :
    ExceptT Error m Family := do
  let window ← ExceptT.mk (pure (Duration.readRange range))
  f.overWindow window policy ask changePerSecond

/-- The change of every series per second over the last second. -/
def instantRate (f : Family) (policy : MissPolicy) (ask : Resolver m) : ExceptT Error m Family :=
  f.overWindow instantWindow policy ask changePerSecond

end MetricAlgebra.Family
