import MetricAlgebra.Sample
import MetricAlgebra.Error

/-!
# Looking back

Questions about past values, in batches, to whoever keeps them. A resolver answers a batch in some
monad, so that the same operators run on a store in memory and on one that keeps a record of what it
was asked. A source also answers single queries, which is how it answers a batch if it has no other
way.
-/

namespace MetricAlgebra

/-- A recorded value of a series. -/
structure Point where
  /-- The instant. -/
  timestamp : Timestamp
  /-- The value. -/
  value : Float
  deriving DecidableEq

/-- The question which value a series had at an instant or last before it. -/
structure Query where
  /-- The labels of the series. -/
  labels : LabelSet
  /-- The instant. -/
  timestamp : Timestamp
  deriving DecidableEq

/-- What rate-like operators do with a series of which there is no past value. -/
inductive MissPolicy where
  /-- The current sample stands in for the past one. -/
  | currentSample
  /-- The series counts as zero at the instant asked for. -/
  | zeroBaseline
  /-- The sample is left out. -/
  | skip
  deriving DecidableEq, Repr

namespace MissPolicy

/-- Every policy. -/
def all : List MissPolicy := [currentSample, zeroBaseline, skip]

/-- The name of the policy. -/
def name : MissPolicy → String
  | currentSample => "current_sample"
  | zeroBaseline => "zero_baseline"
  | skip => "skip"

/-- The short name of the policy. -/
def shortName : MissPolicy → String
  | currentSample => "current"
  | zeroBaseline => "zero"
  | skip => "drop"

/-- The policy with exactly the given name. -/
def ofName? (name : String) : Option MissPolicy :=
  all.find? fun policy => policy.name == name

/-- The policy with the given name or short name, in any ASCII case. -/
def ofText? (text : String) : Option MissPolicy :=
  all.find? fun policy => policy.name == text.toLower || policy.shortName == text.toLower

/-- Reads the name or short name of a policy, in any ASCII case. -/
def read (text : String) : Except Error MissPolicy :=
  match ofText? text with
  | some policy => .ok policy
  | none => .error (.configuration (.unknownMissPolicy text))

/-- The past value that a policy puts in the place of a missing one, if any. -/
def baseline? (policy : MissPolicy) (s : Sample) (q : Query) : Option Point :=
  match policy with
  | currentSample => some ⟨s.timestamp, s.value⟩
  | zeroBaseline => some ⟨q.timestamp, 0.0⟩
  | skip => none

end MissPolicy

/-- Answers a batch of queries, one answer each and in their order. That a series has no value at
or before the instant is an answer and no failure. -/
abbrev Resolver (m : Type → Type) := List Query → ExceptT Error m (List (Option Point))

namespace Resolver

variable {m : Type → Type} [Monad m]

/-- The resolver that answers queries one by one. -/
def ofLookup (lookup : Query → ExceptT Error m (Option Point)) : Resolver m :=
  fun queries => queries.mapM lookup

/-- Asks a resolver one batch, and refuses answers that are more or fewer than the queries. -/
def resolve (ask : Resolver m) (queries : List Query) : ExceptT Error m (List (Option Point)) := do
  let answers ← ask queries
  if answers.length = queries.length then pure answers
  else throw (.lookback (.miscounted answers.length queries.length))

end Resolver

/-- A source of past values: it answers single queries, and batches of them. -/
structure Source (m : Type → Type) [Monad m] where
  /-- The answer to a query. -/
  lookup : Query → ExceptT Error m (Option Point)
  /-- The answers to a batch. A source that has no shorter way to them answers one by one. -/
  batch : Resolver m := Resolver.ofLookup lookup

/-- The source that passes on to another what it is asked. -/
def Source.forward {m : Type → Type} [Monad m] (source : Source m) : Source m :=
  ⟨fun q => source.lookup q, fun queries => source.batch queries⟩

end MetricAlgebra
