import MetricAlgebra.Histogram
import MetricAlgebra.Lookback

/-!
# Settings

What holds for a whole process: defaults, what has to be true of settings, and their overriding by
environment variables.
-/

namespace MetricAlgebra

/-- The settings of a process. -/
structure Settings where
  /-- What becomes of series without a past value. -/
  missPolicy : MissPolicy := .currentSample
  /-- The label that holds the bounds of buckets. -/
  boundLabel : String := Histogram.boundLabel
  /-- The unit of the bounds of buckets. -/
  timeUnit : TimeUnit := .seconds
  /-- How many patterns are kept. -/
  cacheSize : UInt64 := 100
  deriving DecidableEq, Repr

namespace Settings

/-- Checks that there is a bound label and room for patterns, in this order. -/
def validate (s : Settings) : Except Error Unit :=
  if s.boundLabel.isEmpty then .error (.configuration .emptyBoundLabel)
  else if s.cacheSize = 0 then .error (.configuration .emptyPatternCache)
  else .ok ()

/-- Reads a number of patterns to keep, of 64 bits. -/
def readSize? (text : String) : Option UInt64 :=
  (Decimal.natValue? text.toList).bind fun n =>
    if n < UInt64.size then some (UInt64.ofNat n) else none

/-- The texts of environment variables, for those that are set. -/
abbrev Environment := String → Option String

/-- Reads the trimmed text of a variable; an unset variable and a text that cannot be read give
nothing. -/
def Environment.read? {α : Type} (env : Environment) (name : String)
    (read : String → Option α) : Option α :=
  (env name).bind fun text => read (Text.trim text)

/-- The settings with those replaced whose variables hold an acceptable text. The names of the
variables start with the name of the program. -/
def withEnvironment (program : String) (env : Environment) (s : Settings) : Settings where
  missPolicy :=
    (env.read? (program ++ "_LOOKBACK_MISS_POLICY") MissPolicy.ofText?).getD s.missPolicy
  boundLabel := (env.read? (program ++ "_HISTOGRAM_BOUND_LABEL")
    fun text => if text.isEmpty then none else some text).getD s.boundLabel
  timeUnit := (env.read? (program ++ "_HISTOGRAM_TIME_UNIT") TimeUnit.ofText?).getD s.timeUnit
  cacheSize := (env.read? (program ++ "_REGEX_CACHE_SIZE")
    fun text => (readSize? text).filter (· ≠ 0)).getD s.cacheSize

/-- Installs the settings of the process, which have to be valid; those that are in force already
cannot be replaced. -/
def install (current : Option Settings) (s : Settings) : Except Error Settings := do
  s.validate
  match current with
  | some _ => .error (.configuration .alreadyInstalled)
  | none => pure s

end Settings

end MetricAlgebra
