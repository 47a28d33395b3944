import MetricAlgebra.TimeUnit

/-!
# Failures

What can go wrong in the evaluation of a metric expression, by cause, with the class that each cause
belongs to and the text that reports it.
-/

namespace MetricAlgebra

/-- The class of a failure: arguments that break a rule, texts that cannot be read, or a store of
past values that does not answer. -/
inductive ErrorClass where
  | validation | parse | lookback
  deriving DecidableEq, Repr

/-- The name of the class. -/
def ErrorClass.name : ErrorClass → String
  | validation => "ValidationError"
  | parse => "ParseError"
  | lookback => "LookbackError"

/-- Why a time unit is refused. -/
inductive TimeUnitFault where
  /-- The text names no unit. -/
  | unknown (text : String)
  /-- The unit has less than one millisecond. -/
  | tooFine (unit : TimeUnit)
  deriving DecidableEq, Repr

/-- Why a configuration is refused. -/
inductive ConfigurationFault where
  /-- The text names no kind of downsampling. -/
  | unknownDownsampling (text : String)
  /-- The text names no miss policy. -/
  | unknownMissPolicy (text : String)
  /-- The bound label of histograms is empty. -/
  | emptyBoundLabel
  /-- The pattern cache would hold nothing. -/
  | emptyPatternCache
  /-- The settings of the process have been set or read before. -/
  | alreadyInstalled
  /-- The text is not JSON, or not of settings, for the reason that the report states. -/
  | unreadable (report : String)
  deriving DecidableEq, Repr

/-- Why a lookup of past values failed. -/
inductive LookbackFault where
  /-- The resolver gave up, for the reason that it states. -/
  | unavailable (reason : String)
  /-- The resolver gave a number of answers other than the number of queries. -/
  | miscounted (answers queries : Nat)
  deriving DecidableEq, Repr

/-- A failure, by its cause. -/
inductive Error where
  /-- A list of label arguments has an odd length, so that it is no list of pairs. -/
  | oddLabelArguments (count : Nat)
  /-- A family was to be built of no samples. -/
  | emptyFamily
  /-- The text is no duration. -/
  | invalidDuration (text : String)
  /-- The text is a duration, but not a positive one. -/
  | nonPositiveDuration (text : String)
  /-- The text is no bound of a bucket. -/
  | invalidBound (text : String)
  /-- The family is not marked as a histogram. -/
  | notHistogram
  /-- The percentile rank is below 0 or above 100. -/
  | invalidPercentile (rank : Int32)
  /-- A text is no pattern, for the reason that the report states. -/
  | invalidPattern (report : String)
  /-- A time unit is refused. -/
  | timeUnit (fault : TimeUnitFault)
  /-- A configuration is refused. -/
  | configuration (fault : ConfigurationFault)
  /-- A lookup of past values failed. -/
  | lookback (fault : LookbackFault)
  deriving DecidableEq, Repr

/-- The detail that the report of a refused time unit ends with. -/
def TimeUnitFault.detail : TimeUnitFault → String
  | unknown text => text
  | tooFine unit => unit.name ++ " is finer than one millisecond"

/-- The detail that the report of a refused configuration ends with. -/
def ConfigurationFault.detail : ConfigurationFault → String
  | unknownDownsampling text => "unknown downsampling type: " ++ text
  | unknownMissPolicy text => "unknown lookback miss policy: " ++ text
  | emptyBoundLabel => "histogram_bound_label must not be empty"
  | emptyPatternCache => "regex_cache_size must be positive"
  | alreadyInstalled => "global settings are already initialized"
  | unreadable report => report

/-- The detail that the report of a failed lookup ends with. -/
def LookbackFault.detail : LookbackFault → String
  | unavailable reason => reason
  | miscounted answers queries =>
    "resolver answered " ++ Nat.repr answers ++ " of " ++ Nat.repr queries ++ " queries"

namespace Error

/-- The class of a failure. -/
def errorClass : Error → ErrorClass
  | invalidDuration _ | invalidBound _ | invalidPattern _ => .parse
  | lookback _ => .lookback
  | oddLabelArguments _ | emptyFamily | nonPositiveDuration _ | notHistogram
  | invalidPercentile _ | timeUnit _ | configuration _ => .validation

/-- The report of a failure. -/
def message : Error → String
  | oddLabelArguments count =>
    "Invalid label arguments. Expected key/value pairs, received " ++ Nat.repr count ++
      " arguments."
  | emptyFamily => "Sample family requires at least one sample."
  | invalidDuration text => "Invalid duration. " ++ text
  | nonPositiveDuration text => "Duration must be positive. " ++ text
  | invalidBound text => "Invalid bucket bound. " ++ text
  | notHistogram => "Sample family is not a histogram."
  | invalidPercentile rank =>
    "Invalid percentile rank " ++ Int.repr rank.toInt ++
      ". Expected a value between 0 and 100."
  | invalidPattern report => "Invalid regex. " ++ report
  | timeUnit fault => "Invalid time unit. " ++ fault.detail
  | configuration fault => "Invalid configuration. " ++ fault.detail
  | lookback fault => "Lookback failed. " ++ fault.detail

end Error

/-- Reads the name or short name of a time unit, in any ASCII case. -/
def TimeUnit.read (text : String) : Except Error TimeUnit :=
  match ofText? text with
  | some unit => .ok unit
  | none => .error (.timeUnit (.unknown text))

end MetricAlgebra
