/-!
# Time units

The units in which the bounds of histogram buckets are given, their names and their lengths.
-/

namespace MetricAlgebra

/-- A unit of time. -/
inductive TimeUnit where
  | nanoseconds | microseconds | milliseconds | seconds | minutes | hours | days
  deriving DecidableEq, Repr

namespace TimeUnit

/-- Every unit, shortest first. -/
def all : List TimeUnit :=
  [nanoseconds, microseconds, milliseconds, seconds, minutes, hours, days]

/-- The name of the unit. -/
def name : TimeUnit → String
  | nanoseconds => "nanoseconds"
  | microseconds => "microseconds"
  | milliseconds => "milliseconds"
  | seconds => "seconds"
  | minutes => "minutes"
  | hours => "hours"
  | days => "days"

/-- The short name of the unit. -/
def symbol : TimeUnit → String
  | nanoseconds => "ns"
  | microseconds => "us"
  | milliseconds => "ms"
  | seconds => "s"
  | minutes => "m"
  | hours => "h"
  | days => "d"

/-- The whole milliseconds in the unit: none in the units finer than one. -/
def millis : TimeUnit → Nat
  | nanoseconds => 0
  | microseconds => 0
  | milliseconds => 1
  | seconds => 1000
  | minutes => 60 * 1000
  | hours => 60 * 60 * 1000
  | days => 24 * 60 * 60 * 1000

/-- The unit with the given name or short name, in any ASCII case. -/
def ofText? (text : String) : Option TimeUnit :=
  all.find? fun unit => unit.symbol == text.toLower || unit.name == text.toLower

/-- The unit with exactly the given name. -/
def ofName? (name : String) : Option TimeUnit :=
  all.find? fun unit => unit.name == name

end TimeUnit

end MetricAlgebra
