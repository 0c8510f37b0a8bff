import SeriesQuery.ValueType

/-!
# The functions of the query language

Every function has a name, argument types and a result type. Functions of one kind are driven
alike: reductions of sample windows, element-wise mathematics, calendar fields, and those with
rules of their own.
-/

namespace SeriesQuery

inductive Function
  | rate | increase | delta | irate | idelta | changes | resets | deriv | predictLinear
  | avgOverTime | sumOverTime | minOverTime | maxOverTime | countOverTime
  | stddevOverTime | stdvarOverTime | quantileOverTime | lastOverTime | holtWinters
  | abs | ceil | floor | exp | sqrt | ln | log2 | log10 | round | clampMin | clampMax
  | minute | hour | dayOfMonth | dayOfWeek | daysInMonth | month | year
  | time | vector | scalar | absent | labelReplace | labelJoin | timestamp | histogramQuantile
deriving DecidableEq, Repr

inductive FunctionKind
  /-- Reduces the window of samples of each series to one value. -/
  | window
  /-- Maps each element of a vector, perhaps with a number. -/
  | math
  /-- Maps a time in seconds to a calendar field. -/
  | date
  | special
deriving DecidableEq, Repr

structure Signature where
  args : List ValueType
  /-- How many leading arguments have to be given. -/
  required : Nat
  variadic : Bool := false
  result : ValueType
deriving DecidableEq, Repr

namespace Function

def all : List Function :=
  [rate, increase, delta, irate, idelta, changes, resets, deriv, predictLinear,
    avgOverTime, sumOverTime, minOverTime, maxOverTime, countOverTime,
    stddevOverTime, stdvarOverTime, quantileOverTime, lastOverTime, holtWinters,
    abs, ceil, floor, exp, sqrt, ln, log2, log10, round, clampMin, clampMax,
    minute, hour, dayOfMonth, dayOfWeek, daysInMonth, month, year,
    time, vector, scalar, absent, labelReplace, labelJoin, timestamp, histogramQuantile]

def name : Function → String
  | rate => "rate"
  | increase => "increase"
  | delta => "delta"
  | irate => "irate"
  | idelta => "idelta"
  | changes => "changes"
  | resets => "resets"
  | deriv => "deriv"
  | predictLinear => "predict_linear"
  | avgOverTime => "avg_over_time"
  | sumOverTime => "sum_over_time"
  | minOverTime => "min_over_time"
  | maxOverTime => "max_over_time"
  | countOverTime => "count_over_time"
  | stddevOverTime => "stddev_over_time"
  | stdvarOverTime => "stdvar_over_time"
  | quantileOverTime => "quantile_over_time"
  | lastOverTime => "last_over_time"
  | holtWinters => "holt_winters"
  | abs => "abs"
  | ceil => "ceil"
  | floor => "floor"
  | exp => "exp"
  | sqrt => "sqrt"
  | ln => "ln"
  | log2 => "log2"
  | log10 => "log10"
  | round => "round"
  | clampMin => "clamp_min"
  | clampMax => "clamp_max"
  | minute => "minute"
  | hour => "hour"
  | dayOfMonth => "day_of_month"
  | dayOfWeek => "day_of_week"
  | daysInMonth => "days_in_month"
  | month => "month"
  | year => "year"
  | time => "time"
  | vector => "vector"
  | scalar => "scalar"
  | absent => "absent"
  | labelReplace => "label_replace"
  | labelJoin => "label_join"
  | timestamp => "timestamp"
  | histogramQuantile => "histogram_quantile"

def ofName? (s : String) : Option Function := all.find? (·.name = s)

def kind : Function → FunctionKind
  | rate | increase | delta | irate | idelta | changes | resets | deriv | predictLinear
  | avgOverTime | sumOverTime | minOverTime | maxOverTime | countOverTime
  | stddevOverTime | stdvarOverTime | quantileOverTime | lastOverTime | holtWinters => .window
  | abs | ceil | floor | exp | sqrt | ln | log2 | log10 | round | clampMin | clampMax => .math
  | minute | hour | dayOfMonth | dayOfWeek | daysInMonth | month | year => .date
  | time | vector | scalar | absent | labelReplace | labelJoin | timestamp
  | histogramQuantile => .special

def signature : Function → Signature
  | predictLinear => { args := [.matrix, .scalar], required := 2, result := .vector }
  | quantileOverTime => { args := [.scalar, .matrix], required := 2, result := .vector }
  | holtWinters => { args := [.matrix, .scalar, .scalar], required := 3, result := .vector }
  | round => { args := [.vector, .scalar], required := 1, result := .vector }
  | clampMin | clampMax => { args := [.vector, .scalar], required := 2, result := .vector }
  | time => { args := [], required := 0, result := .scalar }
  | vector => { args := [.scalar], required := 1, result := .vector }
  | scalar => { args := [.vector], required := 1, result := .scalar }
  | absent | timestamp => { args := [.vector], required := 1, result := .vector }
  | histogramQuantile => { args := [.scalar, .vector], required := 2, result := .vector }
  | labelReplace =>
    { args := [.vector, .string, .string, .string, .string], required := 5, result := .vector }
  | labelJoin =>
    { args := [.vector, .string, .string, .string], required := 3, variadic := true,
      result := .vector }
  | f =>
    match f.kind with
    | .window => { args := [.matrix], required := 1, result := .vector }
    | .date => { args := [.vector], required := 0, result := .vector }
    | _ => { args := [.vector], required := 1, result := .vector }

/-- The position of the range vector among the arguments of a window function. -/
def matrixArg : Function → Nat
  | quantileOverTime => 1
  | _ => 0

def dropsMetricName : Function → Bool
  | lastOverTime | labelReplace | labelJoin | vector => false
  | _ => true

end Function

end SeriesQuery
