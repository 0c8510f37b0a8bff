import SeriesQuery.ValueType

/-!
# Functions of the query language

The language knows more functions than can be evaluated. For each it fixes the types of the
arguments; the last argument of a variadic function may be left out or, where there is no limit,
repeated.
-/

namespace SeriesQuery.Query

inductive Arity
  | fixed
  | lastOptional
  | lastRepeated
deriving DecidableEq, Repr

structure KnownFunction where
  name : String
  args : List ValueType
  arity : Arity := .fixed
  result : ValueType := .vector
deriving DecidableEq, Repr

namespace KnownFunction

def ofVector : List String :=
  ["abs", "absent", "acos", "acosh", "asin", "asinh", "atan", "atanh", "ceil", "cos", "cosh", "deg",
    "exp", "floor", "histogram_count", "histogram_sum", "ln", "log10", "log2", "rad", "sgn", "sin",
    "sinh", "sort", "sort_desc", "sqrt", "tan", "tanh", "timestamp"]

def ofMatrix : List String :=
  ["absent_over_time", "avg_over_time", "changes", "count_over_time", "delta", "deriv", "idelta",
    "increase", "irate", "last_over_time", "max_over_time", "min_over_time", "present_over_time",
    "rate", "resets", "stddev_over_time", "stdvar_over_time", "sum_over_time"]

/-- Functions of one vector, or of the evaluation time if it is left out. -/
def ofTime : List String :=
  ["days_in_month", "day_of_month", "day_of_week", "day_of_year", "hour", "minute", "month", "year"]

def others : List KnownFunction :=
  [{ name := "clamp", args := [.vector, .scalar, .scalar] },
    { name := "clamp_max", args := [.vector, .scalar] },
    { name := "clamp_min", args := [.vector, .scalar] },
    { name := "histogram_fraction", args := [.scalar, .scalar, .vector] },
    { name := "histogram_quantile", args := [.scalar, .vector] },
    { name := "holt_winters", args := [.matrix, .scalar, .scalar] },
    { name := "label_join", args := [.vector, .string, .string, .string], arity := .lastRepeated },
    { name := "label_replace", args := [.vector, .string, .string, .string, .string] },
    { name := "pi", args := [], result := .scalar },
    { name := "predict_linear", args := [.matrix, .scalar] },
    { name := "quantile_over_time", args := [.scalar, .matrix] },
    { name := "round", args := [.vector, .scalar], arity := .lastOptional },
    { name := "scalar", args := [.vector], result := .scalar },
    { name := "sort_by_label", args := [.vector, .string], arity := .lastRepeated },
    { name := "sort_by_label_desc", args := [.vector, .string], arity := .lastRepeated },
    { name := "time", args := [], result := .scalar },
    { name := "vector", args := [.scalar] }]

def ofName? (name : String) : Option KnownFunction :=
  if ofVector.contains name then some { name, args := [.vector] }
  else if ofMatrix.contains name then some { name, args := [.matrix] }
  else if ofTime.contains name then some { name, args := [.vector], arity := .lastOptional }
  else others.find? (·.name = name)

def admitsCount (f : KnownFunction) (count : Nat) : Bool :=
  match f.arity with
  | .fixed => count = f.args.length
  | .lastOptional => f.args.length ≤ count + 1 && count ≤ f.args.length
  | .lastRepeated => f.args.length ≤ count + 1

def argType (f : KnownFunction) (i : Nat) : ValueType :=
  f.args.getD (min i (f.args.length - 1)) .scalar

end KnownFunction

end SeriesQuery.Query
