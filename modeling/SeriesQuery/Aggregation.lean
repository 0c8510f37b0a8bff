import SeriesQuery.Statistics
import SeriesQuery.ValueType

/-!
# Aggregation operators

An operator reduces the values of one group to a value, to a selection of the group's members or
to the counts of equal values.
-/

namespace SeriesQuery

inductive AggregateOp
  | sum | avg | count | min | max | group | stddev | stdvar
  | topk | bottomk | quantile | countValues
deriving DecidableEq, Repr

namespace AggregateOp

def all : List AggregateOp :=
  [sum, avg, count, min, max, group, stddev, stdvar, topk, bottomk, quantile, countValues]

def name : AggregateOp → String
  | sum => "sum"
  | avg => "avg"
  | count => "count"
  | min => "min"
  | max => "max"
  | group => "group"
  | stddev => "stddev"
  | stdvar => "stdvar"
  | topk => "topk"
  | bottomk => "bottomk"
  | quantile => "quantile"
  | countValues => "count_values"

def ofName? (s : String) : Option AggregateOp := all.find? (·.name = s)

def parameterType : AggregateOp → Option ValueType
  | topk | bottomk | quantile => some .scalar
  | countValues => some .string
  | _ => none

end AggregateOp

/-- The value of the parameter at one timestamp. -/
inductive AggregateParam (α : Type)
  | none
  | scalar (v : α)
  | label (name : String)

/-- A missing number counts as NaN. -/
def AggregateParam.number {α : Type} [Numeric α] : AggregateParam α → α
  | scalar v => v
  | _ => Numeric.nan

inductive Reduction (α : Type)
  | value (v : α)
  /-- The positions of the members to keep, in order of preference. -/
  | selected (positions : List Nat)
  | counts (counts : List (String × α))
deriving DecidableEq

open Statistics

def AggregateOp.reduce {α : Type} [SampleValue α] (op : AggregateOp) (values : List α)
    (param : AggregateParam α) : Reduction α :=
  match op with
  | sum => .value (Statistics.sum values)
  | avg => .value (mean values)
  | count => .value (Numeric.ofNat values.length)
  | min => .value (extremum Numeric.lt values)
  | max => .value (extremum (fun v best => Numeric.lt best v) values)
  | group => .value Numeric.one
  | stddev => .value (standardDeviation values)
  | stdvar => .value (variance values)
  | topk => .selected (select true param.number values)
  | bottomk => .selected (select false param.number values)
  | quantile => .value (Statistics.quantile param.number values)
  | countValues => .counts (occurrences (values.map SampleValue.text))

end SeriesQuery
