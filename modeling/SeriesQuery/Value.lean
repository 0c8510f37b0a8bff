import SeriesQuery.Metric
import SeriesQuery.Sample
import SeriesQuery.ValueType

/-!
# Values

The value of an expression at one timestamp is a number, a text, a number per series or a window
of samples per series.
-/

namespace SeriesQuery

inductive Value (α : Type)
  | scalar (v : α)
  | string (text : String)
  | vector (series : SeriesMap α)
  | matrix (series : SeriesMap (List (Sample α)))

namespace Value

variable {α : Type}

def valueType : Value α → ValueType
  | scalar _ => .scalar
  | string _ => .string
  | vector _ => .vector
  | matrix _ => .matrix

open Numeric

def sameSamples (related : α → α → Bool) (a b : List (Sample α)) : Bool :=
  a.length == b.length &&
    (a.zip b).all fun (x, y) => x.timestamp == y.timestamp && related x.value y.value

def sameSeries {ν : Type} (related : ν → ν → Bool) (a b : SeriesMap ν) : Bool :=
  a.size == b.size &&
    (a.toList.zip b.toList).all fun (x, y) => x.1 == y.1 && related x.2 y.2

def related (close : α → α → Bool) : Value α → Value α → Bool
  | scalar a, scalar b => close a b
  | string a, string b => a == b
  | vector a, vector b => sameSeries close a b
  | matrix a, matrix b => sameSeries (sameSamples close) a b
  | _, _ => false

variable [Numeric α]

/-- Numbers that differ by no more than `epsilon` times the larger one, or `epsilon` if both are
small. A NaN is close to a NaN. -/
def close (epsilon a b : α) : Bool :=
  if isNaN a || isNaN b then isNaN a && isNaN b
  else eq a b || le (abs (a - b)) (epsilon * maximum (maximum (abs a) (abs b)) one)

def approxEq (epsilon : α) (a b : Value α) : Bool := a.related (close epsilon) b

/-- Exact equality, under which a NaN equals nothing. -/
def same (a b : Value α) : Bool := a.related eq b

end Value

end SeriesQuery
