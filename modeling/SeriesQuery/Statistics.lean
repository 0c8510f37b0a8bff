import SeriesQuery.SampleValue

/-!
# Statistics of a list of values

Sums are compensated, the variance is updated value by value, and quantiles interpolate between
the two closest ranks. Values keep the order in which they come, because rounding depends on it.
-/

namespace SeriesQuery.Statistics

open Numeric

variable {α : Type} [Numeric α]

/-- A running sum and what rounding has lost from it so far. -/
structure RunningSum (α : Type) where
  sum : α
  lost : α

/-- Adds a value and collects the part of the smaller operand that the sum could not hold. -/
def RunningSum.push (s : RunningSum α) (v : α) : RunningSum α :=
  let sum := s.sum + v
  { sum
    lost :=
      if isInfinite sum then zero
      else if le (abs v) (abs s.sum) then s.lost + ((s.sum - sum) + v)
      else s.lost + ((v - sum) + s.sum) }

def RunningSum.total (s : RunningSum α) : α :=
  if isInfinite s.sum then s.sum else s.sum + s.lost

def sum (values : List α) : α :=
  (values.foldl RunningSum.push ⟨zero, zero⟩).total

def mean (values : List α) : α := sum values / ofNat values.length

/-- The count, the mean and the sum of squared deviations of the values so far. -/
structure Moments (α : Type) where
  count : α
  mean : α
  deviations : α

def Moments.push (m : Moments α) (v : α) : Moments α :=
  let count := m.count + one
  let delta := v - m.mean
  let mean := m.mean + delta / count
  { count, mean, deviations := m.deviations + delta * (v - mean) }

def variance (values : List α) : α :=
  let m := values.foldl Moments.push ⟨zero, zero, zero⟩
  m.deviations / m.count

def standardDeviation (values : List α) : α := sqrt (variance values)

/-- The two positions in the sorted values between which a quantile lies, and the weight of the
upper one. -/
structure QuantileRank (α : Type) where
  lower : Nat
  upper : Nat
  weight : α

def QuantileRank.of (phi : α) (count : Nat) : QuantileRank α :=
  let last : α := ofNat count - one
  let rank := phi * last
  let lower := maximum (floor rank) zero
  { lower := toIndex lower
    upper := toIndex (minimum (lower + one) last)
    weight := rank - floor rank }

def ascending (values : List α) : List α :=
  values.mergeSort fun a b => (totalCompare a b).isLE

/-- The `phi`-quantile, interpolated linearly. Below zero and above one it is infinite. -/
def quantile (phi : α) (values : List α) : α :=
  if values.isEmpty || isNaN phi then nan
  else if lt phi zero then negativeInfinity
  else if lt one phi then infinity
  else
    let sorted := ascending values
    let rank := QuantileRank.of phi values.length
    sorted.getD rank.lower nan * (one - rank.weight) + sorted.getD rank.upper nan * rank.weight

/-- The best of the values that are not NaN, or NaN if there is none. -/
def extremum (better : α → α → Bool) (values : List α) : α :=
  values.foldl (fun best v => if isNaN best || better v best then v else best) nan

/-- The order in which values are selected: NaNs last, else by the total order. -/
def selectionOrder (largest : Bool) (a b : α) : Ordering :=
  match isNaN a, isNaN b with
  | true, true => .eq
  | true, false => .gt
  | false, true => .lt
  | false, false => if largest then totalCompare b a else totalCompare a b

/-- The positions of the first `k` values in selection order; equal ones in list order. -/
def select (largest : Bool) (k : α) (values : List α) : List Nat :=
  if isNaN k || lt k one then []
  else
    let ranked := values.zipIdx.mergeSort fun a b => (selectionOrder largest a.1 b.1).isLE
    (ranked.map Prod.snd).take (toIndex k)

def addOccurrence (counts : List (String × α)) (text : String) : List (String × α) :=
  match counts with
  | [] => [(text, one)]
  | (t, n) :: rest =>
    if t = text then (t, n + one) :: rest else (t, n) :: addOccurrence rest text

def occurrences (texts : List String) : List (String × α) := texts.foldl addOccurrence []

end SeriesQuery.Statistics
