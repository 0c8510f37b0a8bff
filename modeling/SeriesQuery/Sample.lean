import SeriesQuery.SampleValue
import SeriesQuery.Metric

/-!
# Samples

A sample is a value at a timestamp. The value written where a series ends is the staleness marker.
-/

namespace SeriesQuery

structure Sample (α : Type) where
  timestamp : Int
  value : α
deriving DecidableEq, Repr, Inhabited

def Sample.isStale {α : Type} [SampleValue α] (s : Sample α) : Bool := SampleValue.isStale s.value

/-- The samples of one series inside a queried range, in order of time. -/
structure SeriesSamples (α : Type) where
  metric : Metric
  samples : Array (Sample α)

/-- How many leading samples satisfy a condition that holds of no sample after one that fails it,
found by halving. -/
def partitionPoint {β : Type} (holds : β → Bool) (xs : Array β) : Nat := go 0 xs.size
where
  /-- The answer lies among the `size` positions from `base` on, or is the one behind them. -/
  go (base size : Nat) : Nat :=
    if 1 < size then
      let half := size / 2
      go (if xs[base + half]?.any holds then base + half else base) (size - half)
    else if xs[base]?.any holds then base + 1
    else base
  termination_by size
  decreasing_by omega

end SeriesQuery
