import SeriesQuery.Metric
import SeriesQuery.Sample

/-!
# Histograms

A histogram is a group of series that differ in the bucket label only, whose value is the upper
bound of a bucket. A bucket counts all observations up to its bound.
-/

namespace SeriesQuery

structure Bucket (α : Type) where
  upperBound : α
  count : α
deriving DecidableEq, Repr

namespace Histogram

open Numeric

variable {α : Type}

section Buckets

variable [Numeric α]

def ascending (buckets : List (Bucket α)) : List (Bucket α) :=
  buckets.mergeSort fun a b => (totalCompare a.upperBound b.upperBound).isLE

/-- Raises each count to the largest one before it, beginning with `most`. -/
def raiseCounts (most : α) : List (Bucket α) → List (Bucket α)
  | [] => []
  | b :: rest =>
    if lt most b.count then b :: raiseCounts b.count rest
    else if lt b.count most then { b with count := most } :: raiseCounts most rest
    else b :: raiseCounts most rest

/-- The buckets in order of their bounds, with counts that do not fall. -/
def cumulative (buckets : List (Bucket α)) : List (Bucket α) :=
  match ascending buckets with
  | [] => []
  | b :: rest => raiseCounts b.count (b :: rest)

/-- The value at a rank inside a bucket, as if the observations in it were evenly spread. The
first bucket is taken to start at zero. -/
def interpolate (below : Option (Bucket α)) (b : Bucket α) (rank : α) : α :=
  match below with
  | none => zero + (b.upperBound - zero) * (rank / b.count)
  | some below =>
    below.upperBound + (b.upperBound - below.upperBound) *
      ((rank - below.count) / (b.count - below.count))

/-- The value at the rank that the quantile `q` has among the observations. A rank in the last
bucket counts as the bound before it, and one in a first bucket without positive values as its
bound. -/
def valueAtRank (buckets : List (Bucket α)) (q : α) : α :=
  match buckets.getLast? with
  | none => nan
  | some last =>
    let rank := q * last.count
    let lower := buckets.dropLast
    let i := partitionPoint (fun b => lt b.count rank) lower.toArray
    match lower[i]? with
    | none => (lower.getLast?.map Bucket.upperBound).getD nan
    | some b =>
      if i = 0 && le b.upperBound zero then b.upperBound
      else interpolate (if i = 0 then none else lower[i - 1]?) b rank

def bucketQuantile (q : α) (buckets : List (Bucket α)) : α :=
  if isNaN q then nan
  else if lt q zero then negativeInfinity
  else if lt one q then infinity
  else if buckets.length < 2 then nan
  else valueAtRank (cumulative buckets) q

end Buckets

variable [SampleValue α]

def groupOf (m : Metric) : Metric := ((m.toBuilder.remove bucketLabel).remove metricName).build

def upperBound? (m : Metric) : Option α := (m.get? bucketLabel).bind SampleValue.ofText?

/-- Adds a bucket series to its group. A series without a bound is left out. -/
def addBucket (groups : SeriesMap (List (Bucket α))) (m : Metric) (count : α) :
    SeriesMap (List (Bucket α)) :=
  match upperBound? m with
  | none => groups
  | some upperBound =>
    groups.alter (groupOf m) fun buckets => some (buckets.getD [] ++ [{ upperBound, count }])

def quantile (q : α) (series : SeriesMap α) : SeriesMap α :=
  (series.toList.foldl (fun groups e => addBucket groups e.1 e.2) .empty).mapValues
    fun _ buckets => bucketQuantile q buckets

end Histogram

end SeriesQuery
