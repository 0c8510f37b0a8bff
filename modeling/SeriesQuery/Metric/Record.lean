import SeriesQuery.Fingerprint.Streaming
import SeriesQuery.Labels.Table
import SeriesQuery.Metric

/-!
# Metrics as they are stored

A stored metric is a row of labels beside a fingerprint that is computed when the metric is made.
Nothing but the ways in which metrics are made ties the one to the other.
-/

open Std

namespace SeriesQuery

structure MetricRecord where
  labels : LabelTable
  fingerprint : Fingerprint

namespace MetricRecord

def of (m : Metric) : MetricRecord := ⟨.of m.labels, m.fingerprint⟩

def ofLabels (labels : LabelTable) : MetricRecord :=
  ⟨labels, HashAlgorithm.fnv.hashPairs labels.toList⟩

def ofPairs (pairs : List (String × String)) : MetricRecord := ofLabels (.ofList pairs)

/-- Reads the fields of a document, of which those with one name count once and come in order. -/
def ofFields (fields : List (String × String)) : MetricRecord :=
  ofPairs (SortedMap.ofList fields).toList

def withoutName (r : MetricRecord) : MetricRecord :=
  if (r.labels.get? metricName).isNone then r else ofLabels r.labels.withoutName

def retain (r : MetricRecord) (f : LabelFilter) : MetricRecord := ofLabels (r.labels.retain f)

def toBuilder (r : MetricRecord) : Metric.Builder := ⟨r.labels.toList⟩

def build (b : Metric.Builder) : MetricRecord := ofPairs b.pairs

/-- Records are equal if both the fingerprints and the labels are. -/
instance : BEq MetricRecord where
  beq r s := r.fingerprint == s.fingerprint && r.labels == s.labels

def compareLabels (r s : MetricRecord) : Ordering :=
  List.compareLex Metric.comparePairs r.labels.toList s.labels.toList

instance : Ord MetricRecord := ⟨compareLex (compareOn fingerprint) compareLabels⟩

instance : TransCmp compareLabels where
  eq_swap := by
    unfold compareLabels
    exact OrientedCmp.eq_swap
  isLE_trans := by
    unfold compareLabels
    exact TransCmp.isLE_trans

instance : TransOrd MetricRecord :=
  inferInstanceAs (TransCmp (compareLex (compareOn fingerprint) compareLabels))

end MetricRecord

inductive LabelChange
  | label (name value : String)
  | remove (name : String)

namespace LabelChange

def name : LabelChange → String
  | label name _ => name
  | remove name => name

/-- The value that a label has afterwards, if it is still there. -/
def value? : LabelChange → Option String
  | label _ value => if value.isEmpty then none else some value
  | remove _ => none

end LabelChange

namespace Metric.Builder

def change (b : Builder) : LabelChange → Builder
  | .label name value => b.label name value
  | .remove name => b.remove name

def changeAll (b : Builder) (changes : List LabelChange) : Builder := changes.foldl change b

end Metric.Builder

/-- The ways to make a metric, from scratch or from another one. -/
inductive Construction
  | ofLabels (labels : Labels)
  | ofPairs (pairs : List (String × String))
  | ofFields (fields : List (String × String))
  | withoutName (seed : Construction)
  | retain (seed : Construction) (f : LabelFilter)
  | build (changes : List LabelChange)
  | rebuild (seed : Construction) (changes : List LabelChange)

namespace Construction

def record : Construction → MetricRecord
  | ofLabels labels => .ofLabels (.of labels)
  | ofPairs pairs => .ofPairs pairs
  | ofFields fields => .ofFields fields
  | withoutName seed => seed.record.withoutName
  | retain seed f => seed.record.retain f
  | build changes => .build (Metric.Builder.new.changeAll changes)
  | rebuild seed changes => .build (seed.record.toBuilder.changeAll changes)

def metric : Construction → Metric
  | ofLabels labels => .ofLabels labels
  | ofPairs pairs => .ofPairs pairs
  | ofFields fields => .ofPairs fields
  | withoutName seed => seed.metric.withoutName
  | retain seed f => seed.metric.restrict f
  | build changes => (Metric.Builder.new.changeAll changes).build
  | rebuild seed changes => (seed.metric.toBuilder.changeAll changes).build

end Construction

end SeriesQuery
