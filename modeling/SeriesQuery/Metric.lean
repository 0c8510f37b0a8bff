import SeriesQuery.Labels
import SeriesQuery.Fingerprint

/-!
# Metrics

A metric is a label set with its fingerprint at hand. Metrics are ordered by fingerprint and,
where two label sets share one, by their labels.
-/

open Std

namespace SeriesQuery

structure Metric where
  labels : Labels
  fingerprint : Fingerprint
  fingerprint_eq : fingerprint = Fingerprint.fnv labels.toList

namespace Metric

def ofLabels (labels : Labels) : Metric := ⟨labels, Fingerprint.fnv labels.toList, rfl⟩

def ofPairs (pairs : List (String × String)) : Metric := ofLabels (.ofList pairs)

def empty : Metric := ofLabels .empty

instance : Inhabited Metric := ⟨empty⟩

theorem ext_labels {a b : Metric} (h : a.labels = b.labels) : a = b := by
  obtain ⟨la, fa, ha⟩ := a
  obtain ⟨lb, fb, hb⟩ := b
  obtain rfl : la = lb := h
  obtain rfl : fa = fb := ha.trans hb.symm
  rfl

instance : DecidableEq Metric := fun a b =>
  decidable_of_iff (a.labels = b.labels) ⟨ext_labels, congrArg labels⟩

def comparePairs : String × String → String × String → Ordering :=
  compareLex (compareOn Prod.fst) (compareOn Prod.snd)

/-- Label sets in lexicographic order of their pairs. -/
def compareLabels (a b : Metric) : Ordering :=
  List.compareLex comparePairs a.labels.toList b.labels.toList

instance : Ord Metric := ⟨compareLex (compareOn fingerprint) compareLabels⟩

instance : TransCmp comparePairs := inferInstanceAs (TransCmp (compareLex _ _))

instance : LawfulEqCmp comparePairs where
  eq_of_compare h :=
    have ⟨h₁, h₂⟩ := Ordering.then_eq_eq.1 h
    Prod.ext (LawfulEqCmp.eq_of_compare h₁) (LawfulEqCmp.eq_of_compare h₂)

instance : TransCmp compareLabels where
  eq_swap := by
    unfold compareLabels
    exact OrientedCmp.eq_swap
  isLE_trans := by
    unfold compareLabels
    exact TransCmp.isLE_trans

instance : TransOrd Metric :=
  inferInstanceAs (TransCmp (compareLex (compareOn fingerprint) compareLabels))

instance : LawfulEqOrd Metric where
  eq_of_compare {a b} h := by
    have hl := (Ordering.then_eq_eq.1 h).2
    unfold compareLabels at hl
    exact ext_labels (SortedMap.ext_toList (LawfulEqCmp.eq_of_compare hl))

def name? (m : Metric) : Option String := m.labels.name?

def get? (m : Metric) (name : String) : Option String := m.labels.get? name

def valueOf (m : Metric) (name : String) : String := m.labels.valueOf name

def withoutName (m : Metric) : Metric := ofLabels m.labels.withoutName

def restrict (m : Metric) (f : LabelFilter) : Metric := ofLabels (m.labels.restrict f)

def display (m : Metric) : String := m.labels.display

structure Builder where
  pairs : List (String × String)

namespace Builder

def new : Builder := ⟨[]⟩

def remove (b : Builder) (name : String) : Builder := ⟨b.pairs.filter fun e => e.1 != name⟩

/-- Sets a label; an empty value removes it. -/
def label (b : Builder) (name value : String) : Builder :=
  let rest := b.remove name
  if value.isEmpty then rest else ⟨rest.pairs ++ [(name, value)]⟩

def build (b : Builder) : Metric := ofPairs b.pairs

end Builder

def toBuilder (m : Metric) : Builder := ⟨m.labels.toList⟩

def setLabel (m : Metric) (name value : String) : Metric := (m.toBuilder.label name value).build

end Metric

abbrev SeriesMap (ν : Type) := SortedMap Metric ν

end SeriesQuery
