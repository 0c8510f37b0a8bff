import SeriesQuery.Evaluation.Elements
import SeriesQuery.Proofs.Series.Entries

/-!
# Metrics of matched pairs

A builder that has only removed names is left with the other labels of the metric it started from.
A matched pair that copies nothing from its partner therefore keeps some labels of one series: of
these, what the matching selects if pairs are one to one, and not the name of the metric where the
operator drops it.
-/

namespace SeriesQuery

theorem SortedMap.filter_filter {κ ν : Type} [Ord κ] (m : SortedMap κ ν) (p q : κ → ν → Bool) :
    (m.filter p).filter q = m.filter fun k v => p k v && q k v :=
  ext_toList <| (List.filter_filter ..).trans (List.filter_congr fun _ _ => Bool.and_comm ..)

theorem SortedMap.filter_true {κ ν : Type} [Ord κ] (m : SortedMap κ ν) :
    (m.filter fun _ _ => true) = m :=
  ext_toList (List.filter_true m.toList)

namespace Metric.Builder

def ofLabels (labels : Labels) : Builder := ⟨labels.toList⟩

theorem build_ofLabels (labels : Labels) : (ofLabels labels).build = Metric.ofLabels labels :=
  congrArg Metric.ofLabels (SortedMap.ofList_toList labels)

theorem remove_ofLabels (labels : Labels) (name : String) :
    (ofLabels labels).remove name = ofLabels (labels.filter fun n _ => n != name) := rfl

theorem foldl_remove_ofLabels (labels : Labels) (names : List String) :
    names.foldl remove (ofLabels labels) =
      ofLabels (labels.filter fun n _ => !names.contains n) := by
  induction names generalizing labels with
  | nil => exact congrArg ofLabels (SortedMap.filter_true labels).symm
  | cons name rest ih =>
    rw [List.foldl_cons, remove_ofLabels, ih, SortedMap.filter_filter]
    refine congrArg (fun p => ofLabels (labels.filter p)) (funext fun n => funext fun _ => ?_)
    rw [List.contains_cons, Bool.not_or]
    rfl

end Metric.Builder

/-- Whether a matched pair keeps a label of the series that gives it its labels. -/
def VectorMatching.keeps (matching : VectorMatching) (dropsName : Bool) (name : String) : Bool :=
  !(dropsName && name == metricName) &&
    match matching.cardinality, matching.labels with
    | .oneToOne, some (.on names) => names.contains name
    | .oneToOne, some (.ignoring names) => !names.contains name
    | _, _ => true

section Kept

open SeriesQuery.Metric

variable {op : BinaryOp} {matching : VectorMatching} {toBool : Bool}

theorem named_ofLabels (dropsName : Bool) (base : Labels) :
    (if dropsName then (Builder.ofLabels base).remove metricName else Builder.ofLabels base) =
      Builder.ofLabels (base.filter fun name _ => !(dropsName && name == metricName)) := by
  cases dropsName with
  | true => rfl
  | false => exact congrArg Builder.ofLabels (SortedMap.filter_true base).symm

/-- A pair that copies nothing has the labels that its matching keeps. -/
theorem resultMetric_eq (hcopied : matching.copied = []) (many one : Metric) :
    resultMetric op matching toBool many one =
      .ofLabels (many.labels.filter fun name _ =>
        matching.keeps (op.dropsMetricName toBool) name) := by
  obtain ⟨cardinality, labels, copied⟩ := matching
  cases hcopied
  let named (base : Labels) : Builder :=
    if op.dropsMetricName toBool then (Builder.ofLabels base).remove metricName
    else Builder.ofLabels base
  have hnamed (base : Labels) : named base = Builder.ofLabels (base.filter fun name _ =>
      !(op.dropsMetricName toBool && name == metricName)) := named_ofLabels _ base
  have hplain : (named many.labels).build = .ofLabels (many.labels.filter fun name _ =>
      !(op.dropsMetricName toBool && name == metricName) && true) := by
    rw [hnamed, Builder.build_ofLabels]
    simp only [Bool.and_true]
  cases cardinality with
  | oneToOne =>
    cases labels with
    | none => exact hplain
    | some labels =>
      cases labels with
      | on names =>
        change (named (many.labels.restrict { mode := .include, names })).build = _
        rw [hnamed, Builder.build_ofLabels, Labels.restrict, SortedMap.filter_filter]
        refine congrArg (fun p => ofLabels (many.labels.filter p)) (funext fun name => ?_)
        simp [LabelFilter.admits, VectorMatching.keeps, Bool.and_comm]
      | ignoring names =>
        change (names.foldl Builder.remove (named many.labels)).build = _
        rw [hnamed, Builder.foldl_remove_ofLabels, Builder.build_ofLabels,
          SortedMap.filter_filter]
        rfl
  | _ => exact hplain

end Kept

end SeriesQuery
