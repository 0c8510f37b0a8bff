import SeriesQuery.Metric.Record
import SeriesQuery.Proofs.CanonicalLabels
import SeriesQuery.Proofs.Fingerprint.Streaming

/-!
# Metrics are known by their labels

The last change to a label decides what it is after a builder is done, and labels that no change
names stay as they were. However a metric is made, its record holds the fingerprint of its labels,
so records are equal if their labels are, and their order agrees with that.
-/

open Std

namespace SeriesQuery

namespace Metric.Builder

variable {b b' : Builder}

theorem get?_build_remove (b : Builder) (removed name : String) :
    (b.remove removed).build.labels.get? name =
      if name = removed then none else b.build.labels.get? name := by
  have hfilter := SortedMap.get?_ofList_filter (· != removed) b.pairs name
  change (SortedMap.ofList (b.pairs.filter fun e => e.1 != removed)).get? name = _
  rw [hfilter]
  by_cases hname : name = removed
  · rw [if_pos hname, if_neg (by simp [hname])]
  · rw [if_neg hname, if_pos (by simp [hname])]
    rfl

theorem get?_build_change (b : Builder) (c : LabelChange) (name : String) :
    (b.change c).build.labels.get? name =
      if name = c.name then c.value? else b.build.labels.get? name := by
  cases c with
  | remove removed => exact b.get?_build_remove removed name
  | label changed value =>
    have hremove := b.get?_build_remove changed name
    change (b.label changed value).build.labels.get? name =
      if name = changed then if value.isEmpty then none else some value
      else b.build.labels.get? name
    unfold label
    by_cases hvalue : value.isEmpty = true
    · rw [if_pos hvalue, if_pos hvalue]
      exact hremove
    · rw [if_neg hvalue, if_neg hvalue]
      change (SortedMap.ofList ((b.remove changed).pairs ++ [(changed, value)])).get? name = _
      rw [SortedMap.ofList_concat, SortedMap.get?_insert]
      by_cases hname : name = changed
      · rw [if_pos hname, if_pos hname]
      · rw [if_neg hname] at hremove ⊢
        rw [if_neg hname]
        exact hremove

theorem changeAll_cons (b : Builder) (c : LabelChange) (rest : List LabelChange) :
    b.changeAll (c :: rest) = (b.change c).changeAll rest := rfl

theorem changeAll_append (b : Builder) (before after : List LabelChange) :
    b.changeAll (before ++ after) = (b.changeAll before).changeAll after :=
  List.foldl_append

/-- A label that no change names stays as it was. -/
theorem get?_build_untouched (b : Builder) {changes : List LabelChange} {name : String}
    (h : ∀ c ∈ changes, c.name ≠ name) :
    (b.changeAll changes).build.labels.get? name = b.build.labels.get? name := by
  induction changes generalizing b with
  | nil => rfl
  | cons c rest ih =>
    have hc : name ≠ c.name := (h c (.head _)).symm
    have hrest : ∀ d ∈ rest, d.name ≠ name := fun d hd => h d (.tail _ hd)
    rw [changeAll_cons, ih (b.change c) hrest, get?_build_change, if_neg hc]

theorem build_changeAll_congr (h : b.build = b'.build) (changes : List LabelChange) :
    (b.changeAll changes).build = (b'.changeAll changes).build := by
  induction changes generalizing b b' with
  | nil => exact h
  | cons c rest ih =>
    rw [changeAll_cons, changeAll_cons]
    apply ih
    apply ext_labels
    apply SortedMap.ext_get?
    intro name
    rw [get?_build_change, get?_build_change, h]

theorem build_change_comm (b : Builder) {c d : LabelChange} (h : c.name ≠ d.name) :
    ((b.change c).change d).build = ((b.change d).change c).build := by
  apply ext_labels
  apply SortedMap.ext_get?
  intro name
  simp only [get?_build_change]
  by_cases hd : name = d.name
  · have hc : name ≠ c.name := fun hc => h (hc.symm.trans hd)
    rw [if_pos hd, if_neg hc, if_pos hd]
  · rw [if_neg hd, if_neg hd]

end Metric.Builder

def LastChange (changes : List LabelChange) (name : String) (c : LabelChange) : Prop :=
  ∃ before after, changes = before ++ c :: after ∧ c.name = name ∧ ∀ d ∈ after, d.name ≠ name

theorem Metric.Builder.get?_build_of_lastChange (b : Builder) {changes : List LabelChange}
    {name : String} {c : LabelChange} (h : LastChange changes name c) :
    (b.changeAll changes).build.labels.get? name = c.value? := by
  obtain ⟨before, after, rfl, hname, hafter⟩ := h
  rw [changeAll_append, changeAll_cons, get?_build_untouched _ hafter, get?_build_change,
    if_pos hname.symm]

theorem Metric.build_toBuilder (m : Metric) : m.toBuilder.build = m :=
  ext_labels (SortedMap.ofList_toList m.labels)

theorem LabelTable.of_inj {labels labels' : Labels} : of labels = of labels' ↔ labels = labels' :=
  ⟨fun h => SortedMap.ext_toList (congrArg toList h), congrArg of⟩

namespace MetricRecord

theorem ofLabels_of (labels : Labels) : ofLabels (.of labels) = of (.ofLabels labels) := by
  have hhash := HashAlgorithm.fnv.hashPairs_eq_hash labels.toList
  exact congrArg (mk (.of labels)) hhash

theorem ofPairs_eq (pairs : List (String × String)) : ofPairs pairs = of (.ofPairs pairs) := by
  unfold ofPairs
  rw [LabelTable.ofList_eq_of, ofLabels_of]
  rfl

theorem ofFields_eq (fields : List (String × String)) : ofFields fields = of (.ofPairs fields) := by
  unfold ofFields
  rw [ofPairs_eq, Metric.ofPairs, SortedMap.ofList_toList]
  rfl

theorem withoutName_of (m : Metric) : (of m).withoutName = of m.withoutName := by
  have hrow : (of m).labels.withoutName = .of m.labels.withoutName :=
    LabelTable.withoutName_of m.labels
  unfold withoutName
  by_cases hname : ((of m).labels.get? metricName).isNone = true
  · -- the row without a name is the row itself, and so are the labels
    have hsame : (of m).labels.withoutName = (of m).labels := by
      unfold LabelTable.withoutName LabelTable.contains
      rw [if_pos (by simpa using hname)]
    have hlabels : m.labels.withoutName = m.labels :=
      LabelTable.of_inj.1 (hrow.symm.trans hsame)
    rw [if_pos hname]
    exact congrArg of (Metric.ext_labels hlabels.symm)
  · rw [if_neg hname, hrow, ofLabels_of]
    rfl

theorem retain_of (m : Metric) (f : LabelFilter) : (of m).retain f = of (m.restrict f) :=
  ofLabels_of (m.labels.restrict f)

theorem build_eq (b : Metric.Builder) : build b = of b.build := ofPairs_eq b.pairs

end MetricRecord

theorem Construction.record_eq (c : Construction) : c.record = .of c.metric := by
  induction c with
  | ofLabels labels => exact MetricRecord.ofLabels_of labels
  | ofPairs pairs => exact MetricRecord.ofPairs_eq pairs
  | ofFields fields => exact MetricRecord.ofFields_eq fields
  | withoutName seed ih =>
    rw [record, ih, MetricRecord.withoutName_of]
    rfl
  | retain seed f ih =>
    rw [record, ih, MetricRecord.retain_of]
    rfl
  | build changes => exact MetricRecord.build_eq _
  | rebuild seed changes ih =>
    rw [record, ih, MetricRecord.build_eq]
    rfl

namespace MetricRecord

theorem labels_of_inj {m m' : Metric} : (of m).labels = (of m').labels ↔ m = m' := by
  change LabelTable.of m.labels = .of m'.labels ↔ _
  rw [LabelTable.of_inj]
  exact ⟨Metric.ext_labels, congrArg Metric.labels⟩

theorem beq_of_iff {m m' : Metric} : (of m == of m') = true ↔ m = m' := by
  change (m.fingerprint == m'.fingerprint && (of m).labels == (of m').labels) = true ↔ _
  rw [Bool.and_eq_true, beq_iff_eq, beq_iff_eq, labels_of_inj, and_iff_right_iff_imp]
  rintro rfl
  rfl

theorem compare_of (m m' : Metric) : compare (of m) (of m') = compare m m' := rfl

theorem fingerprint_of (m : Metric) :
    (of m).fingerprint = HashAlgorithm.fnv.hashPairs (of m).labels.toList := by
  rw [HashAlgorithm.hashPairs_eq_hash]
  exact m.fingerprint_eq

end MetricRecord

namespace Construction

structure Rebuilds (seed : Construction) : Prop where
  get?_of_lastChange : ∀ changes name c, LastChange changes name c →
    (rebuild seed changes).record.labels.get? name = c.value?
  get?_untouched : ∀ changes name, (∀ c ∈ changes, LabelChange.name c ≠ name) →
    (rebuild seed changes).record.labels.get? name = seed.record.labels.get? name
  comm : ∀ before after (c d : LabelChange), c.name ≠ d.name →
    (rebuild seed (before ++ c :: d :: after)).record =
      (rebuild seed (before ++ d :: c :: after)).record
  unchanged : (rebuild seed []).record = seed.record

/-- A metric is known by its labels: its fingerprint is theirs, and equality and order of metrics
follow them. -/
structure KnownByLabels (c : Construction) : Prop where
  canonical : c.record.labels.Canonical
  fingerprint : c.record.fingerprint = HashAlgorithm.fnv.hashPairs c.record.labels.toList
  beq_iff : ∀ d : Construction, (c.record == d.record) = true ↔ c.record.labels = d.record.labels
  compare_eq_iff : ∀ d : Construction,
    compare c.record d.record = .eq ↔ (c.record == d.record) = true
  swap : ∀ d : Construction, compare d.record c.record = (compare c.record d.record).swap
  trans : ∀ d e : Construction, (compare c.record d.record).isLE = true →
    (compare d.record e.record).isLE = true → (compare c.record e.record).isLE = true
  record_eq : c.record = .of c.metric

theorem get?_record (c : Construction) (name : String) :
    c.record.labels.get? name = c.metric.labels.get? name := by
  rw [c.record_eq]
  exact LabelTable.get?_of c.metric.labels name

theorem rebuilds (seed : Construction) : seed.Rebuilds where
  get?_of_lastChange changes name c h := by
    rw [get?_record]
    exact seed.metric.toBuilder.get?_build_of_lastChange h
  get?_untouched changes name h := by
    have huntouched := seed.metric.toBuilder.get?_build_untouched h
    rw [Metric.build_toBuilder] at huntouched
    rw [get?_record, get?_record]
    exact huntouched
  comm before after c d h := by
    rw [record_eq, record_eq]
    apply congrArg MetricRecord.of
    have hswap := (seed.metric.toBuilder.changeAll before).build_change_comm h
    simp only [metric, Metric.Builder.changeAll_append, Metric.Builder.changeAll_cons]
    exact Metric.Builder.build_changeAll_congr hswap after
  unchanged := by
    rw [record_eq, record_eq]
    exact congrArg MetricRecord.of seed.metric.build_toBuilder

theorem knownByLabels (c : Construction) : c.KnownByLabels where
  canonical := by
    rw [c.record_eq]
    exact LabelTable.canonical_of c.metric.labels
  fingerprint := by
    rw [c.record_eq]
    exact MetricRecord.fingerprint_of c.metric
  beq_iff d := by rw [c.record_eq, d.record_eq, MetricRecord.beq_of_iff, MetricRecord.labels_of_inj]
  compare_eq_iff d := by
    rw [c.record_eq, d.record_eq, MetricRecord.compare_of, MetricRecord.beq_of_iff]
    exact LawfulEqCmp.compare_eq_iff_eq
  swap d := OrientedCmp.eq_swap
  trans d e := TransCmp.isLE_trans
  record_eq := c.record_eq

end Construction

/-- A builder leaves every label as the last change made it and labels without a change as they
were in the metric that it started from, in whatever order labels are changed. However metrics are
made, they are known by their labels. -/
theorem metrics_known_by_labels (c : Construction) :
    c.Rebuilds ∧ c.KnownByLabels ∧
      ∀ changes, (Construction.build changes).record =
        (Construction.rebuild (.ofLabels .empty) changes).record :=
  ⟨c.rebuilds, c.knownByLabels, fun _ => rfl⟩

/-- One label is emptied, one is removed and set again, and an empty one is left alone. -/
def LabelChange.reassignments : List LabelChange :=
  [.label "job" "", .label "host" "a", .remove "host", .label "host" "b"]

theorem reassigned_labels :
    let seed : Construction := .ofPairs [("zone", ""), ("job", "api")]
    let rebuilt : Construction := .rebuild seed LabelChange.reassignments
    rebuilt.record.labels.get? "host" = some "b" ∧ rebuilt.record.labels.get? "job" = none ∧
      rebuilt.record.labels.get? "zone" = some "" := by
  intro seed rebuilt
  obtain ⟨hrebuilds, -, -⟩ := metrics_known_by_labels seed
  have hhost : LastChange LabelChange.reassignments "host" (.label "host" "b") :=
    ⟨[.label "job" "", .label "host" "a", .remove "host"], [], rfl, rfl, nofun⟩
  have hjob : LastChange LabelChange.reassignments "job" (.label "job" "") :=
    ⟨[], _, rfl, rfl, by decide⟩
  have hzone : ∀ c ∈ LabelChange.reassignments, c.name ≠ "zone" := by decide
  have hseed : seed.record.labels.get? "zone" = some "" := by
    rw [Construction.get?_record]
    decide
  exact ⟨hrebuilds.get?_of_lastChange _ _ _ hhost, hrebuilds.get?_of_lastChange _ _ _ hjob,
    (hrebuilds.get?_untouched _ _ hzone).trans hseed⟩

end SeriesQuery
