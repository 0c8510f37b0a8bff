import SeriesQuery.Proofs.Aggregation
import SeriesQuery.Proofs.Occurrences
import SeriesQuery.Proofs.PerSeries.Steps
import SeriesQuery.Proofs.ResultMetrics
import SeriesQuery.Proofs.Samples.History
import SeriesQuery.Time.Frames

/-!
# Counts of values

Counting values makes one element for every text that the values of a group have. The text becomes
a label of the element, in place of what the group may have there, so groups can collide that the
grouping tells apart. If none do, every element of the vector is counted in one place.
-/

namespace SeriesQuery

namespace Metric

theorem setLabel_ofLabels (labels : Labels) (l text : String) :
    (ofLabels labels).setLabel l text =
      if text.isEmpty then ofLabels (labels.filter fun n _ => n != l)
      else ofLabels ((labels.filter fun n _ => n != l).insert l text) := by
  let rest : Labels := labels.filter fun n _ => n != l
  have hinsert : SortedMap.ofList (rest.toList ++ [(l, text)]) = rest.insert l text := by
    rw [SortedMap.ofList_concat, SortedMap.ofList_toList]
  unfold setLabel toBuilder Builder.label
  by_cases htext : text.isEmpty = true
  · rw [if_pos htext, if_pos htext]
    exact Builder.build_ofLabels rest
  · rw [if_neg htext, if_neg htext]
    exact congrArg ofLabels hinsert

theorem get?_setLabel (labels : Labels) (l text name : String) :
    ((ofLabels labels).setLabel l text).labels.get? name =
      if name = l then if text.isEmpty then none else some text else labels.get? name := by
  have hrest := SortedMap.get?_filter labels (· != l) name
  rw [setLabel_ofLabels]
  by_cases htext : text.isEmpty = true
  · rw [if_pos htext, if_pos htext, ofLabels, hrest]
    by_cases hname : name = l <;> simp [hname]
  · rw [if_neg htext, if_neg htext, ofLabels, SortedMap.get?_insert, hrest]
    by_cases hname : name = l <;> simp [hname]

end Metric

def textMetric (l : String) (pair : Labels × String) : Metric :=
  (Metric.ofLabels pair.1).setLabel l pair.2

/-- Where no group has a label, its value tells the texts apart and the other labels the groups. -/
theorem textMetric_injective {l : String} {p q : Labels × String} (hp : p.1.get? l = none)
    (hq : q.1.get? l = none) (h : textMetric l p = textMetric l q) : p = q := by
  have hget (name : String) := congrArg (fun m : Metric => m.labels.get? name) h
  simp only [textMetric, Metric.get?_setLabel] at hget
  have htext : p.2 = q.2 := by
    have hself := hget l
    rw [if_pos rfl, if_pos rfl] at hself
    by_cases hempty : p.2.isEmpty = true <;> by_cases hempty' : q.2.isEmpty = true <;>
      simp_all
  refine Prod.ext (SortedMap.ext_get? fun name => ?_) htext
  by_cases hname : name = l
  · rw [hname, hp, hq]
  · have hother := hget name
    rwa [if_neg hname, if_neg hname] at hother

def groupTexts (filter : LabelFilter) (v : SeriesMap Binary64) : List (Labels × String) :=
  v.toList.map fun e => (e.1.labels.restrict filter, SampleValue.text e.2)

theorem length_groupTexts (filter : LabelFilter) (v : SeriesMap Binary64) :
    (groupTexts filter v).length = v.size :=
  List.length_map _

def memberTexts (filter : LabelFilter) (v : SeriesMap Binary64) (labels : Labels) : List String :=
  ((members filter v.toList labels).map Prod.snd).map SampleValue.text

theorem timesIn_groupTexts (filter : LabelFilter) (v : SeriesMap Binary64) (labels : Labels)
    (text : String) :
    timesIn (groupTexts filter v) (labels, text) = timesIn (memberTexts filter v labels) text := by
  unfold timesIn groupTexts memberTexts members List.count
  rw [List.map_map, List.countP_map, List.countP_map, List.countP_filter]
  apply List.countP_congr
  intro e _
  simp [Prod.ext_iff, and_comm]

theorem mem_groupTexts_iff {filter : LabelFilter} {v : SeriesMap Binary64} {labels : Labels}
    {text : String} :
    (labels, text) ∈ groupTexts filter v ↔ text ∈ memberTexts filter v labels := by
  unfold groupTexts memberTexts
  simp only [List.mem_map, mem_members_iff]
  constructor
  · rintro ⟨e, he, heq⟩
    cases heq
    exact ⟨e.2, ⟨e, ⟨he, rfl⟩, rfl⟩, rfl⟩
  · rintro ⟨-, ⟨e, ⟨he, rfl⟩, rfl⟩, rfl⟩
    exact ⟨e, he, rfl⟩

/-- Different groups, or different texts of one group, get the same labels. -/
def TextsCollide (l : String) (pairs : List (Labels × String)) : Prop :=
  ∃ p ∈ pairs, ∃ q ∈ pairs, p ≠ q ∧ textMetric l p = textMetric l q

theorem nodup_textMetric_iff {l : String} {pairs : List (Labels × String)} :
    (pairs.dedup.map (textMetric l)).Nodup ↔ ¬TextsCollide l pairs := by
  rw [nodup_map_iff pairs.nodup_dedup]
  simp only [List.mem_dedup]
  rfl

def textCounts (labels : Labels) (texts : List String) : List ((Labels × String) × Binary64) :=
  (Statistics.occurrences texts).map fun c => ((labels, c.1), c.2)

theorem map_fst_textCounts (labels : Labels) (texts : List String) :
    (textCounts labels texts).map Prod.fst =
      ((Statistics.occurrences texts : List (String × Binary64)).map Prod.fst).map
        (Prod.mk labels) := by
  unfold textCounts
  rw [List.map_map, List.map_map]
  rfl

theorem mem_textCounts_iff {labels labels' : Labels} {texts : List String} {text : String}
    {n : Binary64} : ((labels, text), n) ∈ textCounts labels' texts ↔
      labels' = labels ∧ text ∈ texts ∧ n = Binary64.counted (timesIn texts text) := by
  unfold textCounts
  rw [List.mem_map, ← mem_tally_iff, ← (Statistics.occurrences_perm texts).mem_iff]
  constructor
  · rintro ⟨c, hc, heq⟩
    cases heq
    exact ⟨rfl, hc⟩
  · rintro ⟨rfl, hc⟩
    exact ⟨_, hc, rfl⟩

section Counted

variable (hash : LabelHash) (grouping : Grouping) (l : String) (v : SeriesMap Binary64)

def groupedCounts : List ((Labels × String) × Binary64) :=
  (groupElements hash grouping.filter v.toList).toList.flatMap fun group =>
    textCounts group.1 ((group.2.map Prod.snd).map SampleValue.text)

theorem aggregated_eq_map_groupedCounts :
    aggregated hash .countValues grouping (.label l) v =
      (groupedCounts hash grouping v).map fun c => (textMetric l c.1, c.2) := by
  unfold aggregated groupedCounts
  rw [List.map_flatMap]
  apply List.flatMap_congr
  intro group _
  unfold textCounts
  rw [List.map_map]
  rfl

theorem mem_groupedCounts_iff {labels : Labels} {text : String} {n : Binary64} :
    ((labels, text), n) ∈ groupedCounts hash grouping v ↔
      (labels, text) ∈ groupTexts grouping.filter v ∧
        n = Binary64.counted (timesIn (groupTexts grouping.filter v) (labels, text)) := by
  unfold groupedCounts
  rw [List.mem_flatMap, mem_groupTexts_iff, timesIn_groupTexts]
  constructor
  · rintro ⟨⟨labels', ms⟩, hgroup, hc⟩
    obtain ⟨-, rfl⟩ := (mem_groupElements_iff hash grouping.filter).1 hgroup
    obtain ⟨rfl, hcount⟩ := mem_textCounts_iff.1 hc
    exact hcount
  · intro hc
    have hne : members grouping.filter v.toList labels ≠ [] := by
      intro hnil
      simp [memberTexts, hnil] at hc
    exact ⟨(labels, _), (mem_groupElements_iff hash grouping.filter).2 ⟨hne, rfl⟩,
      mem_textCounts_iff.2 ⟨rfl, hc⟩⟩

/-- Texts differ within a group, and labels between groups. -/
theorem nodup_groupedCounts : ((groupedCounts hash grouping v).map Prod.fst).Nodup := by
  unfold groupedCounts
  simp only [List.map_flatMap, map_fst_textCounts]
  rw [List.nodup_flatMap]
  constructor
  · intro group _
    apply List.Nodup.map (Prod.mk_right_injective group.1)
    rw [((Statistics.occurrences_perm _).map Prod.fst).nodup_iff]
    exact nodup_tally _
  · have hdistinct := List.pairwise_map.1 (nodup_groupElements hash grouping.filter v.toList)
    refine hdistinct.imp fun {group group'} hne p hp hp' => ?_
    obtain ⟨_, -, rfl⟩ := List.mem_map.1 hp
    obtain ⟨_, -, heq⟩ := List.mem_map.1 hp'
    exact hne (congrArg Prod.fst heq).symm

theorem groupedCounts_perm :
    (groupedCounts hash grouping v).Perm (tally (groupTexts grouping.filter v)) := by
  refine (List.perm_ext_iff_of_nodup (nodup_groupedCounts hash grouping v).of_map
    (nodup_tally _).of_map).2 ?_
  rintro ⟨⟨labels, text⟩, n⟩
  rw [mem_groupedCounts_iff, mem_tally_iff]

theorem aggregated_perm : (aggregated hash .countValues grouping (.label l) v).Perm
    ((tally (groupTexts grouping.filter v)).map fun c => (textMetric l c.1, c.2)) := by
  rw [aggregated_eq_map_groupedCounts]
  exact (groupedCounts_perm hash grouping v).map _

theorem nodup_aggregated_iff :
    ((aggregated hash .countValues grouping (.label l) v).map Prod.fst).Nodup ↔
      ¬TextsCollide l (groupTexts grouping.filter v) := by
  have hkeys : ((tally (groupTexts grouping.filter v)).map
      fun c => (textMetric l c.1, c.2)).map Prod.fst =
        (groupTexts grouping.filter v).dedup.map (textMetric l) := by
    rw [← map_fst_tally, List.map_map, List.map_map]
    rfl
  rw [((aggregated_perm hash grouping l v).map Prod.fst).nodup_iff, hkeys, nodup_textMetric_iff]

end Counted

/-- What counting makes of a vector: one element for every group and text, with the number of the
elements that have both. -/
structure CountsTexts (l : String) (filter : LabelFilter) (v out : SeriesMap Binary64) : Prop where
  size_eq : out.size = (groupTexts filter v).dedup.length
  get?_eq_some_iff : ∀ m n, out.get? m = some n ↔ ∃ p ∈ groupTexts filter v,
    textMetric l p = m ∧ n = Binary64.counted (timesIn (groupTexts filter v) p)
  sum_eq : v.size ≤ 2 ^ 53 → (out.values.map Binary64.value).sum = v.size

section Vectors

variable {hash : LabelHash} {grouping : Grouping} {l : String} {v : SeriesMap Binary64}

theorem countsTexts_ofList
    (h : ((aggregated hash .countValues grouping (.label l) v).map Prod.fst).Nodup) :
    CountsTexts l grouping.filter v
      (.ofList (aggregated hash .countValues grouping (.label l) v)) := by
  have hperm := aggregated_perm hash grouping l v
  have hlist := toList_ofList_perm h
  refine ⟨?size_eq, ?get?_eq_some_iff, ?sum_eq⟩
  case size_eq =>
    rw [size_ofList h, hperm.length_eq, List.length_map, ← map_fst_tally, List.length_map]
  case get?_eq_some_iff =>
    intro m n
    rw [SortedMap.get?_ofList h, hperm.mem_iff, List.mem_map]
    constructor
    · rintro ⟨⟨p, n'⟩, hp, heq⟩
      cases heq
      obtain ⟨hmem, hn⟩ := mem_tally_iff.1 hp
      exact ⟨p, hmem, rfl, hn⟩
    · rintro ⟨p, hmem, rfl, hn⟩
      exact ⟨(p, n), mem_tally_iff.2 ⟨hmem, hn⟩, rfl⟩
  case sum_eq =>
    intro hsize
    rw [← length_groupTexts grouping.filter] at hsize ⊢
    have hvalues := ((hlist.trans hperm).map Prod.snd).map Binary64.value
    rw [SortedMap.values, hvalues.sum_eq, List.map_map, List.map_map]
    exact sum_tally hsize

theorem checkLabelName_ok (hl : isLabelName l = true) : checkLabelName l = .ok () := if_pos hl

theorem param?_label (hl : isLabelName l = true) :
    Value.param? (some (.string l)) = .ok (.label l : AggregateParam Binary64) := by
  change ((checkLabelName l).mapError QueryError.invalidArgument >>= fun _ => _) = _
  rw [checkLabelName_ok hl]
  rfl

theorem Value.countValues_of_collide (hl : isLabelName l = true)
    (h : TextsCollide l (groupTexts grouping.filter v)) :
    ∃ m, Value.aggregate hash .countValues grouping (some (.string l)) (.vector v) =
      .error (.duplicateSeries m) := by
  rw [Value.aggregate_vector (param?_label hl)]
  cases hresult : collect .duplicateSeries (aggregated hash .countValues grouping (.label l) v) with
  | error e =>
    obtain ⟨m, rfl⟩ := collect_error hresult
    exact ⟨m, rfl⟩
  | ok out =>
    exact absurd h ((nodup_aggregated_iff hash grouping l v).1 (collect_eq_ok_iff.1 hresult).1)

theorem Value.countValues_of_not_collide (hl : isLabelName l = true)
    (h : ¬TextsCollide l (groupTexts grouping.filter v)) :
    ∃ x, Value.aggregate hash .countValues grouping (some (.string l)) (.vector v) = .ok x ∧
      ∃ out, x = .vector out ∧ CountsTexts l grouping.filter v out := by
  have hnodup := (nodup_aggregated_iff hash grouping l v).2 h
  exact ⟨_, (Value.aggregate_eq_ok_iff (param?_label hl)).2 ⟨hnodup, rfl⟩, _, rfl,
    countsTexts_ofList hnodup⟩

theorem not_textsCollide_of_absent {filter : LabelFilter}
    (h : ∀ e ∈ v.toList, (e.1.labels.restrict filter).get? l = none) :
    ¬TextsCollide l (groupTexts filter v) := by
  have habsent : ∀ p ∈ groupTexts filter v, p.1.get? l = none := by
    intro p hp
    obtain ⟨e, he, rfl⟩ := List.mem_map.1 hp
    exact h e he
  rintro ⟨p, hp, q, hq, hne, heq⟩
  exact hne (textMetric_injective (habsent p hp) (habsent q hq) heq)

end Vectors

/-- Counting at several frames fails because of duplicates exactly if groups and texts collide at
one of them, and not where no group has the label. Otherwise every element is counted at each
frame. -/
structure CountsValues {n : Nat} (l : String) (filter : LabelFilter)
    (vectors : Fin n → SeriesMap Binary64)
    (outcome : Except QueryError (Fin n → Value Binary64)) : Prop where
  fails_iff : (∃ m, outcome = .error (.duplicateSeries m)) ↔
    ∃ i, TextsCollide l (groupTexts filter (vectors i))
  succeeds : (¬∃ i, TextsCollide l (groupTexts filter (vectors i))) →
    ∃ values, outcome = .ok values ∧
      ∀ i, ∃ out, values i = .vector out ∧ CountsTexts l filter (vectors i) out
  absent : (∀ i, ∀ e ∈ (vectors i).toList, (e.1.labels.restrict filter).get? l = none) →
    ∃ values, outcome = .ok values ∧
      ∀ i, ∃ out, values i = .vector out ∧ CountsTexts l filter (vectors i) out

theorem countsValues {β : Type} {n : Nat} {hash : LabelHash} {grouping : Grouping} {l : String}
    (hl : isLabelName l = true) {vectors : Fin n → SeriesMap Binary64}
    {read : β → Fin n → Value Binary64} {x : Except QueryError β}
    (hframes : Framewise read x fun i =>
      Value.aggregate hash .countValues grouping (some (.string l)) (.vector (vectors i)))
    (herror : ∀ e, x = .error e → ∃ m, e = .duplicateSeries m) :
    CountsValues l grouping.filter vectors (x.map read) := by
  obtain ⟨hfails, hsucceeds⟩ := hframes.fails_or_holds
    (fun i x => ∃ out, x = .vector out ∧
      CountsTexts l grouping.filter (vectors i) out)
    herror (fun _ => Value.countValues_of_collide hl)
    (fun _ => Value.countValues_of_not_collide hl)
  refine ⟨hfails, hsucceeds, fun habsent => hsucceeds ?_⟩
  rintro ⟨i, hcollide⟩
  exact not_textsCollide_of_absent (habsent i) hcollide

structure CountsMembers (values : List Binary64) (counts : List (String × Binary64)) : Prop where
  nodup : (counts.map Prod.fst).Nodup
  mem_iff : ∀ text n, (text, n) ∈ counts ↔ (∃ v ∈ values, SampleValue.text v = text) ∧
    n = Binary64.counted (values.countP fun v => SampleValue.text v = text)
  sum_eq : values.length ≤ 2 ^ 53 → (counts.map fun c => c.2.value).sum = values.length

theorem countsMembers_occurrences (values : List Binary64) :
    CountsMembers values (Statistics.occurrences (values.map SampleValue.text)) := by
  have hperm := Statistics.occurrences_perm (values.map SampleValue.text)
  refine ⟨?nodup, ?mem_iff, ?sum_eq⟩
  case nodup =>
    rw [(hperm.map Prod.fst).nodup_iff]
    exact nodup_tally _
  case mem_iff =>
    intro text n
    have htimes : timesIn (values.map SampleValue.text) text =
        values.countP fun v => SampleValue.text v = text := List.countP_map
    rw [hperm.mem_iff, mem_tally_iff, List.mem_map, htimes]
  case sum_eq =>
    intro hlength
    rw [← List.length_map SampleValue.text] at hlength ⊢
    rw [(hperm.map _).sum_eq]
    exact sum_tally hlength

section Evaluators

variable {grouping : Grouping} {l : String}

def Expr.countValues (l : String) (grouping : Grouping) (e : Expr Binary64) : Expr Binary64 :=
  .aggregate .countValues e (some (.string l)) grouping

theorem Columnar.stepwise_error {n : Nat} {step : Fin n → Except QueryError (SeriesMap Binary64)}
    {e : QueryError} (h : stepwise step = .error e) : ∃ i, step i = .error e := by
  rcases bind_eq_error_iff.1 h with hsteps | ⟨_, -, hpure⟩
  · exact exists_of_ofFnM_error hsteps
  · cases hpure

theorem Columnar.countValues_error {n : Nat} {hash : LabelHash} (hl : isLabelName l = true)
    {rows : Rows Binary64 n} {e : QueryError}
    (h : aggregate hash .countValues grouping (some (.string l)) (.vector rows) = .error e) :
    ∃ m, e = .duplicateSeries m := by
  have hparam : paramAt? (some (Column.string l : Column Binary64 n)) =
      .ok fun _ => .label l := by
    change ((checkLabelName l).mapError QueryError.invalidArgument >>= fun _ => _) = _
    rw [checkLabelName_ok hl]
    rfl
  unfold aggregate at h
  rw [hparam] at h
  obtain ⟨i, hi⟩ := stepwise_error (h : stepwise _ = _)
  exact collect_error hi

variable {c : Context Binary64} {e : Expr Binary64}

theorem Columnar.outcome_countValues : (eval c (e.countValues l grouping)).outcome =
    (eval c e).outcome >>= aggregate c.hash .countValues grouping (some (.string l)) := by
  rw [Expr.countValues, eval, Traced.outcome_withSpan, evalParam, eval, map_pure, pure_bind,
    Traced.outcome_bind]
  rfl

theorem Stepwise.goesOn_countValues (t : Int) (v : SeriesMap Binary64) :
    Step.GoesOn (valueAt c t e) (.vector v) (valueAt c t (e.countValues l grouping))
      (Value.aggregate c.hash .countValues grouping (some (.string l)) (.vector v)) := by
  intro cache cache' hfind
  exact (Step.outcome_bind_of_ok hfind).trans (Step.outcome_lift _ cache')

/-- Counting values puts every value of a group into one count and, column by column or step by
step, every element of a vector, unless groups and texts collide. -/
theorem count_values_conserves (c : Context Binary64) (e : Expr Binary64) (grouping : Grouping)
    {l : String} (hl : isLabelName l = true) :
    (∀ values : List Binary64, ∃ counts,
      AggregateOp.countValues.reduce values (.label l) = .counts counts ∧
        CountsMembers values counts) ∧
    (∀ rows, (Columnar.eval c e).outcome = .ok (.vector rows) →
      CountsValues l grouping.filter (fun i => rows.atFrame i)
        ((Columnar.eval c (e.countValues l grouping)).outcome.map Column.atFrame)) ∧
    ∀ {n : Nat} (times : Fin n → Int) cache cache' inputs,
      (Vector.ofFnM (fun i => Stepwise.valueAt c (times i) e) cache).outcome =
        .ok (inputs, cache') →
      ∀ vectors : Fin n → SeriesMap Binary64, (∀ i, inputs.get i = .vector (vectors i)) →
        CountsValues l grouping.filter vectors
          ((Vector.ofFnM (fun i => Stepwise.valueAt c (times i) (e.countValues l grouping))
            cache).outcome.map fun r => r.1.get) := by
  refine ⟨fun values => ⟨_, rfl, countsMembers_occurrences values⟩, ?columns, ?steps⟩
  case columns =>
    intro rows hrows
    have houtcome : (Columnar.eval c (e.countValues l grouping)).outcome =
        Columnar.aggregate c.hash .countValues grouping (some (.string l)) (.vector rows) := by
      rw [Columnar.outcome_countValues, hrows]
      rfl
    rw [houtcome]
    exact countsValues hl
      (Columnar.framewise_aggregate c.hash .countValues grouping (some (.string l)) (.vector rows))
      fun _ => Columnar.countValues_error hl
  case steps =>
    intro n times cache cache' inputs hfind vectors hvectors
    let step (i : Fin n) : Except QueryError (Value Binary64) :=
      Value.aggregate c.hash .countValues grouping (some (.string l)) (.vector (vectors i))
    have hgo (i : Fin n) : Step.GoesOn (Stepwise.valueAt c (times i) e) (inputs.get i)
        (Stepwise.valueAt c (times i) (e.countValues l grouping)) (step i) := by
      rw [hvectors i]
      exact Stepwise.goesOn_countValues (times i) (vectors i)
    rw [Step.outcome_ofFnM_get hgo hfind]
    refine countsValues hl (Framewise.ofFnM step) fun e' he => ?_
    obtain ⟨i, hi⟩ := exists_of_ofFnM_error he
    unfold step at hi
    rw [Value.aggregate_vector (param?_label hl)] at hi
    exact collect_error (map_eq_error_iff.1 hi)

end Evaluators

def requestOfEach : SeriesMap Binary64 :=
  .ofList [(.requestsHere, Numeric.one), (.requestsThere, Numeric.one)]

/-- The counts of two hosts collide if they replace the hosts, and are one for each host if they
do not. -/
theorem requests_counted_by_host :
    (isLabelName "host" = true ∧ ∃ rows,
      (Columnar.eval .endingRequests (.selector (.named "requests"))).outcome =
        .ok (.vector rows) ∧
      ∃ i : Fin 3, TextsCollide "host"
        (groupTexts (Grouping.keeping ["host"]).filter (rows.atFrame i))) ∧
    isLabelName "value" = true ∧ ∃ cache inputs,
      (Vector.ofFnM (fun _ : Fin 1 => Stepwise.valueAt .endingRequests 60000
        (.selector (.named "requests"))) .empty).outcome = .ok (inputs, cache) ∧
      inputs.get 0 = .vector requestOfEach ∧
      ∃ out, CountsTexts "value" (Grouping.keeping ["host"]).filter requestOfEach out ∧
        (out.values.map Binary64.value).sum = 2 := by
  have hhost : isLabelName "host" = true := by decide
  have hvalue : isLabelName "value" = true := by decide
  refine ⟨⟨hhost, ?_⟩, hvalue, ?_⟩
  · obtain ⟨-, hcolumns, -⟩ := count_values_conserves .endingRequests
      (.selector (.named "requests")) (.keeping ["host"]) hhost
    have hvector : (Columnar.eval .endingRequests
        (.selector (.named "requests"))).outcome.toOption.any (·.valueType = .vector) = true := by
      decide +kernel
    have hfailed : (Columnar.eval .endingRequests ((Expr.selector (.named "requests")).countValues
        "host" (.keeping ["host"]))).outcome.isOk = false := by
      decide +kernel
    obtain ⟨operand, hoperand, htype⟩ := exists_of_any hvector
    cases operand with
    | vector rows =>
      refine ⟨rows, hoperand, ?_⟩
      by_contra hclear
      obtain ⟨values, hok, -⟩ := (hcolumns rows hoperand).succeeds hclear
      obtain ⟨column, hcolumn, -⟩ := map_eq_ok_iff.1 hok
      rw [hcolumn] at hfailed
      cases hfailed
    | _ => simp [Column.valueType] at htype
  · obtain ⟨-, -, hsteps⟩ := count_values_conserves .endingRequests
      (.selector (.named "requests")) (.keeping ["host"]) hvalue
    have hvectors : (Vector.ofFnM (fun _ : Fin 1 => Stepwise.valueAt .endingRequests 60000
        (.selector (.named "requests"))) .empty).outcome.toOption.any
          (fun r => (r.1.get 0).vector?.toOption = some requestOfEach) = true := by
      decide +kernel
    obtain ⟨⟨inputs, cache⟩, hinputs, hvector⟩ := exists_of_any hvectors
    have hget : inputs.get 0 = .vector requestOfEach := by
      cases hx : inputs.get 0 <;> simp_all [Value.vector?, Except.toOption]
    have hcounts := hsteps _ .empty cache inputs hinputs (fun _ => requestOfEach) fun i => by
      rwa [Subsingleton.elim i 0]
    obtain ⟨values, -, hvalues⟩ := hcounts.absent fun _ => by decide +kernel
    obtain ⟨out, -, hout⟩ := hvalues 0
    exact ⟨cache, inputs, hinputs, hget, out, hout, hout.sum_eq (by decide)⟩

end SeriesQuery
