import SeriesQuery.Proofs.Fetching
import SeriesQuery.Proofs.PerSeries.Columns
import SeriesQuery.Proofs.PerSeries.Steps
import SeriesQuery.Proofs.ResultMetrics
import SeriesQuery.Proofs.VectorMatching

/-!
# Unique results of one to one matching

Where pairs are one to one and nothing is copied, the labels by which a pair was matched can be read
off its result, so two pairs never have one result: the labels of a match are unique among the
pairs. The one exception is a matched metric name that the operator drops. The evaluators look for
results that occur twice, and here they never find any.
-/

namespace SeriesQuery

variable {α : Type}

/-- Pairs are one to one and copy nothing, and the name of the metric is not matched where it is
dropped. -/
structure VectorMatching.Plain (matching : VectorMatching) (dropsName : Bool) : Prop where
  oneToOne : matching.cardinality = .oneToOne
  copied : matching.copied = []
  name : dropsName = true → ∀ names, matching.labels = some (.on names) → metricName ∉ names

namespace VectorMatching.Plain

variable {matching : VectorMatching} {dropsName : Bool} {name : String}

theorem keeps_of_admits (h : matching.Plain dropsName)
    (hadmits : matching.filter.admits name = true) : matching.keeps dropsName name = true := by
  obtain ⟨hcardinality, -, hname⟩ := h
  unfold keeps
  rw [hcardinality]
  unfold filter LabelFilter.admits at hadmits
  cases hlabels : matching.labels with
  | none => simp_all
  | some labels =>
    cases labels with
    | on names =>
      rw [hlabels] at hadmits
      have hmem : name ∈ names := by simpa using hadmits
      cases hdrops : dropsName with
      | false => simpa using hmem
      | true =>
        have hne : name ≠ metricName := by
          rintro rfl
          exact hname hdrops names hlabels hmem
        simpa [hne] using hmem
    | ignoring names => simp_all

/-- Without its name a result is left with the labels of the match. -/
theorem keeps_eq_admits (h : matching.Plain true) :
    matching.keeps true name = matching.filter.admits name := by
  rw [Bool.eq_iff_iff]
  refine ⟨fun hkeeps => ?_, h.keeps_of_admits⟩
  unfold keeps at hkeeps
  rw [h.oneToOne] at hkeeps
  unfold filter LabelFilter.admits
  cases hlabels : matching.labels with
  | none => simp_all
  | some labels =>
    cases labels with
    | on names => simp_all
    | ignoring names => simp_all

end VectorMatching.Plain

section Results

variable {op : BinaryOp} {matching : VectorMatching} {toBool : Bool}

theorem restrict_resultMetric (h : matching.Plain (op.dropsMetricName toBool))
    (many one : Metric) :
    (resultMetric op matching toBool many one).labels.restrict matching.filter =
      many.labels.restrict matching.filter := by
  rw [resultMetric_eq h.copied]
  unfold Metric.ofLabels Labels.restrict
  rw [SortedMap.filter_filter]
  refine congrArg many.labels.filter (funext fun name => funext fun _ => ?_)
  cases hadmits : matching.filter.admits name with
  | true => rw [h.keeps_of_admits hadmits, Bool.and_self]
  | false => rw [Bool.and_false]

theorem labels_resultMetric (hdrops : op.dropsMetricName toBool = true)
    (h : matching.Plain (op.dropsMetricName toBool)) (many one : Metric) :
    (resultMetric op matching toBool many one).labels = many.labels.restrict matching.filter := by
  rw [resultMetric_eq h.copied]
  rw [hdrops] at h ⊢
  unfold Metric.ofLabels Labels.restrict
  have hkeeps : (fun name (_ : String) => matching.keeps true name) =
      fun name _ => matching.filter.admits name :=
    funext fun name => funext fun _ => h.keeps_eq_admits
  rw [hkeeps]

end Results

section Pairs

variable {ι : Type}

/-- The keys of the elements that make a pair are keys of elements with a partner, in order. -/
theorem sublist_pairedKeys {partner : Labels → Option (Keyed ι α)}
    {join : Keyed ι α → Keyed ι α → Option (Joined ι α)} {elements : List (Keyed ι α)}
    {key : Joined ι α → Labels}
    (hkey : ∀ e ∈ elements, ∀ mate j, join e mate = some j → key j = e.key.labels) :
    ((pairsWith partner join elements).map key).Sublist (pairedKeys partner elements) := by
  induction elements with
  | nil => exact .slnil
  | cons e rest ih =>
    have ih := ih fun e' he' => hkey e' (.tail _ he')
    unfold pairsWith pairedKeys at ih ⊢
    rw [List.flatMap_cons, List.map_append, List.map_cons]
    cases hmate : partner e.key.labels with
    | none =>
      rw [List.filter_cons_of_neg (by simp [hmate])]
      exact ih
    | some mate =>
      rw [List.filter_cons_of_pos (by simp [hmate]), Option.bind_some]
      cases hjoined : join e mate with
      | none => exact ih.cons _
      | some j =>
        have hj := hkey e (.head _) mate j hjoined
        simpa [hj] using ih

theorem mem_pairsWith {partner : Labels → Option (Keyed ι α)}
    {join : Keyed ι α → Keyed ι α → Option (Joined ι α)} {elements : List (Keyed ι α)}
    {j : Joined ι α} (h : j ∈ pairsWith partner join elements) :
    ∃ e ∈ elements, ∃ mate, partner e.key.labels = some mate ∧ join e mate = some j := by
  obtain ⟨e, he, hj⟩ := List.mem_flatMap.1 h
  obtain ⟨mate, hmate, hjoin⟩ := Option.bind_eq_some_iff.1 (Option.mem_toList.1 hj)
  exact ⟨e, he, mate, hmate, hjoin⟩

theorem labels_key_of_mem_keyed {hash : LabelHash} {filter : LabelFilter}
    {elements : List (Metric × α)} {e : Keyed Metric α} (h : e ∈ keyed hash filter elements) :
    e.key.labels = e.item.labels.restrict filter := by
  obtain ⟨⟨m, v⟩, _, rfl⟩ := List.mem_map.1 h
  rfl

variable [SampleValue α] {op : BinaryOp} {matching : VectorMatching} {toBool : Bool}

omit [SampleValue α] in
theorem key_of_partnerOf {others : List (Keyed ι α)} {labels : Labels} {mate : Keyed ι α}
    (h : partnerOf others labels = some mate) : mate ∈ others ∧ mate.key.labels = labels := by
  have hfound := List.find?_some h
  exact ⟨List.mem_of_find?_eq_some h, beq_iff_eq.1 hfound⟩

theorem items_of_joinPair {l r : Keyed ι α} {j : Joined ι α}
    (h : joinPair op toBool l r = some j) : j.left = l.item ∧ j.right = r.item := by
  obtain ⟨v, -, rfl⟩ := Option.map_eq_some_iff.1 h
  exact ⟨rfl, rfl⟩

/-- The series of each pair agree in the match labels, in which no two pairs agree. -/
structure MatchedOnce (filter : LabelFilter) (joined : List (Joined Metric α)) : Prop where
  agree : ∀ j ∈ joined, j.left.labels.restrict filter = j.right.labels.restrict filter
  nodup : (joined.map fun j => j.left.labels.restrict filter).Nodup

theorem matchedOnce_of_joinStep {hash : LabelHash} {left right : List (Metric × α)}
    {joined : List (Joined Metric α)} (hcardinality : matching.cardinality = .oneToOne)
    (h : joinStep op matching toBool (keyed hash matching.filter left)
      (keyed hash matching.filter right) = .ok joined) :
    MatchedOnce matching.filter joined := by
  rw [joinStep_eq_ok_iff op matching toBool (fun _ => hashed_of_mem_keyed)
    fun _ => hashed_of_mem_keyed] at h
  split at h
  · subst h
    exact ⟨nofun, .nil⟩
  · rw [hcardinality] at h
    obtain ⟨⟨-, hunique⟩, rfl⟩ := h
    constructor
    · intro j hj
      obtain ⟨e, he, mate, hmate, hjoin⟩ := mem_pairsWith hj
      obtain ⟨hmem, hlabels⟩ := key_of_partnerOf hmate
      obtain ⟨hleft, hright⟩ := items_of_joinPair hjoin
      rw [hleft, hright, ← labels_key_of_mem_keyed he, ← labels_key_of_mem_keyed hmem, hlabels]
    · refine List.Nodup.sublist (sublist_pairedKeys fun e he mate j hjoin => ?_)
        (hunique (decide_eq_true rfl))
      rw [(items_of_joinPair hjoin).1, labels_key_of_mem_keyed he]

omit [SampleValue α] in
theorem MatchedOnce.nodup_results {joined : List (Joined Metric α)}
    (hplain : matching.Plain (op.dropsMetricName toBool))
    (h : MatchedOnce matching.filter joined) :
    (joined.map fun j => resultMetric op matching toBool j.left j.right).Nodup := by
  refine List.Nodup.of_map (fun m => m.labels.restrict matching.filter) ?_
  rw [List.map_map]
  have hkeys : joined.map ((fun m : Metric => m.labels.restrict matching.filter) ∘
      fun j => resultMetric op matching toBool j.left j.right) =
      joined.map fun j => j.left.labels.restrict matching.filter :=
    List.map_congr_left fun j _ => restrict_resultMetric hplain j.left j.right
  rw [hkeys]
  exact h.nodup

/-- Results are all different. Both series of a pair have one match key, with whose labels their
result is left where the name is dropped. -/
structure UniqueResults (hash : LabelHash) (op : BinaryOp) (matching : VectorMatching)
    (toBool : Bool) (joined : List (Joined Metric α)) : Prop where
  nodup : (joined.map fun j => resultMetric op matching toBool j.left j.right).Nodup
  agree : ∀ j ∈ joined,
    MatchKey.of hash matching.filter j.left = .of hash matching.filter j.right
  labels : op.dropsMetricName toBool = true → ∀ j ∈ joined,
    (resultMetric op matching toBool j.left j.right).labels =
      (MatchKey.of hash matching.filter j.left).labels

omit [SampleValue α] in
theorem matchKey_of_congr {hash : LabelHash} {filter : LabelFilter} {a b : Metric}
    (h : a.labels.restrict filter = b.labels.restrict filter) :
    MatchKey.of hash filter a = .of hash filter b := by
  have hadmitted : a.labels.admitted filter = b.labels.admitted filter :=
    congrArg SortedMap.toList h
  unfold MatchKey.of
  rw [h, hadmitted]

omit [SampleValue α] in
theorem MatchedOnce.uniqueResults {joined : List (Joined Metric α)}
    (hplain : matching.Plain (op.dropsMetricName toBool)) (h : MatchedOnce matching.filter joined)
    (hash : LabelHash) : UniqueResults hash op matching toBool joined where
  nodup := h.nodup_results hplain
  agree j hj := matchKey_of_congr (h.agree j hj)
  labels hdrops j _ := labels_resultMetric hdrops hplain j.left j.right

/-- Joining fails where pairs are ambiguous, never because of a result. -/
theorem joinStep_ne_resultNotUnique {hash : LabelHash} {left right : List (Keyed ι α)}
    (hleft : ∀ e ∈ left, e.Hashed hash) (hright : ∀ e ∈ right, e.Hashed hash) (m : Metric) :
    joinStep op matching toBool left right ≠ .error (.resultNotUnique m) := by
  intro h
  by_cases hempty : left = [] ∨ right = []
  · unfold joinStep at h
    rw [if_pos (by simpa using hempty)] at h
    cases h
  · rw [not_or] at hempty
    rw [joinStep_eq_bind op matching toBool hempty.1 hempty.2] at h
    cases ambiguous_of_error (Cardinality.many_of_both hleft hright)
      (Cardinality.one_of_both hleft hright) h

theorem combineVectors_ne_notUnique (hplain : matching.Plain (op.dropsMetricName toBool))
    (hash : LabelHash) (left right : List (Metric × α)) (m : Metric) :
    combineVectors op matching toBool (keyed hash matching.filter left)
      (keyed hash matching.filter right) ≠ .error (.notUnique m) := by
  intro h
  unfold combineVectors at h
  split at h
  · obtain ⟨m', herror⟩ := collect_error h
    cases herror
  · cases hjoined : joinStep op matching toBool (keyed hash matching.filter left)
      (keyed hash matching.filter right) with
    | error fault =>
      rw [hjoined] at h
      cases h
      exact joinStep_ne_resultNotUnique (fun _ => hashed_of_mem_keyed)
        (fun _ => hashed_of_mem_keyed) m hjoined
    | ok joined =>
      rw [hjoined, hplain.oneToOne] at h
      have hnodup := (matchedOnce_of_joinStep hplain.oneToOne hjoined).nodup_results hplain
      have hcollected : collect .notUnique (joined.map fun j =>
          (resultMetric op matching toBool j.left j.right, j.value)) = .ok (.ofList _) :=
        collect_eq_ok_iff.2 ⟨by rwa [List.map_map], rfl⟩
      cases hcollected.symm.trans h

end Pairs

section Evaluations

variable [SampleValue α] {op : BinaryOp} {matching : VectorMatching} {toBool : Bool}

theorem Value.binary_ne_notUnique (hplain : matching.Plain (op.dropsMetricName toBool))
    (hash : LabelHash) (x y : Value α) (m : Metric) :
    Value.binary hash op matching toBool x y ≠ .error (.notUnique m) := by
  have hmap (metric : Metric → Metric) (value : α → Option α) (v : SeriesMap α) :
      Value.mapElements metric value v ≠ .error (.notUnique m) := by
    intro h
    obtain ⟨m', herror⟩ := collect_error (map_eq_error_iff.1 h)
    cases herror
  intro h
  unfold binary at h
  split at h
  · cases h
  · exact hmap _ _ _ h
  · exact hmap _ _ _ h
  · exact combineVectors_ne_notUnique hplain hash _ _ m (map_eq_error_iff.1 h)
  · cases h

theorem Columnar.binary_ne_notUnique {n : Nat}
    (hplain : matching.Plain (op.dropsMetricName toBool)) (hash : LabelHash) (x y : Column α n)
    (m : Metric) : Columnar.binary hash op matching toBool x y ≠ .error (.notUnique m) := by
  have hmap (metric : Metric → Metric) (value : Fin n → α → Option α) (rows : Rows α n) :
      Column.vector <$> rows.mapElements metric value ≠ .error (.notUnique m) := by
    intro h
    obtain ⟨i, hi⟩ := Rows.mapElements_error (map_eq_error_iff.1 h)
    obtain ⟨m', herror⟩ := collect_error (map_eq_error_iff.1 hi)
    cases herror
  intro h
  unfold binary at h
  split at h
  · cases h
  · exact hmap _ _ _ h
  · exact hmap _ _ _ h
  · obtain ⟨i, hi⟩ := exists_of_ofFnM_error (map_eq_error_iff.1 h)
    rw [present_keyed, present_keyed] at hi
    exact combineVectors_ne_notUnique hplain hash _ _ m hi
  · cases h

variable {c : Context α} {l r : Expr α} {m : Metric}

theorem Stepwise.operand_of_notUnique (hplain : matching.Plain (op.dropsMetricName toBool))
    {t : Int} {cache : SelectorCache α}
    (h : (valueAt c t (.binary op l r matching toBool) cache).outcome = .error (.notUnique m)) :
    (valueAt c t l cache).outcome = .error (.notUnique m) ∨
      ∃ x cache₁, (valueAt c t l cache).outcome = .ok (x, cache₁) ∧
        (valueAt c t r cache₁).outcome = .error (.notUnique m) := by
  change (Traced.withSpan "binary" ((valueAt c t l >>= fun x => valueAt c t r >>= fun y =>
    liftM (Value.binary c.hash op matching toBool x y)) cache)).outcome = _ at h
  rw [Traced.outcome_withSpan, Step.outcome_bind, bind_eq_error_iff] at h
  refine h.imp_right ?_
  rintro ⟨⟨x, cache₁⟩, hx, hrest⟩
  rw [Step.outcome_bind, bind_eq_error_iff] at hrest
  rcases hrest with hr | ⟨⟨y, cache₂⟩, -, hbinary⟩
  · exact ⟨x, cache₁, hx, hr⟩
  · rw [Step.outcome_lift, map_eq_error_iff] at hbinary
    exact (Value.binary_ne_notUnique hplain c.hash x y m hbinary).elim

theorem Columnar.operand_of_notUnique (hplain : matching.Plain (op.dropsMetricName toBool))
    (h : (eval c (.binary op l r matching toBool)).outcome = .error (.notUnique m)) :
    (eval c l).outcome = .error (.notUnique m) ∨ (eval c r).outcome = .error (.notUnique m) := by
  rw [eval, Traced.outcome_withSpan, Traced.outcome_bind] at h
  refine (bind_eq_error_iff.1 h).imp_right ?_
  rintro ⟨x, -, hrest⟩
  rw [Traced.outcome_bind] at hrest
  refine (bind_eq_error_iff.1 hrest).resolve_right ?_
  rintro ⟨y, -, hbinary⟩
  exact binary_ne_notUnique hplain c.hash x y m hbinary

/-- Where pairs are one to one and nothing is copied, results of pairs are unique, and neither
evaluator fails for a result that occurs twice unless it does so in an operand. -/
theorem one_to_one_results_unique (c : Context α) {op : BinaryOp} {matching : VectorMatching}
    {toBool : Bool} (hplain : matching.Plain (op.dropsMetricName toBool)) :
    (∀ (left right : SeriesMap α) joined,
      joinStep op matching toBool (keyed c.hash matching.filter left.toList)
          (keyed c.hash matching.filter right.toList) = .ok joined →
        UniqueResults c.hash op matching toBool joined) ∧
    (∀ t l r cache m,
      (Stepwise.valueAt c t (.binary op l r matching toBool) cache).outcome =
          .error (.notUnique m) →
        (Stepwise.valueAt c t l cache).outcome = .error (.notUnique m) ∨
          ∃ x cache₁, (Stepwise.valueAt c t l cache).outcome = .ok (x, cache₁) ∧
            (Stepwise.valueAt c t r cache₁).outcome = .error (.notUnique m)) ∧
    ∀ l r m, (Columnar.eval c (.binary op l r matching toBool)).outcome = .error (.notUnique m) →
      (Columnar.eval c l).outcome = .error (.notUnique m) ∨
        (Columnar.eval c r).outcome = .error (.notUnique m) :=
  ⟨fun _ _ _ hjoined => (matchedOnce_of_joinStep hplain.oneToOne hjoined).uniqueResults hplain _,
    fun _ _ _ _ _ h => Stepwise.operand_of_notUnique hplain h,
    fun _ _ _ h => Columnar.operand_of_notUnique hplain h⟩

end Evaluations

/-- Limits of two hosts, in another unit than requests. -/
def hostThresholds : SeriesMap Binary64 :=
  .ofList [(.ofPairs [("__name__", "limit"), ("host", "a"), ("unit", "k")], Numeric.ofInt 2),
    (.ofPairs [("__name__", "limit"), ("host", "b"), ("unit", "k")], Numeric.ofInt 9)]

def hostLoads : SeriesMap Binary64 :=
  .ofList [(.ofPairs [("__name__", "requests"), ("host", "a")], Numeric.ofInt 3),
    (.ofPairs [("__name__", "requests"), ("host", "b")], Numeric.ofInt 4),
    (.ofPairs [("__name__", "requests"), ("host", "c")], Numeric.ofInt 5)]

def VectorMatching.ignoringUnit : VectorMatching := ⟨.oneToOne, some (.ignoring ["unit"]), []⟩

theorem loads_over_thresholds :
    VectorMatching.ignoringUnit.Plain (BinaryOp.gt.dropsMetricName true) ∧
    ∃ joined, joinStep .gt .ignoringUnit true
        (keyed Context.requests.hash VectorMatching.ignoringUnit.filter hostLoads.toList)
        (keyed Context.requests.hash VectorMatching.ignoringUnit.filter hostThresholds.toList) =
          .ok joined ∧
      joined.length = 2 ∧ UniqueResults Context.requests.hash .gt .ignoringUnit true joined := by
  have hplain : VectorMatching.ignoringUnit.Plain (BinaryOp.gt.dropsMetricName true) :=
    ⟨rfl, rfl, nofun⟩
  refine ⟨hplain, ?_⟩
  have hjoined : (joinStep .gt .ignoringUnit true
      (keyed Context.requests.hash VectorMatching.ignoringUnit.filter hostLoads.toList)
      (keyed Context.requests.hash VectorMatching.ignoringUnit.filter
        hostThresholds.toList)).toOption.any (·.length = 2) = true := by
    decide +kernel
  obtain ⟨joined, hok, hlength⟩ := exists_of_any hjoined
  obtain ⟨hunique, -, -⟩ := one_to_one_results_unique Context.requests hplain
  exact ⟨joined, hok, of_decide_eq_true hlength, hunique _ _ _ hok⟩

end SeriesQuery
