import SeriesQuery.Proofs.Fetching
import SeriesQuery.Proofs.Pairing
import SeriesQuery.Proofs.PerSeries.Steps
import SeriesQuery.Proofs.Samples.History
import SeriesQuery.Proofs.Soundness.Columnar

/-!
# Set operators

A set operator asks of each element whether the other vector has its key labels. Intersection and
difference divide the left vector by the answer, and union adds the elements of the right one that
the left one does not know. Elements keep their whole metrics, and no metric is met twice: elements
of one metric also have the same key labels.
-/

namespace SeriesQuery

variable {α : Type}

/-- Some series of a vector has the key labels of a metric. -/
def Meets (filter : LabelFilter) (others : SeriesMap α) (m : Metric) : Prop :=
  ∃ other ∈ others.keys, other.labels.restrict filter = m.labels.restrict filter

instance (filter : LabelFilter) (others : SeriesMap α) (m : Metric) :
    Decidable (Meets filter others m) :=
  inferInstanceAs (Decidable (∃ other ∈ others.keys, _))

def setElements (filter : LabelFilter) (op : BinaryOp) (left right : SeriesMap α) :
    List (Metric × α) :=
  match op with
  | .intersection => left.toList.filter fun e => Meets filter right e.1
  | .difference => left.toList.filter fun e => ¬Meets filter right e.1
  | .union => left.toList ++ right.toList.filter fun e => ¬Meets filter left e.1
  | _ => []

def setOf (filter : LabelFilter) (op : BinaryOp) (left right : SeriesMap α) : SeriesMap α :=
  .ofList (setElements filter op left right)

/-- How the vectors that the set operators make of two vectors relate to these and to each
other. -/
structure SetAlgebra (filter : LabelFilter) (left right : SeriesMap α) : Prop where
  intersection_iff : ∀ m v, (setOf filter .intersection left right).get? m = some v ↔
    left.get? m = some v ∧ Meets filter right m
  difference_iff : ∀ m v, (setOf filter .difference left right).get? m = some v ↔
    left.get? m = some v ∧ ¬Meets filter right m
  union_iff : ∀ m v, (setOf filter .union left right).get? m = some v ↔
    left.get? m = some v ∨ right.get? m = some v ∧ ¬Meets filter left m
  disjoint : ∀ m, (setOf filter .intersection left right).get? m = none ∨
    (setOf filter .difference left right).get? m = none
  partition : ((setOf filter .intersection left right).toList ++
    (setOf filter .difference left right).toList).Perm left.toList
  union_parts : setOf filter .union (setOf filter .intersection left right)
    (setOf filter .difference left right) = left

section Algebra

variable {filter : LabelFilter} {left right : SeriesMap α} {op : BinaryOp} {m : Metric}

theorem meets_of_mem (h : m ∈ left.keys) : Meets filter left m := ⟨m, h, rfl⟩

/-- No metric is kept twice: one that is in both vectors is met by the left one. -/
theorem nodup_setElements : ((setElements filter op left right).map Prod.fst).Nodup := by
  have hfiltered (v : SeriesMap α) (p : Metric × α → Bool) :
      ((v.toList.filter p).map Prod.fst).Nodup :=
    v.nodup_keys.sublist (List.filter_sublist.map Prod.fst)
  cases op with
  | intersection => exact hfiltered left _
  | difference => exact hfiltered left _
  | union =>
    rw [setElements, List.map_append, List.nodup_append']
    refine ⟨left.nodup_keys, hfiltered right _, ?_⟩
    intro m hleft hright
    obtain ⟨e, he, rfl⟩ := List.mem_map.1 hright
    exact of_decide_eq_true (List.mem_filter.1 he).2 (meets_of_mem hleft)
  | _ => exact .nil

theorem get?_setOf {v : α} :
    (setOf filter op left right).get? m = some v ↔ (m, v) ∈ setElements filter op left right :=
  SortedMap.get?_ofList nodup_setElements

theorem toList_ofList_filter (v : SeriesMap α) (p : Metric × α → Bool) :
    (SortedMap.ofList (v.toList.filter p)).toList = v.toList.filter p :=
  congrArg SortedMap.toList (SortedMap.ofList_toList ⟨v.toList.filter p, v.ascending.filter p⟩)

theorem toList_intersection : (setOf filter .intersection left right).toList =
    left.toList.filter fun e => Meets filter right e.1 :=
  toList_ofList_filter left _

theorem toList_difference : (setOf filter .difference left right).toList =
    left.toList.filter fun e => ¬Meets filter right e.1 :=
  toList_ofList_filter left _

theorem perm_parts (filter : LabelFilter) (left right : SeriesMap α) :
    ((setOf filter .intersection left right).toList ++
      (setOf filter .difference left right).toList).Perm left.toList := by
  rw [toList_intersection, toList_difference]
  simpa only [decide_not] using
    List.filter_append_perm (fun e : Metric × α => decide (Meets filter right e.1)) left.toList

/-- What the difference holds has no partner in the intersection either, whose key labels are all
met by the right vector. -/
theorem not_meets_intersection {e : Metric × α}
    (he : e ∈ (setOf filter .difference left right).toList) :
    ¬Meets filter (setOf filter .intersection left right) e.1 := by
  rw [toList_difference] at he
  have hnone : ¬Meets filter right e.1 := of_decide_eq_true (List.mem_filter.1 he).2
  rintro ⟨other, hother, hlabels⟩
  rw [SortedMap.keys, toList_intersection] at hother
  obtain ⟨e', he', rfl⟩ := List.mem_map.1 hother
  obtain ⟨partner, hpartner, hmet⟩ := of_decide_eq_true (List.mem_filter.1 he').2
  exact hnone ⟨partner, hpartner, hmet.trans hlabels⟩

theorem union_parts : setOf filter .union (setOf filter .intersection left right)
    (setOf filter .difference left right) = left := by
  have hall : (setOf filter .difference left right).toList.filter
      (fun e => ¬Meets filter (setOf filter .intersection left right) e.1) =
        (setOf filter .difference left right).toList :=
    List.filter_eq_self.2 fun e he => decide_eq_true (not_meets_intersection he)
  have hparts := perm_parts filter left right
  rw [setOf, setElements, hall, SortedMap.ofList_perm hparts, SortedMap.ofList_toList]
  exact (hparts.map Prod.fst).nodup_iff.2 left.nodup_keys

theorem disjoint_parts : (setOf filter .intersection left right).get? m = none ∨
    (setOf filter .difference left right).get? m = none := by
  simp only [Option.eq_none_iff_forall_ne_some, ne_eq, get?_setOf, setElements, List.mem_filter,
    decide_eq_true_eq]
  by_cases h : Meets filter right m
  · exact .inr fun v hmem => hmem.2 h
  · exact .inl fun v hmem => h hmem.2

theorem setAlgebra (filter : LabelFilter) (left right : SeriesMap α) :
    SetAlgebra filter left right where
  intersection_iff m v := by
    rw [get?_setOf, setElements, List.mem_filter, decide_eq_true_eq, SortedMap.get?_eq_some_iff]
  difference_iff m v := by
    rw [get?_setOf, setElements, List.mem_filter, decide_eq_true_eq, SortedMap.get?_eq_some_iff]
  union_iff m v := by
    rw [get?_setOf, setElements, List.mem_append, List.mem_filter, decide_eq_true_eq,
      SortedMap.get?_eq_some_iff, SortedMap.get?_eq_some_iff]
  disjoint _ := disjoint_parts
  partition := perm_parts filter left right
  union_parts := union_parts

end Algebra

section Elements

variable {hash : LabelHash} {filter : LabelFilter} {op : BinaryOp}

theorem hasPartner_keyed (others : SeriesMap α) (e : Metric × α) :
    hasPartner (keyed hash filter others.toList) ⟨e.1, .of hash filter e.1, e.2⟩ =
      decide (Meets filter others e.1) := by
  have hhashed : Keyed.Hashed hash (⟨e.1, .of hash filter e.1, e.2⟩ : Keyed Metric α) := rfl
  rw [hasPartner_eq (fun _ => hashed_of_mem_keyed) hhashed, Bool.eq_iff_iff, decide_eq_true_eq,
    List.any_eq_true]
  simp only [keyed, List.mem_map, beq_iff_eq, Meets, SortedMap.keys]
  constructor
  · rintro ⟨_, ⟨other, hmem, rfl⟩, hlabels⟩
    exact ⟨other.1, ⟨other, hmem, rfl⟩, hlabels⟩
  · rintro ⟨_, ⟨other, hmem, rfl⟩, hlabels⟩
    exact ⟨_, ⟨other, hmem, rfl⟩, hlabels⟩

/-- The elements that the indexes of key labels let through are those that are met. -/
theorem setStep_keyed (left right : SeriesMap α) :
    (setStep op (keyed hash filter left.toList) (keyed hash filter right.toList)).map
      (fun e => (e.item, e.value)) = setElements filter op left right := by
  have hpart (v others : SeriesMap α) (keep : Bool → Bool) :
      ((keyed hash filter v.toList).filter fun e =>
          keep (hasPartner (keyed hash filter others.toList) e)).map
        (fun e => (e.item, e.value)) =
      v.toList.filter fun e => keep (decide (Meets filter others e.1)) := by
    unfold keyed
    rw [List.filter_map, List.map_map]
    refine (List.map_id'' ?_ _).trans (List.filter_congr fun e _ => ?_)
    · exact fun e => rfl
    · exact congrArg keep (hasPartner_keyed others e)
  cases op with
  | intersection => exact hpart left right id
  | difference => exact (hpart left right not).trans (by simp only [setElements, decide_not])
  | union =>
    have hright := hpart right left not
    have hleft : (keyed hash filter left.toList).map (fun e => (e.item, e.value)) =
        left.toList := by
      unfold keyed
      rw [List.map_map]
      exact List.map_id'' (fun e => rfl) _
    simp only [setStep, setElements, List.map_append, hleft, hright, decide_not]
  | _ => rfl

variable [SampleValue α]

theorem combineVectors_set (hash : LabelHash) (hset : op.isSet = true)
    (matching : VectorMatching) (toBool : Bool) (left right : SeriesMap α) :
    combineVectors op matching toBool (keyed hash matching.filter left.toList)
        (keyed hash matching.filter right.toList) =
      .ok (setOf matching.filter op left right) := by
  unfold combineVectors
  rw [if_pos hset, setStep_keyed]
  exact collect_eq_ok_iff.2 ⟨nodup_setElements, rfl⟩

theorem Value.binary_set (hash : LabelHash) (hset : op.isSet = true)
    (matching : VectorMatching) (toBool : Bool) (left right : SeriesMap α) :
    Value.binary hash op matching toBool (.vector left) (.vector right) =
      .ok (.vector (setOf matching.filter op left right)) :=
  congrArg (Value.vector <$> ·) (combineVectors_set hash hset matching toBool left right)

theorem Columnar.binary_set {n : Nat} (hash : LabelHash) (hset : op.isSet = true)
    (matching : VectorMatching) (toBool : Bool) (left right : Rows α n) :
    ∃ rows : Rows α n,
      binary hash op matching toBool (.vector left) (.vector right) = .ok (.vector rows) ∧
        ∀ i, rows.atFrame i = setOf matching.filter op (left.atFrame i) (right.atFrame i) := by
  have hsteps := fun i : Fin n => combineVectors_set hash hset matching toBool
    (left.atFrame i) (right.atFrame i)
  simp only [← present_keyed] at hsteps
  let steps := Vector.ofFn fun i : Fin n =>
    setOf matching.filter op (left.atFrame i) (right.atFrame i)
  have hget (i : Fin n) : steps.get i =
      setOf matching.filter op (left.atFrame i) (right.atFrame i) := vector_get_ofFn ..
  have hall := ofFnM_eq_ok_iff.2 fun i => (hsteps i).trans (congrArg Except.ok (hget i).symm)
  refine ⟨.ofSteps steps, ?_, fun i => (Rows.atFrame_ofSteps steps i).trans (hget i)⟩
  exact congrArg (fun x => (Column.vector ∘ Rows.ofSteps) <$> x) hall

end Elements

section Evaluators

variable [SampleValue α]

/-- A set operator never fails on vectors, and what it makes is what key labels decide: on the
values at a frame and on columns, and wherever an evaluator finds vectors for its operands. -/
structure EvaluatesSets (c : Context α) (op : BinaryOp) (matching : VectorMatching)
    (toBool : Bool) : Prop where
  values : ∀ left right : SeriesMap α,
    Value.binary c.hash op matching toBool (.vector left) (.vector right) =
      .ok (.vector (setOf matching.filter op left right))
  columns : ∀ left right : Rows α c.frames.len, ∃ rows : Rows α c.frames.len,
    Columnar.binary c.hash op matching toBool (.vector left) (.vector right) =
        .ok (.vector rows) ∧
      ∀ i, rows.atFrame i = setOf matching.filter op (left.atFrame i) (right.atFrame i)
  stepwise : ∀ (t : Int) (l r : Expr α) (cache cache₁ cache₂ : SelectorCache α)
      (left right : SeriesMap α),
    (Stepwise.valueAt c t l cache).outcome = .ok (.vector left, cache₁) →
    (Stepwise.valueAt c t r cache₁).outcome = .ok (.vector right, cache₂) →
    (Stepwise.valueAt c t (.binary op l r matching toBool) cache).outcome =
      .ok (.vector (setOf matching.filter op left right), cache₂)
  columnar : ∀ (l r : Expr α) (left right : Rows α c.frames.len),
    (Columnar.eval c l).outcome = .ok (.vector left) →
    (Columnar.eval c r).outcome = .ok (.vector right) →
    ∃ rows : Rows α c.frames.len,
      (Columnar.eval c (.binary op l r matching toBool)).outcome = .ok (.vector rows) ∧
        ∀ i, rows.atFrame i = setOf matching.filter op (left.atFrame i) (right.atFrame i)

theorem evaluatesSets (c : Context α) {op : BinaryOp} (hset : op.isSet = true)
    (matching : VectorMatching) (toBool : Bool) : EvaluatesSets c op matching toBool where
  values := Value.binary_set c.hash hset matching toBool
  columns := Columnar.binary_set c.hash hset matching toBool
  stepwise t l r cache cache₁ cache₂ left right hl hr := by
    refine (Step.outcome_bind_of_ok hl).trans ((Step.outcome_bind_of_ok hr).trans ?_)
    rw [Step.outcome_lift, Value.binary_set c.hash hset]
    rfl
  columnar l r left right hl hr := by
    obtain ⟨rows, hrows, hat⟩ := Columnar.binary_set c.hash hset matching toBool left right
    refine ⟨rows, ?_, hat⟩
    simp only [Columnar.eval, Traced.outcome_withSpan, Traced.outcome_bind, hl, hr]
    exact hrows

/-- The set operators of two vectors at a frame, whatever their match labels are: the elements of
the left vector with and without a partner are a partition of it and make it again, union adds the
elements of the right one that the left one does not meet, and neither evaluator ever fails. -/
theorem set_operator_algebra (c : Context α) (matching : VectorMatching) (toBool : Bool) :
    (∀ left right : SeriesMap α, SetAlgebra matching.filter left right) ∧
      ∀ op : BinaryOp, op.isSet = true → EvaluatesSets c op matching toBool :=
  ⟨setAlgebra matching.filter, fun _ hset => evaluatesSets c hset matching toBool⟩

end Evaluators

def Expr.requestsBefore : Expr Binary64 :=
  .selector (.named "requests" [.of "host" .equal "b"] 1000)

def VectorMatching.onHost : VectorMatching := ⟨.manyToMany, some (.on ["host"]), []⟩

theorem requests_unless_before :
    BinaryOp.difference.isSet = true ∧
    (∃ left right rows : Rows Binary64 Context.endingRequests.frames.len,
      (Columnar.eval .endingRequests .requests).outcome = .ok (.vector left) ∧
      (Columnar.eval .endingRequests .requestsBefore).outcome = .ok (.vector right) ∧
      (Columnar.eval .endingRequests
        (.binary .difference .requests .requestsBefore .onHost false)).outcome =
          .ok (.vector rows) ∧
      (rows.atFrame (1 : Fin 3)).keys = [.requestsThere, .requestsHere] ∧
      (rows.atFrame (2 : Fin 3)).keys = []) ∧
    ∃ left right cache₁ cache₂,
      (Stepwise.valueAt .endingRequests 61000 .requests .empty).outcome =
        .ok (.vector left, cache₁) ∧
      (Stepwise.valueAt .endingRequests 61000 .requestsBefore cache₁).outcome =
        .ok (.vector right, cache₂) ∧
      (Stepwise.valueAt .endingRequests 61000
        (.binary .difference .requests .requestsBefore .onHost false) .empty).outcome =
          .ok (.vector (setOf VectorMatching.onHost.filter .difference left right), cache₂) := by
  obtain ⟨-, hevaluates⟩ := set_operator_algebra Context.endingRequests .onHost false
  have hsets := hevaluates .difference rfl
  refine ⟨rfl, ?_, ?_⟩
  · have hleft : (Columnar.eval .endingRequests .requests).outcome.toOption.any
        (·.valueType = .vector) = true := by decide +kernel
    have hright : (Columnar.eval .endingRequests .requestsBefore).outcome.toOption.any
        (·.valueType = .vector) = true := by decide +kernel
    have hkeys : (Columnar.eval .endingRequests
        (.binary .difference .requests .requestsBefore .onHost false)).outcome.toOption.any
          (fun x => (x.atFrame (1 : Fin 3)).vector?.toOption.any
              (·.keys = [.requestsThere, .requestsHere]) &&
            (x.atFrame (2 : Fin 3)).vector?.toOption.any (·.keys = [])) =
        true := by decide +kernel
    obtain ⟨x, hx, hxtype⟩ := exists_of_any hleft
    obtain ⟨y, hy, hytype⟩ := exists_of_any hright
    obtain ⟨left, rfl⟩ := Columnar.eq_vector_of_valueType (of_decide_eq_true hxtype)
    obtain ⟨right, rfl⟩ := Columnar.eq_vector_of_valueType (of_decide_eq_true hytype)
    obtain ⟨rows, hrows, -⟩ := hsets.columnar _ _ left right hx hy
    rw [hrows] at hkeys
    obtain ⟨hsecond, hthird⟩ := Bool.and_eq_true_iff.1 hkeys
    exact ⟨left, right, rows, hx, hy, hrows, of_decide_eq_true hsecond, of_decide_eq_true hthird⟩
  · have hboth : ((Stepwise.valueAt .endingRequests 61000 .requests .empty).outcome.toOption.any
        fun x => decide (x.1.valueType = .vector) &&
          (Stepwise.valueAt .endingRequests 61000 .requestsBefore x.2).outcome.toOption.any
            (·.1.valueType = .vector)) = true := by decide +kernel
    obtain ⟨⟨x, cache₁⟩, hx, hrest⟩ := exists_of_any hboth
    obtain ⟨hxtype, hright⟩ := Bool.and_eq_true_iff.1 hrest
    obtain ⟨⟨y, cache₂⟩, hy, hytype⟩ := exists_of_any hright
    obtain ⟨left, rfl⟩ := Value.eq_vector_of_valueType (of_decide_eq_true hxtype)
    obtain ⟨right, rfl⟩ := Value.eq_vector_of_valueType (of_decide_eq_true hytype)
    exact ⟨left, right, cache₁, cache₂, hx, hy,
      hsets.stepwise 61000 _ _ .empty cache₁ cache₂ left right hx hy⟩

end SeriesQuery
