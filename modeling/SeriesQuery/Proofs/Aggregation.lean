import Mathlib.Data.List.Nodup
import SeriesQuery.Proofs.Columns.Operators

/-!
# Aggregations

Every element of a vector is in one group, together with the elements that have the same labels
under the filter of the grouping. An operator makes one element of each group or selects some of
its members. Groups that are made once for all frames yield the same vector at each frame as those
of the series that are present there.
-/

namespace SeriesQuery

variable {α β : Type}

/-- Groups hold every element once, together with the elements that have the same labels under a
filter, and in the order of the elements. -/
structure Partitions (filter : LabelFilter) (elements : List (Metric × β))
    (groups : List (Labels × List (Metric × β))) : Prop where
  once : ∀ e ∈ elements, ∃! group, group ∈ groups ∧ e ∈ group.2
  together : ∀ group ∈ groups, ∀ e ∈ group.2, ∀ e' ∈ elements,
    e' ∈ group.2 ↔ e'.1.labels.restrict filter = e.1.labels.restrict filter
  nonempty : ∀ group ∈ groups, group.2 ≠ []
  inOrder : ∀ group ∈ groups, group.2 = members filter elements group.1
  distinct : (groups.map Prod.fst).Nodup

theorem mem_members_iff {filter : LabelFilter} {elements : List (Metric × β)} {labels : Labels}
    {e : Metric × β} :
    e ∈ members filter elements labels ↔ e ∈ elements ∧ e.1.labels.restrict filter = labels := by
  unfold members
  rw [List.mem_filter, decide_eq_true_eq]

theorem partitions_groupElements (hash : LabelHash) (filter : LabelFilter)
    (elements : List (Metric × β)) :
    Partitions filter elements (groupElements hash filter elements).toList where
  once e he := by
    have hmem : e ∈ members filter elements (e.1.labels.restrict filter) :=
      mem_members_iff.2 ⟨he, rfl⟩
    refine ⟨(e.1.labels.restrict filter, members filter elements (e.1.labels.restrict filter)),
      ⟨?_, hmem⟩, ?_⟩
    · rw [mem_groupElements_iff]
      exact ⟨List.ne_nil_of_mem hmem, rfl⟩
    · rintro ⟨labels, ms⟩ ⟨hgroup, hin⟩
      obtain ⟨-, rfl⟩ := (mem_groupElements_iff hash filter).1 hgroup
      obtain ⟨-, rfl⟩ := mem_members_iff.1 hin
      rfl
  together := by
    rintro ⟨labels, ms⟩ hgroup e he e' he'
    obtain ⟨-, rfl⟩ := (mem_groupElements_iff hash filter).1 hgroup
    obtain ⟨-, rfl⟩ := mem_members_iff.1 he
    rw [mem_members_iff]
    exact ⟨fun h => h.2, fun h => ⟨he', h⟩⟩
  nonempty := by
    rintro ⟨labels, ms⟩ hgroup
    exact ((mem_groupElements_iff hash filter).1 hgroup).1
  inOrder := by
    rintro ⟨labels, ms⟩ hgroup
    exact ((mem_groupElements_iff hash filter).1 hgroup).2
  distinct := nodup_groupElements hash filter elements

theorem Statistics.nodup_select [Numeric α] (largest : Bool) (k : α) (values : List α) :
    (Statistics.select largest k values).Nodup := by
  unfold Statistics.select
  split
  · exact List.nodup_nil
  · have hperm := (List.mergeSort_perm values.zipIdx fun a b =>
      (Statistics.selectionOrder largest a.1 b.1).isLE).map Prod.snd
    have hpositions : (values.zipIdx.map Prod.snd).Nodup := by
      rw [List.zipIdx_map_snd]
      exact List.nodup_range'
    exact (hperm.nodup_iff.2 hpositions).sublist (List.take_sublist _ _)

namespace AggregateOp

def yieldsValue : AggregateOp → Bool
  | topk | bottomk | countValues => false
  | _ => true

def selects : AggregateOp → Bool
  | topk | bottomk => true
  | _ => false

theorem yieldsValue_or_selects {op : AggregateOp} (h : op ≠ .countValues) :
    op.yieldsValue = true ∨ op.selects = true := by
  cases op <;> simp_all [yieldsValue, selects]

variable [SampleValue α]

theorem exists_value_of_yieldsValue {op : AggregateOp} (h : op.yieldsValue = true)
    (values : List α) (p : AggregateParam α) : ∃ x, op.reduce values p = .value x := by
  cases op
  case topk => cases h
  case bottomk => cases h
  case countValues => cases h
  all_goals exact ⟨_, rfl⟩

theorem exists_positions_of_selects {op : AggregateOp} (h : op.selects = true) (values : List α)
    (p : AggregateParam α) :
    ∃ positions, op.reduce values p = .selected positions ∧ positions.Nodup := by
  cases op
  case topk => exact ⟨_, rfl, Statistics.nodup_select _ _ _⟩
  case bottomk => exact ⟨_, rfl, Statistics.nodup_select _ _ _⟩
  all_goals cases h

theorem elements_of_value {op : AggregateOp} {p : AggregateParam α} {ms : List (Metric × α)}
    {x : α} (h : op.reduce (ms.map Prod.snd) p = .value x) (labels : Labels) :
    op.elements p labels ms = [(.ofLabels labels, x)] := by
  unfold elements
  rw [h]

theorem elements_of_selected {op : AggregateOp} {p : AggregateParam α} {ms : List (Metric × α)}
    {positions : List Nat} (h : op.reduce (ms.map Prod.snd) p = .selected positions)
    (labels : Labels) : op.elements p labels ms = positions.filterMap (ms[·]?) := by
  unfold elements
  rw [h]

theorem mem_of_selects {op : AggregateOp} (h : op.selects = true) {p : AggregateParam α}
    {labels : Labels} {ms : List (Metric × α)} {e : Metric × α}
    (he : e ∈ op.elements p labels ms) : e ∈ ms := by
  obtain ⟨positions, hreduce, -⟩ := exists_positions_of_selects h (ms.map Prod.snd) p
  rw [elements_of_selected hreduce, List.mem_filterMap] at he
  obtain ⟨position, -, hget⟩ := he
  exact List.mem_of_getElem? hget

theorem nodup_elements_of_selects {op : AggregateOp} (h : op.selects = true)
    {p : AggregateParam α} {labels : Labels} {ms : List (Metric × α)}
    (hms : (ms.map Prod.fst).Nodup) : ((op.elements p labels ms).map Prod.fst).Nodup := by
  obtain ⟨positions, hreduce, hpositions⟩ := exists_positions_of_selects h (ms.map Prod.snd) p
  rw [elements_of_selected hreduce, List.map_filterMap]
  refine hpositions.filterMap fun i j m hi hj => ?_
  rw [← List.getElem?_map] at hi hj
  -- a metric stands at one position only
  obtain ⟨hlt, -⟩ := List.getElem?_eq_some_iff.1 hi
  exact (List.getElem?_inj hlt hms).1 (hi.trans hj.symm)

end AggregateOp

section Aggregated

variable [SampleValue α] {hash : LabelHash} {op : AggregateOp} {grouping : Grouping}
  {p : AggregateParam α} {v : SeriesMap α}

def aggregated (hash : LabelHash) (op : AggregateOp) (grouping : Grouping)
    (p : AggregateParam α) (v : SeriesMap α) : List (Metric × α) :=
  (groupElements hash grouping.filter v.toList).toList.flatMap fun group =>
    op.elements p group.1 group.2

theorem Value.aggregate_vector {param : Option (Value α)} (hparam : Value.param? param = .ok p) :
    Value.aggregate hash op grouping param (.vector v) =
      Value.vector <$> collect .duplicateSeries (aggregated hash op grouping p v) := by
  unfold Value.aggregate
  rw [hparam]
  rfl

theorem Value.aggregate_eq_ok_iff {param : Option (Value α)} (hparam : Value.param? param = .ok p)
    {out : SeriesMap α} :
    Value.aggregate hash op grouping param (.vector v) = .ok (.vector out) ↔
      ((aggregated hash op grouping p v).map Prod.fst).Nodup ∧
        out = .ofList (aggregated hash op grouping p v) := by
  rw [Value.aggregate_vector hparam, map_eq_ok_iff, ← collect_eq_ok_iff]
  constructor
  · rintro ⟨out', hok, hout⟩
    cases hout
    exact hok
  · intro hok
    exact ⟨out, hok, rfl⟩

theorem Value.eq_vector_of_aggregate {param : Option (Value α)} {operand x : Value α}
    (h : Value.aggregate hash op grouping param operand = .ok x) : ∃ out, x = .vector out := by
  obtain ⟨v, -, h⟩ := bind_eq_ok_iff.1 h
  obtain ⟨p, -, h⟩ := bind_eq_ok_iff.1 h
  obtain ⟨out, -, rfl⟩ := map_eq_ok_iff.1 h
  exact ⟨out, rfl⟩

theorem mem_aggregated_iff {e : Metric × α} :
    e ∈ aggregated hash op grouping p v ↔
      ∃ labels, members grouping.filter v.toList labels ≠ [] ∧
        e ∈ op.elements p labels (members grouping.filter v.toList labels) := by
  unfold aggregated
  rw [List.mem_flatMap]
  constructor
  · rintro ⟨⟨labels, ms⟩, hgroup, he⟩
    obtain ⟨hne, rfl⟩ := (mem_groupElements_iff hash grouping.filter).1 hgroup
    exact ⟨labels, hne, he⟩
  · rintro ⟨labels, hne, he⟩
    exact ⟨(labels, _), (mem_groupElements_iff hash grouping.filter).2 ⟨hne, rfl⟩, he⟩

theorem mem_aggregated_of_yieldsValue (h : op.yieldsValue = true) {m : Metric} {x : α} :
    (m, x) ∈ aggregated hash op grouping p v ↔
      ∃ labels, m = .ofLabels labels ∧ members grouping.filter v.toList labels ≠ [] ∧
        op.reduce ((members grouping.filter v.toList labels).map Prod.snd) p = .value x := by
  rw [mem_aggregated_iff]
  refine exists_congr fun labels => ?_
  obtain ⟨y, hy⟩ := AggregateOp.exists_value_of_yieldsValue h
    ((members grouping.filter v.toList labels).map Prod.snd) p
  rw [AggregateOp.elements_of_value hy, List.mem_singleton, Prod.mk.injEq, hy,
    Reduction.value.injEq]
  constructor
  · rintro ⟨hne, rfl, rfl⟩
    exact ⟨rfl, hne, rfl⟩
  · rintro ⟨rfl, hne, rfl⟩
    exact ⟨hne, rfl, rfl⟩

theorem mem_of_mem_aggregated (h : op.selects = true) {e : Metric × α}
    (he : e ∈ aggregated hash op grouping p v) : e ∈ v.toList := by
  obtain ⟨labels, -, he⟩ := mem_aggregated_iff.1 he
  exact (mem_members_iff.1 (AggregateOp.mem_of_selects h he)).1

/-- Groups have different labels, so one element of each does not repeat a metric. -/
theorem nodup_aggregated_of_yieldsValue (h : op.yieldsValue = true) :
    ((aggregated hash op grouping p v).map Prod.fst).Nodup := by
  have hmetrics : (aggregated hash op grouping p v).map Prod.fst =
      ((groupElements hash grouping.filter v.toList).toList.map Prod.fst).map Metric.ofLabels := by
    unfold aggregated
    rw [List.map_flatMap, List.map_map, ← List.flatMap_singleton' (List.map _ _),
      List.flatMap_map]
    refine List.flatMap_congr fun group _ => ?_
    obtain ⟨x, hx⟩ := AggregateOp.exists_value_of_yieldsValue h (group.2.map Prod.snd) p
    rw [AggregateOp.elements_of_value hx]
    rfl
  rw [hmetrics]
  refine (nodup_groupElements hash grouping.filter v.toList).map fun labels labels' heq => ?_
  exact congrArg Metric.labels heq

theorem nodup_aggregated_of_selects (h : op.selects = true) :
    ((aggregated hash op grouping p v).map Prod.fst).Nodup := by
  -- the labels of a member tell which group it was selected from
  have hlabels {group : Labels × List (Metric × α)}
      (hgroup : group ∈ (groupElements hash grouping.filter v.toList).toList) {m : Metric}
      (hm : m ∈ (op.elements p group.1 group.2).map Prod.fst) :
      m.labels.restrict grouping.filter = group.1 := by
    obtain ⟨e, he, rfl⟩ := List.mem_map.1 hm
    have hmem : e ∈ group.2 := AggregateOp.mem_of_selects h he
    rw [(partitions_groupElements hash grouping.filter v.toList).inOrder _ hgroup] at hmem
    exact (mem_members_iff.1 hmem).2
  unfold aggregated
  rw [List.map_flatMap, List.nodup_flatMap]
  constructor
  · intro group hgroup
    apply AggregateOp.nodup_elements_of_selects h
    rw [(partitions_groupElements hash grouping.filter v.toList).inOrder _ hgroup]
    exact v.nodup_keys.sublist (List.filter_sublist.map Prod.fst)
  · have hdistinct := List.pairwise_map.1 (nodup_groupElements hash grouping.filter v.toList)
    refine hdistinct.imp_of_mem fun {group group'} hgroup hgroup' hne m hm hm' => ?_
    exact hne ((hlabels hgroup hm).symm.trans (hlabels hgroup' hm'))

theorem nodup_aggregated (h : op ≠ .countValues) :
    ((aggregated hash op grouping p v).map Prod.fst).Nodup := by
  rcases AggregateOp.yieldsValue_or_selects h with hvalue | hselects
  · exact nodup_aggregated_of_yieldsValue hvalue
  · exact nodup_aggregated_of_selects hselects

end Aggregated

/-- What an aggregation makes of a vector. Of an operator that makes one value of a group, there is
one element for each group, with the labels of the group and the value of its members in order. Of
an operator that selects, all elements are elements of the vector. -/
structure AggregatesTo [SampleValue α] (op : AggregateOp) (grouping : Grouping)
    (p : AggregateParam α) (v out : SeriesMap α) : Prop where
  empty : v = .empty → out = .empty
  reduced : op.yieldsValue = true → ∀ m x, out.get? m = some x ↔
    ∃ labels, m = .ofLabels labels ∧ members grouping.filter v.toList labels ≠ [] ∧
      op.reduce ((members grouping.filter v.toList labels).map Prod.snd) p = .value x
  selected : op.selects = true → ∀ m x, out.get? m = some x → v.get? m = some x

section Results

variable [SampleValue α]

theorem aggregatesTo_ofList {hash : LabelHash} {op : AggregateOp} {grouping : Grouping}
    {p : AggregateParam α} {v : SeriesMap α}
    (hnodup : ((aggregated hash op grouping p v).map Prod.fst).Nodup) :
    AggregatesTo op grouping p v (.ofList (aggregated hash op grouping p v)) where
  empty hempty := by
    subst hempty
    rfl
  reduced hvalue m x := by
    rw [SortedMap.get?_ofList hnodup]
    exact mem_aggregated_of_yieldsValue hvalue
  selected hselects m x hget := by
    rw [SortedMap.get?_ofList hnodup] at hget
    rw [SortedMap.get?_eq_some_iff]
    exact mem_of_mem_aggregated hselects hget

theorem Value.exists_aggregate {hash : LabelHash} {op : AggregateOp} {grouping : Grouping}
    {param : Option (Value α)} {p : AggregateParam α} (hparam : Value.param? param = .ok p)
    {v : SeriesMap α} (h : op ≠ .countValues ∨ v = .empty) :
    ∃ out, Value.aggregate hash op grouping param (.vector v) = .ok (.vector out) := by
  refine ⟨_, (Value.aggregate_eq_ok_iff hparam).2 ⟨?_, rfl⟩⟩
  rcases h with hop | rfl
  · exact nodup_aggregated hop
  · exact List.nodup_nil

end Results

/-- Aggregations partition their vector by the labels under the filter of the grouping, whatever
the hash is, and at each frame both evaluators make the same vector of the groups. -/
theorem aggregation_semantics (α : Type) [SampleValue α] (hash : LabelHash) (op : AggregateOp)
    (grouping : Grouping) :
    (∀ (γ : Type) (elements : List (Metric × γ)),
      Partitions grouping.filter elements
        (groupElements hash grouping.filter elements).toList) ∧
    (∀ (v : SeriesMap α) (param : Option (Value α)) (p : AggregateParam α),
      Value.param? param = .ok p →
        (op ≠ .countValues ∨ v = .empty →
          ∃ out, Value.aggregate hash op grouping param (.vector v) = .ok (.vector out)) ∧
        ∀ out, Value.aggregate hash op grouping param (.vector v) = .ok (.vector out) →
          AggregatesTo op grouping p v out) ∧
    ∀ (n : Nat) [Fact (0 < n)] (rows : Rows α n) (param : Option (Column α n)),
      Framewise Column.atFrame (Columnar.aggregate hash op grouping param (.vector rows))
        (fun i => Value.aggregate hash op grouping (param.map (·.atFrame i))
          (.vector (rows.atFrame i))) ∧
      ∀ ps : Fin n → AggregateParam α, Columnar.paramAt? param = .ok ps →
        (op ≠ .countValues →
          ∃ column, Columnar.aggregate hash op grouping param (.vector rows) = .ok column) ∧
        ∀ column, Columnar.aggregate hash op grouping param (.vector rows) = .ok column →
          ∀ i, ∃ out, column.atFrame i = .vector out ∧
            AggregatesTo op grouping (ps i) (rows.atFrame i) out := by
  have hvalue : ∀ (v : SeriesMap α) (param : Option (Value α)) (p : AggregateParam α),
      Value.param? param = .ok p → ∀ out,
        Value.aggregate hash op grouping param (.vector v) = .ok (.vector out) →
          AggregatesTo op grouping p v out := by
    intro v param p hparam out hok
    obtain ⟨hnodup, rfl⟩ := (Value.aggregate_eq_ok_iff hparam).1 hok
    exact aggregatesTo_ofList hnodup
  refine ⟨fun γ elements => partitions_groupElements hash grouping.filter elements, ?_, ?_⟩
  · intro v param p hparam
    exact ⟨Value.exists_aggregate hparam, hvalue v param p hparam⟩
  · intro n _ rows param
    have hframes := Columnar.framewise_aggregate hash op grouping param (.vector rows)
    refine ⟨hframes, fun ps hps => ?_⟩
    have hparam (i : Fin n) : Value.param? (param.map (·.atFrame i)) = .ok (ps i) :=
      (Columnar.framewise_paramAt? param).eq_ok hps i
    constructor
    · intro hop
      refine hframes.exists_ok fun i => ?_
      obtain ⟨out, hout⟩ := Value.exists_aggregate (hparam i) (.inl hop)
      exact ⟨_, hout⟩
    · intro column hcolumn i
      have hat := hframes.eq_ok hcolumn i
      obtain ⟨out, hout⟩ := Value.eq_vector_of_aggregate hat
      rw [hout] at hat
      exact ⟨out, hout, hvalue _ _ _ (hparam i) out hat⟩

def answeredRequests : SeriesMap Binary64 :=
  .ofList [(.ofPairs [("host", "a"), ("code", "200")], Numeric.one),
    (.ofPairs [("host", "a"), ("code", "500")], Numeric.one),
    (.ofPairs [("host", "b"), ("code", "200")], Numeric.one)]

theorem requests_summed_by_host :
    ∃ out, Value.aggregate (fun _ => 0) .sum (.keeping ["host"]) none (.vector answeredRequests) =
        .ok (.vector out) ∧
      out.get? (.ofPairs [("host", "a")]) = some (Numeric.ofInt 2) ∧
      out.get? (.ofPairs [("host", "b")]) = some Numeric.one := by
  obtain ⟨-, hvector, -⟩ := aggregation_semantics Binary64 (fun _ => 0) .sum (.keeping ["host"])
  obtain ⟨hexists, haggregates⟩ := hvector answeredRequests none .none rfl
  obtain ⟨out, hout⟩ := hexists (.inl nofun)
  have hreduced := (haggregates out hout).reduced rfl
  refine ⟨out, hout, ?_, ?_⟩
  · exact (hreduced _ _).2 ⟨.ofList [("host", "a")], rfl, by decide +kernel, by decide +kernel⟩
  · exact (hreduced _ _).2 ⟨.ofList [("host", "b")], rfl, by decide +kernel, by decide +kernel⟩

end SeriesQuery
