import SeriesQuery.Proofs.Positions.Operators

/-!
# Aggregations by position

The index of an aggregation holds where each group stands, and a group holds where its members
stand. Both are positions of what was there when they were written, so they stay in range while
rows are added, and a group makes the same elements of its present members as of the members
themselves.
-/

namespace SeriesQuery.Positional

variable {α : Type} {n : Nat}

section Groups

variable (hash : LabelHash) (filter : LabelFilter)

def positionsOf (rows : List (Metric × SeriesQuery.Row α n)) (labels : Labels) : List Nat :=
  (rows.zipIdx.filter fun e => e.1.1.labels.restrict filter = labels).map Prod.snd

theorem positionsOf_append (rows : List (Metric × SeriesQuery.Row α n))
    (e : Metric × SeriesQuery.Row α n) (labels : Labels) :
    positionsOf filter (rows ++ [e]) labels = positionsOf filter rows labels ++
      if e.1.labels.restrict filter = labels then [rows.length] else [] := by
  unfold positionsOf
  rw [List.zipIdx_append, List.filter_append, List.map_append]
  by_cases h : e.1.labels.restrict filter = labels <;> simp [h]

/-- The groups of some rows: the index finds for the labels of each group where it stands, with
its metric and the positions of its members. -/
structure GroupsOf (rows : List (Metric × SeriesQuery.Row α n)) (g : Groups) : Prop where
  indexed : FingerprintMap.Indexed (fingerprintBy hash) g.index
  found : ∀ {labels : Labels} {q : Nat},
    FingerprintMap.lookup (fingerprintBy hash) g.index labels = some q →
      g.groups[q]? = some (Metric.ofLabels labels, positionsOf filter rows labels) ∧
        labels.restrict filter = labels ∧ positionsOf filter rows labels ≠ []
  missing : ∀ {labels : Labels},
    FingerprintMap.lookup (fingerprintBy hash) g.index labels = none →
      positionsOf filter rows labels = []

namespace GroupsOf

variable {hash filter} {rows : List (Metric × SeriesQuery.Row α n)} {g : Groups}

/-- A row finds the group of its labels by the labels that the filter admits. -/
theorem find?_eq (h : GroupsOf hash filter rows g) (m : Metric) :
    g.index.find? (hash (m.labels.admitted filter)) (m.labels.agreeOn · filter) =
      (FingerprintMap.lookup (fingerprintBy hash) g.index (m.labels.restrict filter)).map
        (m.labels.restrict filter, ·) := by
  have htest : ∀ entry ∈ g.index.bucket (fingerprintBy hash (m.labels.restrict filter)),
      m.labels.agreeOn entry.1 filter = (entry.1 == m.labels.restrict filter) := by
    intro entry hentry
    have hlookup := h.indexed.mem_toList_iff_lookup.1
      (FingerprintMap.mem_toList_iff.2 ⟨_, hentry⟩)
    rw [Bool.eq_iff_iff, Labels.agreeOn_iff, beq_iff_eq, (h.found hlookup).2.1]
    exact eq_comm
  rw [← FingerprintMap.find?_eq_lookup]
  exact List.find?_congr htest

theorem add_known (h : GroupsOf hash filter rows g) {e : Metric × SeriesQuery.Row α n} {q : Nat}
    (hlookup : FingerprintMap.lookup (fingerprintBy hash) g.index
      (e.1.labels.restrict filter) = some q) :
    ∃ g', g.add hash filter e.1 rows.length = .ok g' ∧ GroupsOf hash filter (rows ++ [e]) g' := by
  have hfind := h.find?_eq e.1
  have hrestricted := Labels.restrict_restrict e.1.labels filter
  have happend := positionsOf_append filter rows e
  unfold Groups.add FingerprintMap.findOrInsert
  dsimp only
  rw [hfind]
  generalize e.1.labels.restrict filter = labels at happend hlookup hrestricted ⊢
  obtain ⟨hget, -, -⟩ := h.found hlookup
  have hlt := (List.getElem?_eq_some_iff.1 hget).1
  rw [hlookup]
  dsimp only [Option.map_some]
  rw [if_neg Bool.false_ne_true, entry_eq_ok hget]
  refine ⟨⟨g.index, g.groups.set q
    (.ofLabels labels, positionsOf filter rows labels ++ [rows.length])⟩, ?_,
    h.indexed, fun {labels' q'} hfound => ?_, fun {labels'} hmissing => ?_⟩
  · change (write g.groups q _ >>= _) = _
    unfold write
    rw [if_pos hlt]
    rfl
  · obtain ⟨hget', hrestricted', hne⟩ := h.found hfound
    rw [happend]
    by_cases hlabels : labels = labels'
    · subst hlabels
      obtain rfl : q = q' := Option.some.inj (hlookup.symm.trans hfound)
      rw [if_pos rfl, List.getElem?_set_self hlt]
      exact ⟨rfl, hrestricted, by simp⟩
    · have hq : q ≠ q' := by
        rintro rfl
        rw [hget, Option.some.injEq, Prod.mk.injEq] at hget'
        exact hlabels (congrArg Metric.labels hget'.1)
      rw [if_neg hlabels, List.append_nil, List.getElem?_set_ne hq]
      exact ⟨hget', hrestricted', hne⟩
  · have hlabels : labels ≠ labels' := by
      rintro rfl
      rw [hlookup] at hmissing
      cases hmissing
    rw [happend, if_neg hlabels, List.append_nil]
    exact h.missing hmissing

/-- The first row with some labels makes a group, behind those that are there. -/
theorem add_new (h : GroupsOf hash filter rows g) {e : Metric × SeriesQuery.Row α n}
    (hlookup : FingerprintMap.lookup (fingerprintBy hash) g.index
      (e.1.labels.restrict filter) = none) :
    ∃ g', g.add hash filter e.1 rows.length = .ok g' ∧ GroupsOf hash filter (rows ++ [e]) g' := by
  have hfind := h.find?_eq e.1
  have hprint : hash (e.1.labels.admitted filter) =
      fingerprintBy hash (e.1.labels.restrict filter) := rfl
  have hrestricted := Labels.restrict_restrict e.1.labels filter
  have happend := positionsOf_append filter rows e
  unfold Groups.add FingerprintMap.findOrInsert
  dsimp only
  rw [hfind, hprint]
  generalize e.1.labels.restrict filter = labels at happend hlookup hrestricted ⊢
  rw [hlookup]
  dsimp only [Option.map_none]
  rw [if_pos rfl, entry_eq_ok List.getElem?_concat_length]
  refine ⟨⟨g.index.add (fingerprintBy hash labels) labels g.groups.length,
    g.groups ++ [(.ofLabels labels, [rows.length])]⟩, ?_,
    h.indexed.add _ hlookup, fun {labels' q'} hfound => ?_, fun {labels'} hmissing => ?_⟩
  · change (write (g.groups ++ _) g.groups.length _ >>= _) = _
    rw [write_append]
    rfl
  · rw [FingerprintMap.lookup_add] at hfound
    rw [happend]
    by_cases hlabels : labels = labels'
    · subst hlabels
      rw [hlookup, if_pos rfl, Option.none_or, Option.some.injEq] at hfound
      rw [if_pos rfl, h.missing hlookup, ← hfound]
      exact ⟨List.getElem?_concat_length, hrestricted, by simp⟩
    · rw [if_neg (Ne.symm hlabels), Option.or_none] at hfound
      obtain ⟨hget', hrestricted', hne⟩ := h.found hfound
      rw [if_neg hlabels, List.append_nil,
        List.getElem?_append_left (List.getElem?_eq_some_iff.1 hget').1]
      exact ⟨hget', hrestricted', hne⟩
  · rw [FingerprintMap.lookup_add, Option.or_eq_none_iff] at hmissing
    have hlabels : labels ≠ labels' := by
      rintro rfl
      rw [if_pos rfl] at hmissing
      cases hmissing.2
    rw [happend, if_neg hlabels, List.append_nil]
    exact h.missing hmissing.1

theorem add (h : GroupsOf hash filter rows g) (e : Metric × SeriesQuery.Row α n) :
    ∃ g', g.add hash filter e.1 rows.length = .ok g' ∧ GroupsOf hash filter (rows ++ [e]) g' := by
  cases hlookup : FingerprintMap.lookup (fingerprintBy hash) g.index
      (e.1.labels.restrict filter) with
  | some q => exact h.add_known hlookup
  | none => exact h.add_new hlookup

variable (hash filter) in
theorem empty : GroupsOf hash filter ([] : List (Metric × SeriesQuery.Row α n)) Groups.empty where
  indexed := .empty
  found h := by cases h
  missing _ := rfl

theorem foldlM_add {before : List (Metric × SeriesQuery.Row α n)}
    (h : GroupsOf hash filter before g) (rest : List (Metric × SeriesQuery.Row α n)) :
    ∃ g', (rest.zipIdx before.length).foldlM (fun g (e, p) => g.add hash filter e.1 p) g =
        .ok g' ∧
      GroupsOf hash filter (before ++ rest) g' := by
  induction rest generalizing before g with
  | nil => exact ⟨g, rfl, (List.append_nil before).symm ▸ h⟩
  | cons e rest ih =>
    obtain ⟨next, hnext, hgroups⟩ := h.add e
    obtain ⟨g', hrun, hg'⟩ := ih hgroups
    refine ⟨g', ?_, ?_⟩
    · rw [List.zipIdx_cons, List.foldlM_cons]
      dsimp only
      rw [hnext]
      rw [List.length_append, List.length_singleton] at hrun
      exact hrun
    · rwa [List.append_assoc] at hg'

variable (hash filter) in
theorem ofRows (rows : SeriesQuery.Rows α n) :
    ∃ g, Groups.ofRows hash filter (Rows.forget rows).toList = .ok g ∧
      GroupsOf hash filter rows.toList g := by
  obtain ⟨g, hrun, hg⟩ := (empty hash filter).foldlM_add rows.toList
  refine ⟨g, ?_, hg⟩
  unfold Groups.ofRows
  rw [Rows.toList_forget, List.zipIdx_map, List.foldlM_map]
  exact hrun

end GroupsOf

theorem lt_length_of_mem_select [Numeric α] {largest : Bool} {k : α} {values : List α} {q : Nat}
    (h : q ∈ Statistics.select largest k values) : q < values.length := by
  unfold Statistics.select at h
  split at h
  · cases h
  · obtain ⟨⟨v, q'⟩, hmem, rfl⟩ := List.mem_map.1 (List.mem_of_mem_take h)
    rw [List.mem_mergeSort] at hmem
    exact (List.getElem?_eq_some_iff.1 (List.mem_zipIdx_iff_getElem?.1 hmem)).1

theorem lt_length_of_selected [SampleValue α] {op : AggregateOp} {values : List α}
    {param : AggregateParam α} {positions : List Nat}
    (h : op.reduce values param = .selected positions) {q : Nat} (hq : q ∈ positions) :
    q < values.length := by
  cases op <;> cases h
  · exact lt_length_of_mem_select hq
  · exact lt_length_of_mem_select hq

def membersIn (rows : SeriesQuery.Rows α n) (labels : Labels) (i : Fin n) : List (Present α) :=
  (rows.toList.zipIdx.filter fun e => e.1.1.labels.restrict filter = labels).filterMap
    fun (e, p) => (e.2.get i).map fun v => ⟨p, e.1, v⟩

variable {hash filter} {rows : SeriesQuery.Rows α n} {labels : Labels} {i : Fin n}

theorem mem_presentIn_of_mem_membersIn {z : Present α} (h : z ∈ membersIn filter rows labels i) :
    z ∈ presentIn rows i := by
  obtain ⟨e, he, hz⟩ := List.mem_filterMap.1 h
  exact List.mem_filterMap.2 ⟨e, (List.mem_filter.1 he).1, hz⟩

theorem members_eq : members filter rows.toList labels =
    (rows.toList.zipIdx.filter fun e => e.1.1.labels.restrict filter = labels).map Prod.fst := by
  unfold members
  conv_lhs => rw [← List.zipIdx_map_fst 0 rows.toList, List.filter_map]
  rfl

theorem presentElements_members :
    presentElements (fun row : SeriesQuery.Row α n => row.get i)
        (members filter rows.toList labels) =
      (membersIn filter rows labels i).map fun z => (z.metric, z.value) := by
  unfold presentElements membersIn
  rw [members_eq, List.filterMap_map, List.map_filterMap]
  refine List.filterMap_congr fun ⟨e, p⟩ _ => ?_
  simp only [Function.comp_apply, Option.map_map]
  rfl

theorem mapM_positionsOf :
    ((positionsOf filter rows.toList labels).mapM fun p => do
        return (p, ← entry (← entry (Rows.forget rows).toList p).2 i) : Run _) =
      .ok ((rows.toList.zipIdx.filter fun e => e.1.1.labels.restrict filter = labels).map
        fun e => (e.2, e.1.2.get i)) := by
  unfold positionsOf
  rw [List.mapM_map]
  refine mapM_eq_ok fun ⟨e, p⟩ hmem => ?_
  have hget := List.mem_zipIdx_iff_getElem?.1 (List.mem_filter.1 hmem).1
  have hrow : (Rows.forget rows).toList[p]? = some (e.1, e.2.toList) := by
    rw [Rows.toList_forget, List.getElem?_map, hget]
    rfl
  simp only [Function.comp_apply]
  rw [entry_eq_ok hrow]
  change (entry e.2.toList i >>= _) = _
  rw [entry_toList]
  rfl

theorem groupAt_of [SampleValue α] (op : AggregateOp) (param : AggregateParam α) :
    groupAt op param (Rows.forget rows).toList i (.ofLabels labels)
        (positionsOf filter rows.toList labels) =
      .ok (let present := (membersIn filter rows labels i).map fun z => (z.metric, z.value)
        if present.isEmpty then [] else op.elements param labels present) := by
  have hfound : ((rows.toList.zipIdx.filter fun e =>
      e.1.1.labels.restrict filter = labels).map fun e => (e.2, e.1.2.get i)).filterMap
        (fun e => e.2.map (e.1, ·)) =
      (membersIn filter rows labels i).map fun z => (z.position, z.value) := by
    unfold membersIn
    rw [List.filterMap_map, List.map_filterMap]
    refine List.filterMap_congr fun ⟨e, p⟩ _ => ?_
    simp only [Function.comp_apply, Option.map_map]
    rfl
  unfold groupAt
  rw [mapM_positionsOf]
  dsimp only [bind, Except.bind]
  rw [hfound, List.map_map, List.map_map]
  have hmem : ∀ z ∈ membersIn filter rows labels i, z ∈ presentIn rows i :=
    fun _ => mem_presentIn_of_mem_membersIn
  generalize membersIn filter rows labels i = zs at hmem
  have hvalues : (zs.map fun z => (z.metric, z.value)).map Prod.snd =
      zs.map (Prod.snd ∘ fun z => (z.position, z.value)) := by
    rw [List.map_map]
    rfl
  unfold AggregateOp.elements
  rw [hvalues, List.isEmpty_map, List.isEmpty_map]
  by_cases hempty : zs.isEmpty = true
  · rw [if_pos hempty, if_pos hempty]
    rfl
  · rw [if_neg hempty, if_neg hempty]
    cases hreduce : op.reduce (zs.map (Prod.snd ∘ fun z => (z.position, z.value))) param with
    | value v => rfl
    | counts counts => cases param <;> rfl
    | selected positions =>
      refine mapM_eq_ok_filterMap fun q hq => ?_
      have hlt := lt_length_of_selected hreduce hq
      rw [List.length_map] at hlt
      have hget := List.getElem?_eq_getElem hlt
      obtain ⟨row, hrow, -⟩ := exists_of_mem_presentIn (hmem _ (List.getElem_mem hlt))
      generalize zs[q] = z at hget hrow
      have hposition : entry (zs.map (Prod.fst ∘ fun z => (z.position, z.value))) q =
          .ok z.position := entry_eq_ok (by rw [List.getElem?_map, hget]; rfl)
      have hvalue : entry (zs.map (Prod.snd ∘ fun z => (z.position, z.value))) q =
          .ok z.value := entry_eq_ok (by rw [List.getElem?_map, hget]; rfl)
      have hmetric : entry (Rows.forget rows).toList z.position = .ok (z.metric, row.toList) :=
        entry_eq_ok (by rw [Rows.toList_forget, List.getElem?_map, hrow]; rfl)
      refine ⟨(z.metric, z.value), ?_, ?_⟩
      · rw [hposition]
        dsimp only
        rw [hmetric]
        dsimp only
        rw [hvalue]
        rfl
      · rw [List.getElem?_map, hget]
        rfl

theorem GroupsOf.perm {g : Groups} (h : GroupsOf hash filter rows.toList g) :
    (g.index.toList.map fun e => (e.1, members filter rows.toList e.1)).Perm
      (groupElements hash filter rows.toList).toList := by
  have hkeys : ((g.index.toList.map fun e => (e.1, members filter rows.toList e.1)).map
      Prod.fst).Nodup := by
    rw [List.map_map]
    exact h.indexed.nodup_keys
  have hempty (labels : Labels) : members filter rows.toList labels = [] ↔
      positionsOf filter rows.toList labels = [] := by
    rw [members_eq, positionsOf, List.map_eq_nil_iff, List.map_eq_nil_iff]
  refine (List.perm_ext_iff_of_nodup hkeys.of_map (nodup_groupElements hash filter _).of_map).2 ?_
  rintro ⟨labels, ms⟩
  rw [mem_groupElements_iff, List.mem_map]
  constructor
  · rintro ⟨⟨labels', q⟩, hmem, heq⟩
    cases heq
    obtain ⟨-, -, hne⟩ := h.found (h.indexed.mem_toList_iff_lookup.1 hmem)
    exact ⟨fun hnil => hne ((hempty _).1 hnil), rfl⟩
  · rintro ⟨hne, rfl⟩
    cases hlookup : FingerprintMap.lookup (fingerprintBy hash) g.index labels with
    | none => exact absurd ((hempty _).2 (h.missing hlookup)) hne
    | some q => exact ⟨(labels, q), h.indexed.mem_toList_iff_lookup.2 hlookup, rfl⟩

theorem GroupsOf.elements [SampleValue α] {g : Groups} (h : GroupsOf hash filter rows.toList g)
    (op : AggregateOp) (param : AggregateParam α) :
    (g.index.values.mapM fun position => do
        let (metric, members) ← entry g.groups position
        groupAt op param (Rows.forget rows).toList i metric members) =
      .ok (g.index.toList.map fun e =>
        let present := presentElements (fun row : SeriesQuery.Row α n => row.get i)
          (members filter rows.toList e.1)
        if present.isEmpty then [] else op.elements param e.1 present) := by
  unfold FingerprintMap.values
  rw [List.mapM_map]
  refine mapM_eq_ok fun ⟨labels, q⟩ hmem => ?_
  obtain ⟨hget, -, -⟩ := h.found (h.indexed.mem_toList_iff_lookup.1 hmem)
  rw [Function.comp_apply, entry_eq_ok hget, presentElements_members]
  exact groupAt_of op param

theorem GroupsOf.perm_elements {g : Groups} (h : GroupsOf hash filter rows.toList g)
    (elements : Labels → List (Metric × α) → List (Metric × α)) :
    (g.index.toList.map fun e =>
        let present := presentElements (fun row : SeriesQuery.Row α n => row.get i)
          (members filter rows.toList e.1)
        if present.isEmpty then [] else elements e.1 present).flatten.Perm
      ((groupElements hash filter (rows.atFrame i).toList).toList.flatMap
        fun (labels, members) => elements labels members) := by
  refine List.Perm.trans ?_ (Columnar.flatMap_groups_perm hash filter rows i elements)
  rw [← List.flatMap_def]
  have hflat := h.perm.flatMap_right fun group =>
    let present := presentElements (fun row : SeriesQuery.Row α n => row.get i) group.2
    if present.isEmpty then [] else elements group.1 present
  rw [List.flatMap_map] at hflat
  exact hflat

end Groups

section Aggregations

/-- A parameter that is accepted is read at every frame, and one that is not is refused there. -/
theorem paramAt_or_refused (param : Option (Shaped α n)) :
    (∃ p : Fin n → AggregateParam α, checkParam (param.map Shaped.forget) = .ok () ∧
      ∀ i : Fin n, paramAt (param.map Shaped.forget) i = .ok (p i) ∧
        Value.param? (param.map (Shaped.atFrame · i)) = .ok (p i)) ∨
    ∃ e, checkParam (param.map Shaped.forget) = fail e ∧
      ∀ i, ∃ e', Value.param? (param.map (Shaped.atFrame · i)) = .error e' := by
  cases param with
  | none => exact .inl ⟨fun _ => .none, rfl, fun i => ⟨rfl, rfl⟩⟩
  | some x =>
    obtain ⟨x, -⟩ := x
    cases x with
    | scalar values =>
      refine .inl ⟨fun i => .scalar (values.get i), rfl, fun i => ⟨?_, rfl⟩⟩
      change AggregateParam.scalar <$> entry values.toList i = _
      rw [entry_toList]
      rfl
    | string s =>
      have hvalue : Value.param? (some (Value.string s)) =
          ((checkLabelName s).mapError .invalidArgument >>= fun _ =>
            .ok (AggregateParam.label (α := α) s)) := rfl
      have hcheck : checkParam (some (Column.string (α := α) s)) =
          lift ((checkLabelName s).mapError .invalidArgument) := rfl
      cases hname : checkLabelName s with
      | ok u =>
        rw [hname] at hvalue hcheck
        exact .inl ⟨fun _ => .label s, hcheck, fun i => ⟨rfl, hvalue⟩⟩
      | error e =>
        rw [hname] at hvalue hcheck
        exact .inr ⟨_, hcheck, fun i => ⟨_, hvalue⟩⟩
    | _ => exact .inr ⟨_, rfl, fun i => ⟨_, rfl⟩⟩

variable [SampleValue α] [Fact (0 < n)]

theorem fits_aggregate (hash : LabelHash) (op : AggregateOp) (grouping : Grouping)
    (param : Option (Shaped α n)) (operand : Shaped α n) :
    FitsColumn (aggregate n hash op grouping (param.map Shaped.forget) operand.forget) fun i =>
      Value.aggregate hash op grouping (param.map (Shaped.atFrame · i)) (operand.atFrame i) := by
  unfold aggregate Value.aggregate
  refine (fits_rows operand).bind fun rows => ?_
  rcases paramAt_or_refused param with ⟨p, hcheck, hparam⟩ | ⟨e, hcheck, hparam⟩
  · obtain ⟨g, hg, hgroups⟩ := GroupsOf.ofRows hash grouping.filter rows
    rw [hcheck]
    simp only [hparam]
    change Fits _ _ (Groups.ofRows hash grouping.filter (Rows.forget rows).toList >>= _) _
    rw [hg]
    refine FitsRows.vector ?_
    have hlen : (rowsFor n).len = n := rfl
    refine (RowSink.fits_fill hlen _ (fun i => .ok _) fun i => ?_).congr_right fun i =>
      collect_perm (hgroups.perm_elements (op.elements (p i)))
    rw [(hparam i).1]
    change (g.index.values.mapM (m := Run) _ >>= _) = _
    rw [hgroups.elements (i := i) op (p i)]
    rfl
  · rw [hcheck]
    refine .failAll fun i => ?_
    obtain ⟨e', he'⟩ := hparam i
    exact ⟨e', by rw [he']; rfl⟩

end Aggregations

end SeriesQuery.Positional
