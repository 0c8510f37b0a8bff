import SeriesQuery.Evaluation.Columnar
import SeriesQuery.Evaluation.Stepwise
import SeriesQuery.Proofs.Outcome
import SeriesQuery.Proofs.Series.Entries

/-!
# Rows frame by frame

Rows that are merged into vectors for all frames are, at each frame, the vector collected from the
elements that are present there. Two rows of one metric may be merged as long as they are never
present together, which is what the frames ask for one by one.
-/

namespace SeriesQuery

section Collect

variable {α : Type} {duplicate : Metric → QueryError}

/-- Adds an element whose metric must be new. -/
def addNew (duplicate : Metric → QueryError) (out : SeriesMap α) (e : Metric × α) :
    Except QueryError (SeriesMap α) :=
  if out.contains e.1 then .error (duplicate e.1) else .ok (out.insert e.1 e.2)

theorem collect_eq_foldlM (duplicate : Metric → QueryError) (elements : List (Metric × α)) :
    collect duplicate elements = elements.foldlM (addNew duplicate) .empty := rfl

theorem addNew_eq_ok_iff {out out' : SeriesMap α} {e : Metric × α} :
    addNew duplicate out e = .ok out' ↔ out.get? e.1 = none ∧ out' = out.insert e.1 e.2 := by
  unfold addNew SortedMap.contains
  cases out.get? e.1 <;> simp [eq_comm]

theorem foldlM_addNew_eq_ok_iff {out m : SeriesMap α} {elements : List (Metric × α)} :
    elements.foldlM (addNew duplicate) out = .ok m ↔
      (elements.map Prod.fst).Nodup ∧ (∀ e ∈ elements, out.get? e.1 = none) ∧
        m = out.insertAll elements := by
  induction elements generalizing out with
  | nil => simp [SortedMap.insertAll, pure, Except.pure, eq_comm]
  | cons e rest ih =>
    rw [List.foldlM_cons, bind_eq_ok_iff]
    simp only [addNew_eq_ok_iff, ih, List.map_cons, List.nodup_cons, List.mem_cons,
      forall_eq_or_imp]
    constructor
    · rintro ⟨_, ⟨he, rfl⟩, hnodup, hrest, rfl⟩
      have hne : ∀ e' ∈ rest, e'.1 ≠ e.1 := fun e' h heq => by
        have := hrest e' h
        simp [SortedMap.get?_insert, heq] at this
      refine ⟨⟨fun hmem => ?_, hnodup⟩, ⟨he, fun e' h => ?_⟩, rfl⟩
      · obtain ⟨e', h, heq⟩ := List.mem_map.1 hmem
        exact hne e' h heq
      · have := hrest e' h
        rwa [SortedMap.get?_insert, if_neg (hne e' h)] at this
    · rintro ⟨⟨hnot, hnodup⟩, ⟨he, hrest⟩, rfl⟩
      refine ⟨_, ⟨he, rfl⟩, hnodup, fun e' h => ?_, rfl⟩
      have hne : e'.1 ≠ e.1 := fun heq => hnot (List.mem_map.2 ⟨e', h, heq⟩)
      rw [SortedMap.get?_insert, if_neg hne]
      exact hrest e' h

/-- Elements make a vector exactly if their metrics are distinct, and it holds just them. -/
theorem collect_eq_ok_iff {elements : List (Metric × α)} {m : SeriesMap α} :
    collect duplicate elements = .ok m ↔
      (elements.map Prod.fst).Nodup ∧ m = .ofList elements := by
  rw [collect_eq_foldlM, foldlM_addNew_eq_ok_iff]
  simp [SortedMap.ofList]

theorem collect_perm {l l' : List (Metric × α)} (h : l.Perm l') :
    SameResult (collect duplicate l) (collect duplicate l') := by
  intro m
  rw [collect_eq_ok_iff, collect_eq_ok_iff]
  constructor
  · rintro ⟨hl, rfl⟩
    exact ⟨(h.map _).nodup_iff.1 hl, SortedMap.ofList_perm h hl⟩
  · rintro ⟨hl, rfl⟩
    exact ⟨(h.map _).nodup_iff.2 hl, SortedMap.ofList_perm h.symm hl⟩

theorem addNew_error {out : SeriesMap α} {e : Metric × α} {err : QueryError}
    (h : addNew duplicate out e = .error err) : err = duplicate e.1 := by
  unfold addNew at h
  split at h
  · cases h
    rfl
  · cases h

theorem foldlM_addNew_error {out : SeriesMap α} {elements : List (Metric × α)} {err : QueryError}
    (h : elements.foldlM (addNew duplicate) out = .error err) : ∃ m, err = duplicate m := by
  induction elements generalizing out with
  | nil => cases h
  | cons e rest ih =>
    rw [List.foldlM_cons] at h
    cases ha : addNew duplicate out e with
    | ok out' =>
      rw [ha] at h
      exact ih h
    | error err' =>
      rw [ha] at h
      cases h
      exact ⟨e.1, addNew_error ha⟩

theorem collect_error {elements : List (Metric × α)} {err : QueryError}
    (h : collect duplicate elements = .error err) : ∃ m, err = duplicate m :=
  foldlM_addNew_error h

/-- Adds an element whose metric must be new, if it has a value. -/
def addComputed (duplicate : Metric → QueryError) (out : SeriesMap α)
    (e : Metric × Except QueryError (Option α)) : Except QueryError (SeriesMap α) :=
  e.2 >>= fun value =>
    match value with
    | some v => addNew duplicate out (e.1, v)
    | none => .ok out

theorem collectComputed_eq_foldlM (duplicate : Metric → QueryError)
    (elements : List (Metric × Except QueryError (Option α))) :
    collectComputed duplicate elements = elements.foldlM (addComputed duplicate) .empty := rfl

theorem addComputed_eq_ok {out out' : SeriesMap α} {e : Metric × Except QueryError (Option α)}
    (h : addComputed duplicate out e = .ok out') : ∃ v, e.2 = .ok v := by
  obtain ⟨v, hv, -⟩ := bind_eq_ok_iff.1 h
  exact ⟨v, hv⟩

theorem addComputed_error {out : SeriesMap α} {e : Metric × Except QueryError (Option α)}
    {err : QueryError} (h : addComputed duplicate out e = .error err) :
    (∃ m, err = duplicate m) ∨ e.2 = .error err := by
  rcases bind_eq_error_iff.1 h with hvalue | ⟨found, -, h⟩
  · exact .inr hvalue
  · cases found with
    | none => cases h
    | some v => exact .inl ⟨e.1, addNew_error (e := (e.1, v)) h⟩

theorem collectComputed_error {elements : List (Metric × Except QueryError (Option α))}
    {err : QueryError} (h : collectComputed duplicate elements = .error err) :
    (∃ m, err = duplicate m) ∨ ∃ e ∈ elements, e.2 = .error err := by
  rw [collectComputed_eq_foldlM] at h
  generalize (SortedMap.empty : SeriesMap α) = out at h
  induction elements generalizing out with
  | nil => cases h
  | cons e rest ih =>
    rw [List.foldlM_cons] at h
    rcases bind_eq_error_iff.1 h with hadd | ⟨out', -, hrest⟩
    · exact (addComputed_error hadd).imp_right fun he => ⟨e, .head _, he⟩
    · refine (ih out' hrest).imp_right ?_
      rintro ⟨e', hmem, he'⟩
      exact ⟨e', .tail _ hmem, he'⟩

theorem collectComputed_value {elements : List (Metric × Except QueryError (Option α))}
    {out : SeriesMap α} (h : collectComputed duplicate elements = .ok out) :
    ∀ e ∈ elements, ∃ v, e.2 = .ok v := by
  rw [collectComputed_eq_foldlM] at h
  generalize (SortedMap.empty : SeriesMap α) = start at h
  induction elements generalizing start with
  | nil => exact fun e he => absurd he List.not_mem_nil
  | cons e rest ih =>
    rw [List.foldlM_cons] at h
    obtain ⟨next, hadd, hrest⟩ := bind_eq_ok_iff.1 h
    intro e' he'
    rcases List.mem_cons.1 he' with rfl | he'
    · exact addComputed_eq_ok hadd
    · exact ih next hrest e' he'

theorem collectComputed_eq_collect {ι : Type} {l : List ι}
    {element : ι → Metric × Except QueryError (Option α)} {value : ι → Option α}
    (h : ∀ a ∈ l, (element a).2 = .ok (value a)) :
    collectComputed duplicate (l.map element) =
      collect duplicate (l.filterMap fun a => (value a).map ((element a).1, ·)) := by
  rw [collectComputed_eq_foldlM, collect_eq_foldlM]
  generalize (SortedMap.empty : SeriesMap α) = out
  induction l generalizing out with
  | nil => rfl
  | cons a rest ih =>
    have ih := ih fun b hb => h b (.tail _ hb)
    have hadd : addComputed duplicate out (element a) =
        match value a with
        | some v => addNew duplicate out ((element a).1, v)
        | none => .ok out := by
      unfold addComputed
      rw [h a (.head _)]
      rfl
    rw [List.map_cons, List.foldlM_cons, hadd]
    cases ha : value a with
    | none =>
      rw [List.filterMap_cons_none (by rw [ha]; rfl)]
      exact ih out
    | some v =>
      rw [List.filterMap_cons_some (by rw [ha]; rfl), List.foldlM_cons]
      exact congrArg _ (funext ih)

/-- Elements that cannot be computed do not make others repeat. -/
theorem collectComputed_duplicate {ι : Type} {l : List ι}
    {element : ι → Metric × Except QueryError (Option α)} {value : ι → Option α}
    (hvalue : ∀ a ∈ l, ∀ v, (element a).2 = .ok v → v = value a)
    (hother : ∀ a ∈ l, ∀ m, (element a).2 ≠ .error (duplicate m)) {m : Metric}
    (h : collectComputed duplicate (l.map element) = .error (duplicate m)) :
    collect duplicate (l.filterMap fun a => (value a).map ((element a).1, ·)) =
      .error (duplicate m) := by
  rw [collectComputed_eq_foldlM] at h
  rw [collect_eq_foldlM]
  generalize (SortedMap.empty : SeriesMap α) = out at h ⊢
  induction l generalizing out with
  | nil => cases h
  | cons a rest ih =>
    have ih := ih (fun b hb => hvalue b (.tail _ hb)) fun b hb => hother b (.tail _ hb)
    rw [List.map_cons, List.foldlM_cons] at h
    have hvalue := hvalue a (.head _)
    have hother := hother a (.head _) m
    unfold addComputed at h
    cases ha : (element a).2 with
    | error e =>
      rw [ha] at h hother
      cases h
      exact absurd rfl hother
    | ok v =>
      rw [ha] at h
      cases v with
      | none =>
        rw [List.filterMap_cons_none (by rw [← hvalue none ha]; rfl)]
        exact ih out h
      | some v =>
        rw [List.filterMap_cons_some (by rw [← hvalue (some v) ha]; rfl), List.foldlM_cons]
        refine bind_eq_error_iff.2 ((bind_eq_error_iff.1 h).imp_right ?_)
        rintro ⟨out', hadd, hrest⟩
        exact ⟨out', hadd, ih out' hrest⟩

/-- An element that is computed to be left out may as well not be there. -/
theorem collectComputed_filterMap {ι κ : Type} {l : List ι} {see : ι → Option κ}
    {shown : κ → Metric × Except QueryError (Option α)}
    {element : ι → Metric × Except QueryError (Option α)}
    (hsome : ∀ a ∈ l, ∀ b, see a = some b → element a = shown b)
    (hnone : ∀ a ∈ l, see a = none → (element a).2 = .ok none) :
    collectComputed duplicate ((l.filterMap see).map shown) =
      collectComputed duplicate (l.map element) := by
  simp only [collectComputed_eq_foldlM]
  generalize (SortedMap.empty : SeriesMap α) = out
  induction l generalizing out with
  | nil => rfl
  | cons a rest ih =>
    have ih := ih (fun b hb => hsome b (.tail _ hb)) fun b hb => hnone b (.tail _ hb)
    rw [List.map_cons, List.foldlM_cons]
    cases ha : see a with
    | none =>
      have hskip : addComputed duplicate out (element a) = .ok out := by
        unfold addComputed
        rw [hnone a (.head _) ha]
        rfl
      rw [List.filterMap_cons_none ha, hskip]
      exact ih out
    | some b =>
      rw [List.filterMap_cons_some ha, List.map_cons, List.foldlM_cons, hsome a (.head _) b ha]
      exact congrArg _ (funext ih)

end Collect

variable {α : Type} {n : Nat}

namespace Row

theorem get_merge (a b : Row α n) (i : Fin n) : (merge a b).get i = (a.get i).or (b.get i) :=
  vector_get_zipWith ..

theorem overlaps_iff {a b : Row α n} :
    overlaps a b = true ↔ ∃ i : Fin n, (a.get i).isSome ∧ (b.get i).isSome := by
  unfold overlaps
  rw [Vector.any_eq_true]
  simp only [Vector.getElem_zipWith, id, Bool.and_eq_true]
  constructor
  · rintro ⟨i, hi, h⟩
    exact ⟨⟨i, hi⟩, h⟩
  · rintro ⟨i, h⟩
    exact ⟨i, i.2, h⟩

end Row

theorem WindowRow.window_eq_nil {row : WindowRow α n} {i : Fin n} (h : row.isEmptyAt i = true) :
    row.window i = [] := by
  have hle : (row.bounds.get i).2 ≤ (row.bounds.get i).1 := of_decide_eq_true h
  unfold WindowRow.window
  rw [Array.extract_empty_of_stop_le_start hle]

namespace Rows

theorem get?_atFrame (rows : Rows α n) (i : Fin n) (m : Metric) :
    (rows.atFrame i).get? m = (rows.get? m).bind (·.get i) :=
  SortedMap.get?_filterMap _ _ _

theorem values_atFrame (rows : Rows α n) (i : Fin n) :
    (rows.atFrame i).values = rows.values.filterMap (·.get i) := by
  rw [atFrame, SortedMap.values_filterMap, SortedMap.values, List.filterMap_map]
  rfl

theorem toList_atFrame (rows : Rows α n) (i : Fin n) :
    (rows.atFrame i).toList = rows.toList.filterMap fun e => (e.2.get i).map (e.1, ·) := rfl

theorem isEmpty_atFrame (rows : Rows α n) (i : Fin n) :
    (rows.atFrame i).isEmpty = !rows.values.any fun row => (row.get i).isSome := by
  rw [SortedMap.isEmpty, toList_atFrame, SortedMap.values, Bool.eq_iff_iff]
  simp

theorem atFrame_insert (rows : Rows α n) (m : Metric) (row : Row α n) (i : Fin n) :
    atFrame (rows.insert m row) i =
      SortedMap.alter (rows.atFrame i) m fun _ => row.get i := by
  refine SortedMap.ext_get? fun k => ?_
  rw [get?_atFrame, SortedMap.get?_insert, SortedMap.get?_alter, get?_atFrame]
  by_cases hk : k = m
  · rw [if_pos hk, if_pos hk]
    rfl
  · rw [if_neg hk, if_neg hk]

/-- The element that a row adds to the vector at a frame. -/
def addAt (i : Fin n) (out : SeriesMap α) (e : Metric × Row α n) :
    Except QueryError (SeriesMap α) :=
  match (e.2.get i).map (e.1, ·) with
  | some present => addNew .duplicateSeries out present
  | none => pure out

theorem addAt_of_none {i : Fin n} {out : SeriesMap α} {m : Metric} {row : Row α n}
    (h : row.get i = none) : addAt i out (m, row) = .ok out := by
  simp only [addAt, h]
  rfl

theorem addAt_of_some {i : Fin n} {out : SeriesMap α} {m : Metric} {row : Row α n} {v : α}
    (h : row.get i = some v) : addAt i out (m, row) = addNew .duplicateSeries out (m, v) := by
  simp only [addAt, h]
  rfl

theorem framewise_add (rows : Rows α n) (e : Metric × Row α n) :
    Framewise atFrame (rows.add e.1 e.2) fun i => addAt i (rows.atFrame i) e := by
  obtain ⟨m, row⟩ := e
  unfold add
  cases hm : rows.get? m with
  | none =>
    intro i
    have hold : (rows.atFrame i).get? m = none := by
      rw [get?_atFrame, hm]
      rfl
    rw [atFrame_insert]
    cases hrow : row.get i with
    | none =>
      rw [← hold, SortedMap.alter_get?]
      exact addAt_of_none hrow
    | some v => exact (addAt_of_some hrow).trans (addNew_eq_ok_iff.2 ⟨hold, rfl⟩)
  | some old =>
    have hget (i : Fin n) : (rows.atFrame i).get? m = old.get i := by
      rw [get?_atFrame, hm]
      rfl
    by_cases hover : Row.overlaps old row = true
    · simp only [hover, if_true]
      obtain ⟨i, hold, hnew⟩ := Row.overlaps_iff.1 hover
      obtain ⟨v, hv⟩ := Option.isSome_iff_exists.1 hnew
      refine ⟨i, .duplicateSeries m, (addAt_of_some hv).trans ?_⟩
      unfold addNew SortedMap.contains
      simp only [hget, hold, if_true]
    · simp only [hover]
      intro i
      rw [atFrame_insert, Row.get_merge]
      cases hrow : row.get i with
      | none =>
        rw [Option.or_none, ← hget, SortedMap.alter_get?]
        exact addAt_of_none hrow
      | some v =>
        have hold : old.get i = none := by
          rw [← Option.not_isSome_iff_eq_none]
          exact fun h => hover (Row.overlaps_iff.2 ⟨i, h, by rw [hrow]; rfl⟩)
        refine (addAt_of_some hrow).trans (addNew_eq_ok_iff.2 ⟨(hget i).trans hold, ?_⟩)
        rw [hold]
        rfl

theorem addAt_error {i : Fin n} {out : SeriesMap α} {e : Metric × Row α n} {err : QueryError}
    (h : addAt i out e = .error err) : err = .duplicateSeries e.1 := by
  unfold addAt at h
  cases hpresent : e.2.get i with
  | none =>
    rw [hpresent] at h
    cases h
  | some v =>
    rw [hpresent] at h
    exact addNew_error (e := (e.1, v)) h

theorem add_error {rows : Rows α n} {e : Metric × Row α n} {err : QueryError}
    (h : rows.add e.1 e.2 = .error err) : ∃ i, addAt i (rows.atFrame i) e = .error err := by
  have herr : err = .duplicateSeries e.1 := by
    unfold add at h
    split at h
    · cases h
    · split at h
      · cases h
        rfl
      · cases h
  have hframes := framewise_add rows e
  rw [h] at hframes
  obtain ⟨i, err', hi⟩ := hframes
  rw [addAt_error hi, ← herr] at hi
  exact ⟨i, hi⟩

theorem foldlM_addAt (rows : List (Metric × Row α n)) (i : Fin n) :
    rows.foldlM (addAt i) .empty =
      SeriesQuery.collect .duplicateSeries
        (rows.filterMap fun e => (e.2.get i).map (e.1, ·)) := by
  rw [collect_eq_foldlM, List.foldlM_filterMap]
  congr 1
  funext out e
  unfold addAt
  cases (e.2.get i).map (e.1, ·) <;> rfl

theorem framewise_collect (rows : List (Metric × Row α n)) :
    Framewise atFrame (collect rows) fun i =>
      SeriesQuery.collect .duplicateSeries
        (rows.filterMap fun e => (e.2.get i).map (e.1, ·)) := by
  simp only [← foldlM_addAt]
  exact Framewise.foldlM framewise_add (.empty : Rows α n) rows

theorem collect_error {rows : List (Metric × Row α n)} {err : QueryError}
    (h : collect rows = .error err) :
    ∃ i, SeriesQuery.collect .duplicateSeries
      (rows.filterMap fun e => (e.2.get i).map (e.1, ·)) = .error err := by
  simp only [← foldlM_addAt]
  exact Framewise.foldlM_error framewise_add (fun _ _ _ => add_error) h

theorem collect_mapElements (metric : Metric → Metric) (value : Fin n → α → Option α)
    (rows : Rows α n) (i : Fin n) :
    SeriesQuery.collect .duplicateSeries ((rows.toList.map fun e =>
        (metric e.1, Vector.ofFn fun i => (e.2.get i).bind (value i))).filterMap
          fun e => (e.2.get i).map (e.1, ·)) =
      SeriesQuery.collect .duplicateSeries ((rows.atFrame i).toList.filterMap fun e =>
        (value i e.2).map (metric e.1, ·)) := by
  rw [List.filterMap_map, toList_atFrame, List.filterMap_filterMap]
  refine congrArg _ (List.filterMap_congr fun e _ => ?_)
  cases h : e.2.get i <;> simp [h]

theorem framewise_mapElements (metric : Metric → Metric) (value : Fin n → α → Option α)
    (rows : Rows α n) :
    Framewise Column.atFrame (.vector <$> rows.mapElements metric value) fun i =>
      Value.mapElements metric (value i) (rows.atFrame i) :=
  Framewise.map ((framewise_collect _).congr_right fun i =>
    .of_eq (collect_mapElements metric value rows i)) fun _ _ => rfl

theorem mapElements_error {metric : Metric → Metric} {value : Fin n → α → Option α}
    {rows : Rows α n} {err : QueryError} (h : rows.mapElements metric value = .error err) :
    ∃ i, Value.mapElements metric (value i) (rows.atFrame i) = .error err := by
  obtain ⟨i, hi⟩ := collect_error h
  exact ⟨i, map_eq_error_iff.2 ((collect_mapElements metric value rows i).symm.trans hi)⟩

/-- The row of a metric holds what the vectors hold, also if it is yet to be made. -/
theorem get_getD_get? (rows : Rows α n) (m : Metric) (i : Fin n) :
    ((rows.get? m).getD (Vector.replicate n none)).get i = (rows.atFrame i).get? m := by
  rw [get?_atFrame]
  cases rows.get? m with
  | none => exact Vector.getElem_replicate i.2
  | some row => rfl

/-- A number that is put at a frame changes the vector there, and no other. -/
theorem put_eq_ok {rows rows' : Rows α n} {m : Metric} {i : Fin n} {v : α}
    (h : rows.put m i v = .ok rows') :
    addNew .duplicateSeries (rows.atFrame i) (m, v) = .ok (rows'.atFrame i) ∧
      ∀ j, j ≠ i → rows'.atFrame j = rows.atFrame j := by
  unfold put at h
  dsimp only at h
  rw [get_getD_get?] at h
  split at h
  · cases h
  · next hfree =>
    obtain rfl := Except.ok.inj h
    rw [Option.not_isSome_iff_eq_none] at hfree
    refine ⟨addNew_eq_ok_iff.2 ⟨hfree, ?_⟩, fun j hj => ?_⟩
    · rw [atFrame_insert, vector_get _ i.2, Vector.getElem_set_self]
      rfl
    · have hne : (i : Nat) ≠ j := fun h => hj (Fin.ext h.symm)
      rw [atFrame_insert, vector_get _ j.2, Vector.getElem_set_ne _ _ hne, ← vector_get _ j.2,
        get_getD_get?, SortedMap.alter_get?]

theorem put_eq_error {rows : Rows α n} {m : Metric} {i : Fin n} {v : α} {e : QueryError}
    (h : rows.put m i v = .error e) :
    addNew .duplicateSeries (rows.atFrame i) (m, v) = .error e := by
  unfold put at h
  dsimp only at h
  rw [get_getD_get?] at h
  split at h
  · next hused =>
    cases h
    exact if_pos hused
  · cases h

/-- Puts a computed number at a frame, if there is one. -/
def putComputed (m : Metric) (value : Fin n → Except QueryError (Option α)) (rows : Rows α n)
    (i : Fin n) : Except QueryError (Rows α n) :=
  value i >>= fun found =>
    match found with
    | some v => rows.put m i v
    | none => .ok rows

variable {m : Metric} {value : Fin n → Except QueryError (Option α)}

theorem putComputed_eq_ok {rows rows' : Rows α n} {i : Fin n}
    (h : putComputed m value rows i = .ok rows') :
    addComputed .duplicateSeries (rows.atFrame i) (m, value i) = .ok (rows'.atFrame i) ∧
      ∀ j, j ≠ i → rows'.atFrame j = rows.atFrame j := by
  obtain ⟨found, hvalue, h⟩ := bind_eq_ok_iff.1 h
  unfold addComputed
  rw [hvalue]
  cases found with
  | none =>
    obtain rfl := Except.ok.inj h
    exact ⟨rfl, fun _ _ => rfl⟩
  | some v => exact put_eq_ok h

theorem putComputed_eq_error {rows : Rows α n} {i : Fin n} {e : QueryError}
    (h : putComputed m value rows i = .error e) :
    addComputed .duplicateSeries (rows.atFrame i) (m, value i) = .error e := by
  unfold addComputed
  rcases bind_eq_error_iff.1 h with hvalue | ⟨found, hvalue, h⟩
  · rw [hvalue]
    rfl
  · rw [hvalue]
    cases found with
    | none => cases h
    | some v => exact put_eq_error h

theorem framewise_putComputed (rows : Rows α n)
    (e : Metric × (Fin n → Except QueryError (Option α))) :
    Framewise atFrame ((List.finRange n).foldlM (putComputed e.1 e.2) rows) fun i =>
      addComputed .duplicateSeries (rows.atFrame i) (e.1, e.2 i) :=
  Framewise.foldlM_frames (f := putComputed e.1 e.2)
    (g := fun i out => addComputed .duplicateSeries out (e.1, e.2 i))
    (fun _ _ _ => putComputed_eq_ok) (fun _ _ err h => ⟨err, putComputed_eq_error h⟩) rows

theorem foldlM_putComputed_error {rows : Rows α n} {e : QueryError}
    (h : (List.finRange n).foldlM (putComputed m value) rows = .error e) :
    ∃ i, addComputed .duplicateSeries (rows.atFrame i) (m, value i) = .error e := by
  obtain ⟨i, -, hi⟩ := Framewise.foldlM_frames_error (f := putComputed m value)
    (g := fun i out => addComputed .duplicateSeries out (m, value i))
    (fun _ _ _ h => (putComputed_eq_ok h).2) (fun _ _ _ => putComputed_eq_error)
    (List.nodup_finRange n) h
  exact ⟨i, hi⟩

theorem collectComputed_eq_foldlM
    (rows : List (Metric × (Fin n → Except QueryError (Option α)))) :
    collectComputed rows =
      rows.foldlM (fun out e => (List.finRange n).foldlM (putComputed e.1 e.2) out) .empty := rfl

theorem foldlM_addComputed (rows : List (Metric × (Fin n → Except QueryError (Option α))))
    (i : Fin n) :
    rows.foldlM (fun out e => addComputed .duplicateSeries out (e.1, e.2 i)) .empty =
      SeriesQuery.collectComputed .duplicateSeries (rows.map fun e => (e.1, e.2 i)) := by
  rw [SeriesQuery.collectComputed_eq_foldlM, List.foldlM_map]

/-- Rows whose numbers are computed hold at each frame what is computed there. -/
theorem framewise_collectComputed (rows : List (Metric × (Fin n → Except QueryError (Option α)))) :
    Framewise atFrame (collectComputed rows) fun i =>
      SeriesQuery.collectComputed .duplicateSeries (rows.map fun e => (e.1, e.2 i)) := by
  simp only [← foldlM_addComputed]
  exact Framewise.foldlM framewise_putComputed (.empty : Rows α n) rows

theorem collectComputed_error {rows : List (Metric × (Fin n → Except QueryError (Option α)))}
    {e : QueryError} (h : collectComputed rows = .error e) :
    ∃ i, SeriesQuery.collectComputed .duplicateSeries (rows.map fun e => (e.1, e.2 i)) =
      .error e := by
  rw [collectComputed_eq_foldlM] at h
  simp only [← foldlM_addComputed]
  exact Framewise.foldlM_error (g := fun i out e => addComputed .duplicateSeries out (e.1, e.2 i))
    framewise_putComputed (fun _ _ _ => foldlM_putComputed_error) h

theorem isSome_get?_foldl_insertAll (seen : SeriesMap Unit) (steps : List (SeriesMap α))
    (m : Metric) :
    ((steps.foldl (fun seen step => seen.insertAll (step.keys.map (·, ()))) seen).get? m).isSome ↔
      (seen.get? m).isSome ∨ ∃ step ∈ steps, (step.get? m).isSome := by
  induction steps generalizing seen with
  | nil => simp
  | cons step rest ih =>
    have hkeys : m ∈ (step.keys.map (·, ())).map Prod.fst ↔ (step.get? m).isSome := by
      rw [List.map_map, ← SortedMap.mem_keys_iff, SortedMap.keys]
      simp
    rw [List.foldl_cons, ih, SortedMap.isSome_get?_insertAll, hkeys, or_assoc]
    simp

theorem atFrame_ofSteps (steps : Vector (SeriesMap α) n) (i : Fin n) :
    (ofSteps steps).atFrame i = steps.get i := by
  refine SortedMap.ext_get? fun m => ?_
  rw [get?_atFrame, ofSteps, SortedMap.get?_mapValues]
  cases hm : (steps.get i).get? m with
  | none =>
    cases SortedMap.get? _ m with
    | none => rfl
    | some _ => simp [hm]
  | some v =>
    have hseen : ((steps.toList.foldl (fun seen step => seen.insertAll (step.keys.map (·, ())))
        (.empty : SeriesMap Unit)).get? m).isSome := by
      refine (isSome_get?_foldl_insertAll _ _ _).2 (.inr ⟨steps.get i, ?_, by rw [hm]; rfl⟩)
      rw [Vector.mem_toList_iff]
      exact Vector.getElem_mem i.2
    obtain ⟨_, hu⟩ := Option.isSome_iff_exists.1 hseen
    rw [hu]
    simp [hm]

end Rows

namespace Columnar

theorem present_keyed (hash : LabelHash) (filter : LabelFilter) (rows : Rows α n) (i : Fin n) :
    present (keyed hash filter rows.toList) i = keyed hash filter (rows.atFrame i).toList := by
  unfold present keyed
  rw [Rows.toList_atFrame, List.filterMap_map, List.map_filterMap]
  refine List.filterMap_congr fun e _ => ?_
  simp only [Function.comp_apply, Option.map_map]
  rfl

theorem framewise_stepwise (step : Fin n → Except QueryError (SeriesMap α)) :
    Framewise Column.atFrame (stepwise step) fun i => Value.vector <$> step i :=
  (Framewise.ofFnM step).map fun steps i => congrArg Value.vector (Rows.atFrame_ofSteps steps i)

end Columnar

end SeriesQuery
