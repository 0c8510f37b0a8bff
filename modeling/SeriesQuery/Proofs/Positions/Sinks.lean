import SeriesQuery.Evaluation.Positional
import SeriesQuery.Proofs.Series.Rows

/-!
# Rows by position

A list by position stands for a vector whose length is known. A computation on such lists stays in
range if it is a computation on vectors of which the lengths are forgotten, and it is described by
what can be read at each frame.
-/

namespace SeriesQuery.Positional

variable {β γ δ : Type} {n : Nat}

/-- `x` yields, up to lengths that are forgotten, what can be read at each frame as `y` there. It
fails with an error of the query if `y` fails at some frame, and does not stop otherwise. -/
def Fits (forget : β → γ) (read : β → Fin n → δ) (x : Run γ)
    (y : Fin n → Except QueryError δ) : Prop :=
  ∃ found, x = lift (forget <$> found) ∧ Framewise read found y

section Lift

variable {ι : Type}

theorem lift_bind (x : Except QueryError β) (f : β → Except QueryError γ) :
    lift (x >>= f) = lift x >>= fun b => lift (f b) := by
  cases x <;> rfl

theorem mapM_lift (f : ι → Except QueryError β) (l : List ι) :
    (l.mapM fun a => lift (f a)) = lift (l.mapM f) := by
  induction l with
  | nil => rfl
  | cons a rest ih =>
    rw [List.mapM_cons, List.mapM_cons, ih, lift_bind]
    refine congrArg _ (funext fun b => ?_)
    rw [lift_bind]
    rfl

/-- A computation goes on with the lengths forgotten as it would with them. -/
theorem foldlM_forget {forget : β → γ} {f : γ → ι → Run γ} {g : β → ι → Except QueryError β}
    {l : List ι} (h : ∀ a ∈ l, ∀ b, f (forget b) a = lift (forget <$> g b a)) (b : β) :
    l.foldlM f (forget b) = lift (forget <$> l.foldlM g b) := by
  induction l generalizing b with
  | nil => rfl
  | cons a rest ih =>
    rw [List.foldlM_cons, List.foldlM_cons, h a (.head _)]
    cases g b a with
    | error e => rfl
    | ok b' => exact ih (fun c hc => h c (.tail _ hc)) b'

end Lift

namespace Fits

variable {β' γ' δ' : Type} {forget : β → γ} {read : β → Fin n → δ} {forget' : β' → γ'}
  {read' : β' → Fin n → δ'} {x : Run γ} {y : Fin n → Except QueryError δ}

theorem ok (b : β) (h : ∀ i, y i = .ok (read b i)) : Fits forget read (.ok (forget b)) y :=
  ⟨.ok b, rfl, h⟩

theorem fail {e : QueryError} (i : Fin n) (h : y i = .error e) : Fits forget read (fail e) y :=
  ⟨.error e, rfl, i, e, h⟩

theorem failAll [Fact (0 < n)] {e : QueryError} (h : ∀ i, ∃ e', y i = .error e') :
    Fits forget read (Positional.fail e) y :=
  ⟨.error e, rfl, .error h⟩

theorem const [Fact (0 < n)] (found : Except QueryError β) :
    Fits (fun b => b) (fun b (_ : Fin n) => b) (Positional.lift found) fun _ => found :=
  ⟨found, congrArg _ (id_map found).symm, .const found⟩

theorem congr_right {y' : Fin n → Except QueryError δ} (h : Fits forget read x y)
    (hy : ∀ i, SameResult (y i) (y' i)) : Fits forget read x y' := by
  obtain ⟨found, rfl, hfound⟩ := h
  exact ⟨found, rfl, hfound.congr_right hy⟩

/-- What follows may rely on what the run yields. -/
theorem bind_found {f : γ → Run γ'} {g : Fin n → δ → Except QueryError δ'}
    (h : Fits forget read x y)
    (hf : ∀ b, x = .ok (forget b) → Fits forget' read' (f (forget b)) fun i => g i (read b i)) :
    Fits forget' read' (x >>= f) fun i => y i >>= g i := by
  obtain ⟨found, rfl, hfound⟩ := h
  cases found with
  | error e => exact ⟨.error e, rfl, hfound.bind (f := fun _ => .error e) nofun⟩
  | ok b =>
    obtain ⟨found', hf', hfound'⟩ := hf b rfl
    exact ⟨found', hf', hfound.bind (f := fun _ => found') fun b' hb' => by
      obtain rfl := Except.ok.inj hb'
      exact hfound'⟩

theorem bind {f : γ → Run γ'} {g : Fin n → δ → Except QueryError δ'} (h : Fits forget read x y)
    (hf : ∀ b, Fits forget' read' (f (forget b)) fun i => g i (read b i)) :
    Fits forget' read' (x >>= f) fun i => y i >>= g i :=
  h.bind_found fun b _ => hf b

theorem map {f : γ → γ'} (f' : β → β') {g : δ → δ'} (h : Fits forget read x y)
    (hf : ∀ b, f (forget b) = forget' (f' b)) (hg : ∀ b i, read' (f' b) i = g (read b i)) :
    Fits forget' read' (f <$> x) fun i => g <$> y i := by
  obtain ⟨found, rfl, hfound⟩ := h
  refine ⟨f' <$> found, ?_, hfound.map hg⟩
  cases found with
  | error e => rfl
  | ok b => exact congrArg Except.ok (hf b)

theorem mapM {ι : Type} {f : ι → Run γ} {g : ι → Fin n → Except QueryError δ} {l : List ι}
    (h : ∀ a ∈ l, Fits forget read (f a) (g a)) :
    Fits (List.map forget) (fun bs i => bs.map (read · i)) (l.mapM f) fun i => l.mapM (g · i) := by
  induction l with
  | nil => exact .ok [] fun _ => rfl
  | cons a rest ih =>
    simp only [List.mapM_cons]
    refine (h a (.head _)).bind fun b => ?_
    refine (ih fun c hc => h c (.tail _ hc)).bind fun bs => ?_
    exact .ok (b :: bs) fun _ => rfl

theorem foldlM {ι : Type} {f : γ → ι → Run γ} {g : Fin n → δ → ι → Except QueryError δ}
    {l : List ι} (h : ∀ a ∈ l, ∀ b, Fits forget read (f (forget b) a) fun i => g i (read b i) a)
    (b : β) : Fits forget read (l.foldlM f (forget b)) fun i => l.foldlM (g i) (read b i) := by
  induction l generalizing b with
  | nil => exact .ok b fun _ => rfl
  | cons a rest ih =>
    simp only [List.foldlM_cons]
    exact (h a (.head _) b).bind fun b' => ih (fun c hc => h c (.tail _ hc)) b'

end Fits

/-- Of the steps for all frames only the one for a given frame has an effect. -/
theorem foldlM_finRange_only {i : Fin n} (f : δ → Except QueryError δ) (b : δ) :
    ((List.finRange n).foldlM (fun b j => if i = j then f b else .ok b) b) = f b := by
  have skip : ∀ (l : List (Fin n)) (b : δ), i ∉ l →
      (l.foldlM (fun b j => if i = j then f b else .ok b) b) = .ok b := by
    intro l
    induction l with
    | nil => exact fun b _ => rfl
    | cons j rest ih =>
      intro b hnot
      rw [List.mem_cons, not_or] at hnot
      rw [List.foldlM_cons, if_neg hnot.1]
      exact ih b hnot.2
  obtain ⟨before, after, hsplit⟩ := List.append_of_mem (List.mem_finRange i)
  have hnodup := hsplit ▸ List.nodup_finRange n
  rw [List.nodup_append] at hnodup
  have hbefore : i ∉ before := fun h => hnodup.2.2 i h i (.head _) rfl
  have hafter : i ∉ after := (List.nodup_cons.1 hnodup.2.1).1
  rw [hsplit, List.foldlM_append, skip before b hbefore]
  change (if i = i then f b else .ok b) >>= _ = f b
  rw [if_pos rfl]
  cases f b with
  | error e => rfl
  | ok b' => exact skip after b' hafter

theorem foldlM_ok {ι : Type} (b : δ) (l : List ι) :
    (l.foldlM (fun b _ => .ok b) b : Except QueryError δ) = .ok b := by
  induction l with
  | nil => rfl
  | cons a rest ih => exact ih

theorem entry_eq_ok {xs : List β} {i : Nat} {x : β} (h : xs[i]? = some x) :
    entry xs i = .ok x := by
  unfold entry
  rw [h]

theorem entry_toList (v : Vector β n) (i : Fin n) : entry v.toList i = .ok (v.get i) := by
  refine entry_eq_ok ?_
  rw [vector_get _ i.2]
  simp

theorem write_toList (v : Vector β n) (i : Fin n) (b : β) :
    write v.toList i b = .ok (v.set i b i.2).toList := by
  unfold write
  rw [Vector.length_toList, if_pos i.2, Vector.toList_set]

theorem write_append (done rest : List β) (x y : β) :
    write (done ++ x :: rest) done.length y = .ok (done ++ y :: rest) := by
  simp [write]

theorem filterMapM_eq_ok {ι : Type} {f : ι → Run (Option β)} {g : ι → Option β} {l : List ι}
    (h : ∀ a ∈ l, f a = .ok (g a)) : l.filterMapM f = .ok (l.filterMap g) := by
  induction l with
  | nil => rfl
  | cons a rest ih =>
    have ha := h a (.head _)
    have hrest := ih fun b hb => h b (.tail _ hb)
    cases hg : g a with
    | none =>
      rw [hg] at ha
      rw [List.filterMapM_cons, ha, hrest, List.filterMap_cons_none hg]
      rfl
    | some b =>
      rw [hg] at ha
      rw [List.filterMapM_cons, ha, hrest, List.filterMap_cons_some hg]
      rfl

theorem mapM_eq_ok {ι : Type} {f : ι → Run β} {g : ι → β} {l : List ι}
    (h : ∀ a ∈ l, f a = .ok (g a)) : l.mapM f = .ok (l.map g) := by
  rw [mapM_eq_ok_iff, List.forall₂_map_right_iff, List.forall₂_same]
  exact h

theorem mapM_eq_ok_filterMap {ι : Type} {f : ι → Run β} {g : ι → Option β} {l : List ι}
    (h : ∀ a ∈ l, ∃ b, f a = .ok b ∧ g a = some b) : l.mapM f = .ok (l.filterMap g) := by
  rw [mapM_eq_ok_iff]
  induction l with
  | nil => exact .nil
  | cons a rest ih =>
    obtain ⟨b, hf, hg⟩ := h a (.head _)
    rw [List.filterMap_cons_some hg]
    exact .cons hf (ih fun a ha => h a (.tail _ ha))

theorem range_eq_map_finRange (n : Nat) : List.range n = (List.finRange n).map Fin.val :=
  List.map_coe_finRange_eq_range.symm

theorem mapM_range_eq_ok {f : Nat → Run β} {g : Fin n → β} (h : ∀ i : Fin n, f i = .ok (g i)) :
    (List.range n).mapM f = .ok (Vector.ofFn g).toList := by
  rw [range_eq_map_finRange, List.mapM_map, Vector.toList_ofFn, List.ofFn_eq_map]
  exact mapM_eq_ok fun i _ => h i

theorem toList_eq_map_finRange (v : Vector β n) : v.toList = (List.finRange n).map v.get := by
  refine List.ext_getElem (by simp) fun i _ _ => ?_
  simp [Vector.get]

theorem map_toList (f : β → γ) (v : Vector β n) :
    v.toList.map f = (Vector.ofFn fun i => f (v.get i)).toList := by
  rw [toList_eq_map_finRange v, List.map_map, Vector.toList_ofFn, List.ofFn_eq_map]
  rfl

theorem map_pairs_toList (f : β × γ → δ) (v : Vector β n) (w : Vector γ n) :
    (List.map f <$> pairs v.toList w.toList) =
      .ok (Vector.ofFn fun i => f (v.get i, w.get i)).toList := by
  unfold pairs
  rw [if_pos (by simp), Vector.toList_ofFn, List.ofFn_eq_map]
  refine congrArg Except.ok (List.ext_getElem (by simp) fun i _ _ => ?_)
  simp [Vector.get]

theorem zipIdx_toList (v : Vector β n) :
    v.toList.zipIdx = (List.finRange n).map fun i => (v.get i, i.val) := by
  refine List.ext_getElem (by simp) fun i _ _ => ?_
  simp [Vector.get]

@[simp] theorem vector_get_set (v : Vector β n) (i j : Fin n) (b : β) :
    (v.set i b i.2).get j = if j = i then b else v.get j := by
  rw [vector_get _ j.2, vector_get _ j.2, Vector.getElem_set]
  simp only [Fin.ext_iff, eq_comm]

variable {α : Type}

namespace Rows

/-- The rows without the lengths in their types. -/
def forget (rows : SeriesQuery.Rows α n) : Rows α := rows.mapValues fun _ row => row.toList

theorem toList_forget (rows : SeriesQuery.Rows α n) :
    (forget rows).toList = rows.toList.map fun e => (e.1, e.2.toList) := rfl

theorem values_forget (rows : SeriesQuery.Rows α n) :
    (forget rows).values = rows.values.map Vector.toList := by
  unfold SortedMap.values
  rw [toList_forget, List.map_map, List.map_map]
  rfl

theorem get?_forget (rows : SeriesQuery.Rows α n) (m : Metric) :
    (forget rows).get? m = (rows.get? m).map Vector.toList :=
  SortedMap.get?_mapValues ..

theorem forget_insert (rows : SeriesQuery.Rows α n) (m : Metric) (row : SeriesQuery.Row α n) :
    forget (rows.insert m row) = (forget rows).insert m row.toList :=
  SortedMap.mapValues_insert ..

end Rows

/-- A run yields rows for `n` frames, which read at each frame as the vector there. -/
abbrev FitsRows (x : Run (Rows α)) (y : Fin n → Except QueryError (SeriesMap α)) : Prop :=
  Fits Rows.forget SeriesQuery.Rows.atFrame x y

namespace RowSink

variable {sink : RowSink}

theorem set_eq_put (rows : SeriesQuery.Rows α n) (m : Metric) (i : Fin n) (v : α) :
    (rowsFor n).set (Rows.forget rows) m i v = lift (Rows.forget <$> rows.put m i v) := by
  have hrow : ((Rows.forget rows).get? m).getD (List.replicate (rowsFor n).len none) =
      ((rows.get? m).getD (Vector.replicate n none)).toList := by
    rw [Rows.get?_forget]
    cases rows.get? m with
    | none => exact Vector.toList_replicate.symm
    | some old => rfl
  unfold set SeriesQuery.Rows.put
  dsimp only
  rw [hrow]
  generalize (rows.get? m).getD (Vector.replicate n none) = old
  rw [entry_toList]
  change (if (old.get i).isSome then fail ((rowsFor n).duplicate m) else _) = _
  by_cases hold : (old.get i).isSome = true
  · rw [if_pos hold, if_pos hold]
    rfl
  · rw [if_neg hold, if_neg hold, write_toList]
    exact congrArg Except.ok (Rows.forget_insert rows m (old.set i (some v))).symm

/-- A value is put at one frame, where its metric has to be new. -/
theorem fits_set (hlen : sink.len = n) (rows : SeriesQuery.Rows α n) (m : Metric) (i : Fin n)
    (v : α) : FitsRows (sink.set (Rows.forget rows) m i v) fun j =>
      if j = i then addNew sink.duplicate (rows.atFrame j) (m, v) else .ok (rows.atFrame j) := by
  have hrow : ((Rows.forget rows).get? m).getD (List.replicate sink.len none) =
      ((rows.get? m).getD (Vector.replicate n none)).toList := by
    rw [Rows.get?_forget, hlen]
    cases rows.get? m with
    | none => exact Vector.toList_replicate.symm
    | some old => rfl
  have hat (j : Fin n) :
      (rows.atFrame j).get? m = ((rows.get? m).getD (Vector.replicate n none)).get j := by
    rw [Rows.get?_atFrame]
    cases rows.get? m with
    | none => exact (Vector.getElem_replicate j.2).symm
    | some old => rfl
  unfold set
  dsimp only
  rw [hrow]
  generalize (rows.get? m).getD (Vector.replicate n none) = old at hat
  rw [entry_toList]
  change Fits _ _ (if (old.get i).isSome then fail (sink.duplicate m) else _) _
  by_cases hold : (old.get i).isSome = true
  · rw [if_pos hold]
    refine .fail i ((if_pos rfl).trans ?_)
    unfold addNew SortedMap.contains
    rw [hat, if_pos hold]
  · rw [if_neg hold, write_toList]
    change Fits _ _ (.ok ((Rows.forget rows).insert m (old.set i (some v)).toList)) _
    rw [← Rows.forget_insert]
    refine .ok _ fun j => ?_
    rw [SeriesQuery.Rows.atFrame_insert, vector_get_set]
    by_cases hj : j = i
    · rw [if_pos hj, if_pos hj, addNew_eq_ok_iff, hat, hj]
      exact ⟨Option.not_isSome_iff_eq_none.1 hold, rfl⟩
    · rw [if_neg hj, if_neg hj, ← hat, SortedMap.alter_get?]

/-- The values of a row are put where the vectors have to have no value of its metric yet. -/
theorem fits_setEach (hlen : sink.len = n) (rows : SeriesQuery.Rows α n) (m : Metric)
    (row : SeriesQuery.Row α n) : FitsRows (sink.setEach (Rows.forget rows) m row.toList) fun i =>
      match row.get i with
      | some v => addNew sink.duplicate (rows.atFrame i) (m, v)
      | none => .ok (rows.atFrame i) := by
  unfold setEach
  rw [zipIdx_toList, List.foldlM_map]
  refine Fits.congr_right (Fits.foldlM (g := fun i out j => if i = j then
    match row.get i with
    | some v => addNew sink.duplicate out (m, v)
    | none => .ok out else .ok out) (fun j _ rows => ?_) rows) fun i => .of_eq ?_
  · cases hrow : row.get j with
    | none =>
      refine .ok rows fun i => ?_
      by_cases hi : i = j
      · rw [if_pos hi, hi, hrow]
      · rw [if_neg hi]
    | some v =>
      refine (fits_set hlen rows m j v).congr_right fun i => .of_eq ?_
      by_cases hi : i = j
      · rw [if_pos hi, if_pos hi, hi, hrow]
      · rw [if_neg hi, if_neg hi]
  · exact foldlM_finRange_only (fun out => match row.get i with
      | some v => addNew sink.duplicate out (m, v)
      | none => .ok out) _

/-- Rows are filled frame by frame with elements of which no two have one metric. -/
theorem fits_fill (hlen : sink.len = n) (step : Nat → Run (List (Metric × α)))
    (elements : Fin n → Except QueryError (List (Metric × α)))
    (h : ∀ i : Fin n, step i = lift (elements i)) :
    FitsRows (sink.fill n step) fun i => elements i >>= collect sink.duplicate := by
  unfold fill
  rw [range_eq_map_finRange, List.foldlM_map]
  refine Fits.congr_right (Fits.foldlM (g := fun i out j => if i = j then
    elements i >>= fun es => es.foldlM (addNew sink.duplicate) out else .ok out)
    (fun j _ rows => ?_) (.empty : SeriesQuery.Rows α n)) fun i => .of_eq ?_
  · rw [h]
    cases helements : elements j with
    | error e =>
      refine .fail j ((if_pos rfl).trans ?_)
      rw [helements]
      rfl
    | ok es =>
      refine Fits.congr_right (Fits.foldlM (g := fun i out e =>
        if i = j then addNew sink.duplicate out e else .ok out)
        (fun e _ rows => fits_set hlen rows e.1 j e.2) rows) fun i => .of_eq ?_
      by_cases hi : i = j
      · simp only [hi, if_true, helements]
        rfl
      · simp only [hi, if_false]
        exact foldlM_ok _ _
  · exact foldlM_finRange_only
      (fun out => elements i >>= fun es => es.foldlM (addNew sink.duplicate) out) _

theorem fits_addEach (rows : SeriesQuery.Rows α n) (m : Metric) (row : SeriesQuery.Row α n) :
    FitsRows ((rowsFor n).setEach (Rows.forget rows) m row.toList) fun i =>
      SeriesQuery.Rows.addAt i (rows.atFrame i) (m, row) := by
  have hlen : (rowsFor n).len = n := rfl
  refine (fits_setEach hlen rows m row).congr_right fun i => .of_eq ?_
  cases hrow : row.get i with
  | none => exact (SeriesQuery.Rows.addAt_of_none hrow).symm
  | some v => exact (SeriesQuery.Rows.addAt_of_some hrow).symm

theorem fits_merge (rows : SeriesQuery.Rows α n) (m : Metric) (row : SeriesQuery.Row α n) :
    FitsRows ((rowsFor n).merge (Rows.forget rows) m row.toList) fun i =>
      SeriesQuery.Rows.addAt i (rows.atFrame i) (m, row) := by
  unfold merge SortedMap.contains
  rw [Rows.get?_forget, Option.isSome_map]
  by_cases hm : (rows.get? m).isSome = true
  · rw [if_pos hm]
    exact fits_addEach rows m row
  · rw [if_neg hm, ← Rows.forget_insert]
    refine .ok _ ((SeriesQuery.Rows.framewise_add rows (m, row)).eq_ok ?_)
    unfold SeriesQuery.Rows.add
    rw [Option.not_isSome_iff_eq_none.1 hm]

/-- Rows that are changed and merged read as the changed elements at each frame. -/
theorem fits_mapRows (metric : Metric → Metric) {change : Row α → Run (Row α)}
    (value : Fin n → α → Option α) (rows : SeriesQuery.Rows α n)
    (h : ∀ row : SeriesQuery.Row α n, change row.toList =
      .ok (Vector.ofFn fun i => (row.get i).bind (value i)).toList) :
    FitsRows ((rowsFor n).mapRows metric change (Rows.forget rows)) fun i =>
      collect .duplicateSeries ((rows.atFrame i).toList.filterMap fun e =>
        (value i e.2).map (metric e.1, ·)) := by
  let changed (e : Metric × SeriesQuery.Row α n) : Metric × SeriesQuery.Row α n :=
    (metric e.1, Vector.ofFn fun i => (e.2.get i).bind (value i))
  unfold mapRows
  rw [Rows.toList_forget, List.foldlM_map]
  simp only [h]
  refine Fits.congr_right (Fits.foldlM
    (g := fun i out e => SeriesQuery.Rows.addAt i out (changed e))
    (fun e _ out => fits_merge out (changed e).1 (changed e).2)
    (.empty : SeriesQuery.Rows α n)) fun i => .of_eq ?_
  have hfold := SeriesQuery.Rows.foldlM_addAt (rows.toList.map changed) i
  rw [List.foldlM_map, List.filterMap_map] at hfold
  refine hfold.trans (congrArg _ ?_)
  rw [SeriesQuery.Rows.toList_atFrame, List.filterMap_filterMap]
  refine List.filterMap_congr fun e _ => ?_
  cases hget : e.2.get i <;> simp [changed, hget]

end RowSink

end SeriesQuery.Positional
