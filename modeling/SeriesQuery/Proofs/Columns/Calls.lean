import Mathlib.Data.List.InsertIdx
import SeriesQuery.Proofs.Columns.Operators
import SeriesQuery.Proofs.Soundness.Columnar
import SeriesQuery.Time.Frames

/-!
# Calls frame by frame

A call on columns reads at each frame as the call on the values of its arguments there.
-/

namespace SeriesQuery.Columnar

variable {α : Type} {n : Nat}

def valuesAt (values : List (Column α n)) (i : Fin n) : List (Except QueryError (Value α)) :=
  (values.map (·.atFrame i)).map .ok

theorem framewise_argument [Fact (0 < n)] (values : List (Column α n)) (k : Nat) :
    Framewise Column.atFrame (argument values k) fun i =>
      Stepwise.argument (valuesAt values i) k := by
  unfold argument Stepwise.argument valuesAt
  simp only [List.getElem?_map]
  cases values[k]? with
  | none => exact .error fun i => ⟨_, rfl⟩
  | some x => exact fun i => rfl

theorem framewise_vectorArg [Fact (0 < n)] (values : List (Column α n)) (k : Nat) :
    Framewise Rows.atFrame (argument values k >>= rowsOf) fun i =>
      Stepwise.vectorArg (valuesAt values i) k :=
  (framewise_argument values k).bind fun x _ => framewise_rowsOf x

theorem framewise_scalarArg [Fact (0 < n)] (values : List (Column α n)) (k : Nat) :
    Framewise Vector.get (argument values k >>= scalarsOf) fun i =>
      Stepwise.scalarArg (valuesAt values i) k :=
  (framewise_argument values k).bind fun x _ => framewise_scalarsOf x

theorem framewise_params [Fact (0 < n)] (values : List (Column α n)) (k : Nat) :
    Framewise (fun scalars i => scalars.map (Vector.get · i))
      ((values.eraseIdx k).mapM scalarsOf) fun i =>
        ((valuesAt values i).eraseIdx k).mapM fun value => value >>= Value.scalar? := by
  have hparams (i : Fin n) :
      ((valuesAt values i).eraseIdx k).mapM (fun value => value >>= Value.scalar?) =
        (values.eraseIdx k).mapM fun x => (x.atFrame i).scalar? := by
    unfold valuesAt
    rw [List.eraseIdx_map, List.eraseIdx_map, List.mapM_map, List.mapM_map]
    rfl
  simp only [hparams]
  exact Framewise.mapM fun x _ => framewise_scalarsOf x

variable [SampleValue α]

/-- Windows are reduced at a frame as they are there. One without samples is reduced to nothing,
like one that is not there. -/
theorem framewise_reduceWindows {frames : TimeFrames} (f : Function) {range offset : Int}
    (hwindow : ∀ i : Fin frames.len, ∃ w, Window.of (frames.atIndex i) range offset = .ok w)
    (rows : SeriesMap (WindowRow α frames.len)) (params : Fin frames.len → List α) :
    Framewise Column.atFrame
      (.vector <$> Rows.collectComputed (rows.toList.map fun (m, row) =>
        (f.outputMetric m, fun i => Except.mapError .overflow do
          let w ← Window.of (frames.atIndex i) range offset
          f.reduceWindow (row.window i) w (params i)))) fun i =>
      Stepwise.reduceWindows (frames.atIndex i) f offset range
        (rows.filterMap fun _ row => if row.isEmptyAt i then none else some (row.window i))
        (params i) := by
  refine (Framewise.map (Rows.framewise_collectComputed _) fun _ _ => rfl).congr_right fun i => ?_
  obtain ⟨w, hw⟩ := hwindow i
  unfold Stepwise.reduceWindows SortedMap.filterMap
  rw [hw, List.map_map]
  refine SameResult.map Value.vector (.of_eq (collectComputed_filterMap ?_ ?_).symm)
  · intro e _ shown he
    obtain ⟨samples, hsamples, rfl⟩ := Option.map_eq_some_iff.1 he
    dsimp only at hsamples
    split at hsamples
    · cases hsamples
    · obtain rfl := Option.some.inj hsamples
      dsimp only [Function.comp_apply]
      rw [hw]
      rfl
  · intro e _ he
    rw [Option.map_eq_none_iff] at he
    dsimp only at he
    split at he
    · next hempty =>
      dsimp only [Function.comp_apply]
      rw [hw, WindowRow.window_eq_nil hempty]
      rfl
    · cases he

theorem framewise_callWindow {frames : TimeFrames} {f : Function} {exprs : List (Expr α)}
    {values : List (Column α frames.len)} {s : Selector} {duration : Int}
    {rows : SeriesMap (WindowRow α frames.len)}
    (hexpr : exprs[f.matrixArg]? = some (.range s duration))
    (hvalue : values[f.matrixArg]? = some (.matrix rows duration s.offset))
    (hwindow : ∀ i : Fin frames.len, ∃ w,
      Window.of (frames.atIndex i) duration s.offset = .ok w) :
    Framewise Column.atFrame (callWindow frames f values) fun i =>
      Stepwise.callWindow (frames.atIndex i) f exprs (valuesAt values i) := by
  have hrange : Stepwise.rangeArg f exprs = .ok (s, duration) := by
    unfold Stepwise.rangeArg
    rw [hexpr]
  have hmatrix : argument values f.matrixArg = .ok (.matrix rows duration s.offset) := by
    unfold argument
    rw [hvalue]
  have hmatrixAt (i : Fin frames.len) : Stepwise.argument (valuesAt values i) f.matrixArg =
      .ok ((Column.matrix rows duration s.offset).atFrame i) :=
    (framewise_argument values f.matrixArg).eq_ok hmatrix i
  unfold callWindow Stepwise.callWindow
  simp only [hrange, hmatrixAt, hmatrix]
  refine (framewise_params values f.matrixArg).bind fun scalars _ => ?_
  refine (Framewise.forM _).bind fun _ _ => ?_
  exact framewise_reduceWindows f hwindow rows _

theorem framewise_callMath [Fact (0 < n)] (f : Function) (values : List (Column α n)) :
    Framewise Column.atFrame (callMath f values) fun i =>
      Stepwise.callMath f (valuesAt values i) := by
  have hparam : Framewise (fun p i => p.map (Vector.get · i)) (values[1]?.mapM scalarsOf) fun i =>
      if 1 < (valuesAt values i).length then some <$> Stepwise.scalarArg (valuesAt values i) 1
      else pure none := by
    have hlength (i : Fin n) : (valuesAt values i).length = values.length := by simp [valuesAt]
    have hscalar := framewise_scalarArg values 1
    unfold argument at hscalar
    simp only [hlength]
    cases hget : values[1]? with
    | none =>
      have hshort : ¬1 < values.length := Nat.not_lt.2 (List.getElem?_eq_none_iff.1 hget)
      simp only [hshort, if_false]
      exact fun i => rfl
    | some x =>
      have hlong : 1 < values.length := (List.getElem?_eq_some_iff.1 hget).1
      rw [hget] at hscalar
      simp only [hlong, if_true]
      exact hscalar.map fun _ _ => rfl
  have hrows := framewise_vectorArg values 0
  unfold callMath Stepwise.callMath
  rw [← bind_assoc]
  refine hrows.bind fun rows _ => ?_
  let value (i : Fin n) (param : Option α) : Except QueryError (Value α) :=
    Value.mapElements f.outputMetric (fun x => some (f.applyMath x param)) (rows.atFrame i)
  have hvalue := hparam.bind (g := value) fun param _ => Rows.framewise_mapElements
    f.outputMetric (fun i x => some (f.applyMath x (param.map (Vector.get · i)))) rows
  refine hvalue.congr_right fun i => .of_eq ?_
  by_cases hlong : 1 < (valuesAt values i).length
  · simp only [hlong, if_true]
    rfl
  · simp only [hlong, if_false]
    rfl

omit [SampleValue α] in
theorem framewise_mapArg [Fact (0 < n)] (f : Function) (value : Fin n → α → α)
    (values : List (Column α n)) :
    Framewise Column.atFrame
      (do
        let rows ← rowsOf (← argument values 0)
        .vector <$> rows.mapElements f.outputMetric fun i x => some (value i x)) fun i =>
      Stepwise.mapArg f (value i) (valuesAt values i) := by
  rw [← bind_assoc]
  refine (framewise_vectorArg values 0).bind fun rows _ => ?_
  exact Rows.framewise_mapElements f.outputMetric (fun i x => some (value i x)) rows

omit [SampleValue α] in
theorem atFrame_single (m : Metric) {row : Row α n} {i : Fin n} {v : α} (h : row.get i = some v) :
    (single m row).atFrame i = Stepwise.single m v := by
  refine congrArg Value.vector (SortedMap.ext_toList ?_)
  change [(m, row)].filterMap (fun e => (e.2.get i).map (e.1, ·)) = [(m, v)]
  simp [h]

omit [SampleValue α] in
theorem atFrame_single_of_none (m : Metric) {row : Row α n} {i : Fin n} (h : row.get i = none) :
    (single m row).atFrame i = .vector .empty := by
  refine congrArg Value.vector (SortedMap.ext_toList ?_)
  change [(m, row)].filterMap (fun e => (e.2.get i).map (e.1, ·)) = []
  simp [h]

theorem framewise_callDate (frames : TimeFrames) (f : Function)
    (values : List (Column α frames.len)) :
    Framewise Column.atFrame (callDate frames f values) fun i =>
      if (valuesAt values i).isEmpty then
        pure (Stepwise.single .empty (f.applyDate (Numeric.ofMillis (frames.atIndex i))))
      else Stepwise.mapArg f f.applyDate (valuesAt values i) := by
  cases values with
  | nil =>
    intro i
    refine congrArg Except.ok (atFrame_single _ ?_).symm
    rw [vector_get_map, TimeFrames.get_toVector]
  | cons x rest => exact framewise_mapArg f (fun _ => f.applyDate) (x :: rest)

theorem framewise_scalar [Fact (0 < n)] (values : List (Column α n)) :
    Framewise Column.atFrame
      (do
        let rows ← rowsOf (← argument values 0)
        return .scalar <| Vector.ofFn fun i =>
          match rows.values.filterMap (·.get i) with
          | [v] => v
          | _ => Numeric.nan) fun i => do
      match (← Stepwise.vectorArg (valuesAt values i) 0).values with
      | [v] => return .scalar v
      | _ => return .scalar Numeric.nan := by
  rw [← bind_assoc]
  refine (framewise_vectorArg values 0).bind fun rows _ i => ?_
  simp only [Column.atFrame, Rows.values_atFrame, vector_get_ofFn]
  generalize rows.values.filterMap (·.get i) = present
  cases present with
  | nil => rfl
  | cons v rest => cases rest <;> rfl

omit [SampleValue α] in
/-- A vector that has its only element at some frames needs its metric if there are any. -/
theorem framewise_single (metric : Except QueryError Metric) {row : Row α n} {v : α}
    {there : Fin n → Bool} (hrow : ∀ i, row.get i = if there i then some v else none) :
    Framewise Column.atFrame
      (if row.any Option.isSome then do return single (← metric) row else return .vector .empty)
      fun i =>
        if there i then do return Stepwise.single (← metric) v else return .vector .empty := by
  by_cases hany : row.any Option.isSome = true
  · rw [if_pos hany]
    cases metric with
    | error e =>
      obtain ⟨i, hi, hsome⟩ := Vector.any_eq_true.1 hany
      have hthere : there ⟨i, hi⟩ = true := by
        by_contra hthere
        have hget := (hrow ⟨i, hi⟩).trans (if_neg hthere)
        rw [vector_get _ hi] at hget
        rw [hget] at hsome
        cases hsome
      refine ⟨⟨i, hi⟩, e, ?_⟩
      simp only [if_pos hthere]
      rfl
    | ok m =>
      intro i
      by_cases hthere : there i = true
      · have hget := (hrow i).trans (if_pos hthere)
        simp only [if_pos hthere]
        exact congrArg Except.ok (atFrame_single m hget).symm
      · have hget := (hrow i).trans (if_neg hthere)
        simp only [if_neg hthere]
        exact congrArg Except.ok (atFrame_single_of_none m hget).symm
  · rw [if_neg hany]
    intro i
    have hthere : ¬there i = true := by
      intro hthere
      have hget := (hrow i).trans (if_pos hthere)
      rw [vector_get _ i.2] at hget
      exact hany (Vector.any_eq_true.2 ⟨i, i.2, Option.isSome_iff_exists.2 ⟨_, hget⟩⟩)
    simp only [if_neg hthere]
    rfl

theorem framewise_absent [Fact (0 < n)] (exprs : List (Expr α)) (values : List (Column α n)) :
    Framewise Column.atFrame
      (do
        let rows ← rowsOf (← argument values 0)
        let row : Row α n := Vector.ofFn fun i =>
          if rows.values.any fun row => (row.get i).isSome then none else some Numeric.one
        if row.any Option.isSome then return single (← Expr.absentArgument exprs) row
        else return .vector .empty) fun i => do
      if (← Stepwise.vectorArg (valuesAt values i) 0).isEmpty then
        return Stepwise.single (← Expr.absentArgument exprs) Numeric.one
      else return .vector .empty := by
  rw [← bind_assoc]
  refine (framewise_vectorArg values 0).bind fun rows _ => ?_
  refine framewise_single (Expr.absentArgument exprs) fun i => ?_
  rw [vector_get_ofFn, Rows.isEmpty_atFrame]
  cases rows.values.any fun row => (row.get i).isSome <;> rfl

theorem framewise_histogramQuantile [Fact (0 < n)] (values : List (Column α n)) :
    Framewise Column.atFrame
      (do
        let q ← scalarsOf (← argument values 0)
        let rows ← rowsOf (← argument values 1)
        stepwise fun i => .ok (Histogram.quantile (q.get i) (rows.atFrame i))) fun i => do
      let q ← Stepwise.scalarArg (valuesAt values i) 0
      let v ← Stepwise.vectorArg (valuesAt values i) 1
      return .vector (Histogram.quantile q v) := by
  rw [← bind_assoc]
  refine (framewise_scalarArg values 0).bind fun q _ => ?_
  rw [← bind_assoc]
  refine (framewise_vectorArg values 1).bind fun rows _ => ?_
  exact (framewise_stepwise _).congr_right fun i => .refl _

theorem framewise_callSpecial (frames : TimeFrames) {f : Function} (hkind : f.kind = .special)
    (hrelabel : ¬(f = .labelReplace ∨ f = .labelJoin)) (exprs : List (Expr α))
    (values : List (Column α frames.len)) :
    Framewise Column.atFrame (callSpecial frames f exprs values) fun i =>
      Stepwise.callSpecial (frames.atIndex i) f exprs (valuesAt values i) := by
  cases f with
  | time =>
    intro i
    refine congrArg (fun v => Except.ok (Value.scalar v)) ?_
    rw [vector_get_map, TimeFrames.get_toVector]
  | vector =>
    unfold callSpecial Stepwise.callSpecial
    rw [← bind_assoc]
    refine (framewise_scalarArg values 0).bind fun numbers _ i => ?_
    exact congrArg Except.ok (atFrame_single _ (vector_get_map ..)).symm
  | scalar => exact framewise_scalar values
  | absent => exact framewise_absent exprs values
  | timestamp =>
    exact framewise_mapArg .timestamp (fun i _ => Numeric.ofMillis (frames.atIndex i)) values
  | histogramQuantile => exact framewise_histogramQuantile values
  | labelReplace => exact absurd (.inl rfl) hrelabel
  | labelJoin => exact absurd (.inr rfl) hrelabel
  | _ => exact absurd hkind (by decide)

end SeriesQuery.Columnar
