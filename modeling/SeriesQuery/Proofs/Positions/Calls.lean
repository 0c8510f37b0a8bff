import SeriesQuery.Proofs.Columns.Calls
import SeriesQuery.Proofs.Positions.Operators

/-!
# Calls by position

A call on columns stays in range and reads at each frame as the call on the values of its
arguments there.
-/

namespace SeriesQuery.Positional

variable {α γ : Type} {n : Nat}

def valuesAt (values : List (Shaped α n)) (i : Fin n) : List (Except QueryError (Value α)) :=
  (values.map (·.atFrame i)).map .ok

theorem fits_argument [Fact (0 < n)] (values : List (Shaped α n)) (k : Nat) :
    FitsColumn (argument (values.map Shaped.forget) k) fun i =>
      Stepwise.argument (valuesAt values i) k := by
  unfold argument Stepwise.argument valuesAt
  simp only [List.getElem?_map]
  cases values[k]? with
  | none => exact .failAll fun i => ⟨_, rfl⟩
  | some x => exact .ok x fun i => rfl

theorem fits_vectorArg [Fact (0 < n)] (values : List (Shaped α n)) (k : Nat) :
    FitsRows (argument (values.map Shaped.forget) k >>= Column.rows) fun i =>
      Stepwise.vectorArg (valuesAt values i) k :=
  (fits_argument values k).bind fun x => fits_rows x

theorem fits_scalarArg [Fact (0 < n)] (values : List (Shaped α n)) (k : Nat) :
    Fits Vector.toList Vector.get (argument (values.map Shaped.forget) k >>= Column.scalars)
      fun i => Stepwise.scalarArg (valuesAt values i) k :=
  (fits_argument values k).bind fun x => fits_scalars x

theorem fits_params [Fact (0 < n)] (values : List (Shaped α n)) (k : Nat) :
    Fits (List.map Vector.toList) (fun scalars i => scalars.map (Vector.get · i))
      (((values.map Shaped.forget).eraseIdx k).mapM Column.scalars) fun i =>
        ((valuesAt values i).eraseIdx k).mapM fun value => value >>= Value.scalar? := by
  have hparams (i : Fin n) :
      ((valuesAt values i).eraseIdx k).mapM (fun value => value >>= Value.scalar?) =
        (values.eraseIdx k).mapM fun x => (x.atFrame i).scalar? := by
    unfold valuesAt
    rw [List.eraseIdx_map, List.eraseIdx_map, List.mapM_map, List.mapM_map]
    rfl
  simp only [hparams]
  rw [List.eraseIdx_map, List.mapM_map]
  exact Fits.mapM fun x _ => fits_scalars x

variable [SampleValue α]

omit [SampleValue α] in
theorem fits_checkParams {check : List α → Except QueryError Unit} (params : Fin n → List α) :
    Fits (fun u : Unit => u) (fun _ _ => ())
      ((Vector.ofFn params).toList.forM fun p => lift (check p)) fun i => check (params i) := by
  refine ⟨(List.finRange n).forM fun i => check (params i), ?_, Framewise.forM _⟩
  rw [Vector.toList_ofFn, List.ofFn_eq_map]
  induction List.finRange n with
  | nil => rfl
  | cons i rest ih =>
    change (lift (check (params i)) >>= fun _ => (rest.map params).forM _) =
      lift (_ <$> (check (params i) >>= fun _ => rest.forM _))
    rw [ih]
    cases check (params i) <;> rfl

omit [SampleValue α] in
theorem slice_window {row : SeriesQuery.WindowRow α n} (h : InRange row) (i : Fin n) :
    slice row.samples.toList (row.bounds.get i).1 (row.bounds.get i).2 = .ok (row.window i) := by
  unfold slice
  rw [Array.length_toList, if_pos (h i)]
  unfold SeriesQuery.WindowRow.window
  rw [Array.toList_extract, List.extract_eq_take_drop, List.drop_take]

theorem foldlM_windows {frames : TimeFrames} (f : Function) (range offset : Int)
    (params : Fin frames.len → List α) (m : Metric) {row : SeriesQuery.WindowRow α frames.len}
    (h : InRange row) (out : SeriesQuery.Rows α frames.len) :
    (frames.toList.zipIdx.foldlM (fun out (t, i) => do
        let (lower, upper) ← entry row.bounds.toList i
        let samples ← slice row.samples.toList lower upper
        let w ← lift ((Window.of t range offset).mapError .overflow)
        match ← lift ((f.reduceWindow samples w
          (← entry (Vector.ofFn params).toList i)).mapError .overflow) with
        | some v => (rowsFor frames.len).set out m i v
        | none => return out) (Rows.forget out)) =
      lift (Rows.forget <$> (List.finRange frames.len).foldlM (fun out (i : Fin frames.len) => do
        match ← (Except.mapError .overflow do
          let w ← Window.of (frames.atIndex i) range offset
          f.reduceWindow (row.window i) w (params i)) with
        | some v => SeriesQuery.Rows.put out m i v
        | none => .ok out) out) := by
  unfold TimeFrames.toList
  rw [zipIdx_toList, List.foldlM_map]
  refine foldlM_forget (fun i _ out => ?_) out
  dsimp only
  rw [entry_toList, entry_toList, vector_get_ofFn, TimeFrames.get_toVector]
  change (slice row.samples.toList (row.bounds.get i).1 (row.bounds.get i).2 >>= _) = _
  rw [slice_window h]
  cases hw : Window.of (frames.atIndex i) range offset with
  | error overflow => rfl
  | ok w =>
    change (lift ((f.reduceWindow (row.window i) w (params i)).mapError .overflow) >>= _) =
      lift (Rows.forget <$> ((f.reduceWindow (row.window i) w (params i)).mapError _ >>= _))
    cases f.reduceWindow (row.window i) w (params i) with
    | error overflow => rfl
    | ok found =>
      cases found with
      | none => rfl
      | some v => exact RowSink.set_eq_put out m i v

theorem fits_callWindow {frames : TimeFrames} {f : Function} {exprs : List (Expr α)}
    {values : List (Shaped α frames.len)} {s : Selector} {duration : Int}
    (hexpr : exprs[f.matrixArg]? = some (.range s duration))
    {x : Shaped α frames.len} {rows : SeriesMap (SeriesQuery.WindowRow α frames.len)}
    (hvalue : values[f.matrixArg]? = some x) (hx : x.column = .matrix rows duration s.offset)
    (hwindow : ∀ i : Fin frames.len, ∃ w,
      Window.of (frames.atIndex i) duration s.offset = .ok w) :
    FitsColumn (callWindow frames f (values.map Shaped.forget)) fun i =>
      Stepwise.callWindow (frames.atIndex i) f exprs (valuesAt values i) := by
  have hselected : Stepwise.rangeArg f exprs = .ok (s, duration) := by
    unfold Stepwise.rangeArg
    rw [hexpr]
  have hmatrix : argument (values.map Shaped.forget) f.matrixArg = .ok x.forget := by
    unfold argument
    rw [List.getElem?_map, hvalue]
    rfl
  have hmatrixAt (i : Fin frames.len) : Stepwise.argument (valuesAt values i) f.matrixArg =
      .ok (x.atFrame i) := by
    unfold Stepwise.argument valuesAt
    rw [List.getElem?_map, List.getElem?_map, hvalue]
    rfl
  unfold callWindow Stepwise.callWindow
  simp only [hselected, hmatrixAt, hmatrix]
  refine (fits_params values f.matrixArg).bind fun scalars => ?_
  have hread : ((List.range frames.len).mapM fun i =>
      (scalars.map Vector.toList).mapM (entry · i) : Run _) =
      .ok (Vector.ofFn fun i => scalars.map (Vector.get · i)).toList := by
    refine mapM_range_eq_ok fun i => ?_
    rw [List.mapM_map]
    exact mapM_eq_ok fun v _ => entry_toList v i
  rw [hread]
  refine (fits_checkParams _).bind fun _ => ?_
  obtain ⟨column, hrange⟩ := x
  subst hx
  have hrows := hrange rows duration s.offset rfl
  have hframes := Columnar.framewise_reduceWindows f hwindow rows
    fun i => scalars.map (Vector.get · i)
  refine Fits.of_rows ?_ hframes
  change ((rows.toList.map fun e => (e.1, Shaped.forgetWindows e.2)).foldlM _
    (Rows.forget (.empty : SeriesQuery.Rows α frames.len))) = _
  unfold SeriesQuery.Rows.collectComputed
  rw [List.foldlM_map, List.foldlM_map]
  exact foldlM_forget (fun e he out => foldlM_windows f duration s.offset
    (fun i => scalars.map (Vector.get · i)) (f.outputMetric e.1) (hrows e he) out) .empty

section Elements

variable [Fact (0 < n)]

omit [SampleValue α] in
/-- The vector of the first argument with other values. -/
theorem fits_mapArg (f : Function) (value : Fin n → α → α) {change : Row α → Run (Row α)}
    (values : List (Shaped α n))
    (h : ∀ row : SeriesQuery.Row α n, change row.toList =
      .ok (Vector.ofFn fun i => (row.get i).map (value i)).toList) :
    FitsColumn
      (do
        let rows ← (← argument (values.map Shaped.forget) 0).rows
        .vector <$> (rowsFor n).mapRows f.outputMetric change rows) fun i =>
      Stepwise.mapArg f (value i) (valuesAt values i) := by
  rw [← bind_assoc]
  refine (fits_vectorArg values 0).bind fun rows => ?_
  refine (RowSink.fits_mapRows _ (fun i x => some (value i x)) rows fun row => ?_).vector
  rw [h]
  simp only [Option.map_eq_bind]
  rfl

theorem fits_callMath (f : Function) (values : List (Shaped α n)) :
    FitsColumn (callMath n f (values.map Shaped.forget)) fun i =>
      Stepwise.callMath f (valuesAt values i) := by
  have hparam : Fits (Option.map Vector.toList) (fun p i => p.map (Vector.get · i))
      ((values.map Shaped.forget)[1]?.mapM Column.scalars) fun i =>
        if 1 < (valuesAt values i).length then some <$> Stepwise.scalarArg (valuesAt values i) 1
        else pure none := by
    have hlength (i : Fin n) : (valuesAt values i).length = values.length := by simp [valuesAt]
    have hscalar := fits_scalarArg values 1
    unfold argument at hscalar
    simp only [hlength]
    rw [List.getElem?_map] at hscalar ⊢
    cases hget : values[1]? with
    | none =>
      have hshort : ¬1 < values.length := Nat.not_lt.2 (List.getElem?_eq_none_iff.1 hget)
      simp only [hshort, if_false]
      exact .ok none fun i => rfl
    | some x =>
      have hlong : 1 < values.length := (List.getElem?_eq_some_iff.1 hget).1
      rw [hget] at hscalar
      simp only [hlong, if_true]
      exact hscalar.map some (fun _ => rfl) fun _ _ => rfl
  unfold callMath Stepwise.callMath
  rw [← bind_assoc]
  refine (fits_vectorArg values 0).bind fun rows => ?_
  let value (i : Fin n) (param : Option α) : Except QueryError (Value α) :=
    Value.mapElements f.outputMetric (fun x => some (f.applyMath x param)) (rows.atFrame i)
  refine Fits.congr_right (hparam.bind (g := value) fun param =>
    (RowSink.fits_mapRows f.outputMetric
      (fun i x => some (f.applyMath x (param.map (Vector.get · i)))) rows
      fun row => ?_).vector) fun i => .of_eq ?_
  · rw [zipIdx_toList, List.mapM_map, Vector.toList_ofFn, List.ofFn_eq_map]
    refine mapM_eq_ok fun i _ => ?_
    rw [Function.comp_apply]
    cases row.get i with
    | none => rfl
    | some v =>
      cases param with
      | none => rfl
      | some values =>
        have hentry : ((some values.toList).mapM (entry · i) : Run (Option α)) =
            .ok (some (values.get i)) := by
          change some <$> entry values.toList i = _
          rw [entry_toList]
          rfl
        change some <$> (((some values.toList).mapM (entry · i) : Run (Option α)) >>= _) = _
        rw [hentry]
        rfl
  · by_cases hlong : 1 < (valuesAt values i).length
    · simp only [hlong, if_true]
      rfl
    · simp only [hlong, if_false]
      rfl

end Elements

theorem map_frames (frames : TimeFrames) (f : Int → γ) :
    frames.toList.map f = (Vector.ofFn fun i : Fin frames.len => f (frames.atIndex i)).toList := by
  unfold TimeFrames.toList
  rw [map_toList]
  simp only [TimeFrames.get_toVector]

theorem fits_callDate (frames : TimeFrames) (f : Function) (values : List (Shaped α frames.len)) :
    FitsColumn (callDate frames f (values.map Shaped.forget)) fun i =>
      if (valuesAt values i).isEmpty then
        pure (Stepwise.single .empty (f.applyDate (Numeric.ofMillis (frames.atIndex i))))
      else Stepwise.mapArg f f.applyDate (valuesAt values i) := by
  cases values with
  | nil =>
    let date (i : Fin frames.len) : α := f.applyDate (Numeric.ofMillis (frames.atIndex i))
    let row : SeriesQuery.Row α frames.len := Vector.ofFn fun i => some (date i)
    have hmerge : FitsRows ((rowsFor frames.len).merge .empty .empty row.toList) fun i =>
        .ok (SortedMap.empty.insert Metric.empty (date i)) := by
      refine (RowSink.fits_merge .empty .empty row).congr_right fun i => .of_eq ?_
      have hget : row.get i = some (date i) := vector_get_ofFn _ i
      rw [SeriesQuery.Rows.addAt_of_some hget, addNew_eq_ok_iff]
      exact ⟨rfl, rfl⟩
    unfold callDate
    simp only [List.map_nil]
    rw [map_frames]
    exact hmerge.vector
  | cons x rest =>
    refine fits_mapArg f (fun _ => f.applyDate) (x :: rest) fun row => ?_
    rw [map_toList]

section Special

variable [Fact (0 < n)]

omit [Fact (0 < n)] [SampleValue α] in
theorem mapM_entry_values (rows : SeriesQuery.Rows α n) (i : Fin n) :
    (Rows.forget rows).values.mapM (entry · i) = .ok (rows.values.map (Vector.get · i)) := by
  rw [Rows.values_forget, List.mapM_map]
  exact mapM_eq_ok fun row _ => entry_toList row i

omit [Fact (0 < n)] [SampleValue α] in
theorem vectorAt_forget (rows : SeriesQuery.Rows α n) (i : Fin n) :
    Column.vectorAt (Rows.forget rows) i = .ok (rows.atFrame i).toList := by
  have hread : ((Rows.forget rows).toList.mapM fun e => do
      return (e.1, ← entry e.2 i) : Run _) = .ok (rows.toList.map fun e => (e.1, e.2.get i)) := by
    rw [Rows.toList_forget, List.mapM_map]
    refine mapM_eq_ok fun e _ => ?_
    rw [Function.comp_apply, entry_toList]
    rfl
  unfold Column.vectorAt
  rw [hread, SeriesQuery.Rows.toList_atFrame]
  change Except.ok (List.filterMap _ (rows.toList.map _)) = _
  rw [List.filterMap_map]
  rfl

theorem fits_scalar (values : List (Shaped α n)) :
    FitsColumn
      (do
        let rows ← (← argument (values.map Shaped.forget) 0).rows
        .scalar <$> (List.range n).mapM fun i => do
          match (← rows.values.mapM (entry · i)).filterMap id with
          | [v] => return v
          | _ => return Numeric.nan) fun i => do
      match (← Stepwise.vectorArg (valuesAt values i) 0).values with
      | [v] => return .scalar v
      | _ => return .scalar Numeric.nan := by
  rw [← bind_assoc]
  refine (fits_vectorArg values 0).bind fun rows => ?_
  let number (i : Fin n) : α :=
    match rows.values.filterMap (Vector.get · i) with
    | [v] => v
    | _ => Numeric.nan
  have hrun : ((List.range n).mapM fun i => do
      match (← (Rows.forget rows).values.mapM (entry · i)).filterMap id with
      | [v] => return v
      | _ => return Numeric.nan : Run (List α)) = .ok (Vector.ofFn number).toList := by
    refine mapM_range_eq_ok fun i => ?_
    rw [mapM_entry_values]
    change (match (rows.values.map (Vector.get · i)).filterMap id with
      | [v] => pure v
      | _ => pure Numeric.nan : Run α) = .ok (number i)
    rw [List.filterMap_map, Function.id_comp]
    unfold number
    generalize rows.values.filterMap (Vector.get · i) = present
    match present with
    | [] | [v] | v :: w :: rest => rfl
  rw [hrun]
  refine Fits.congr_right (Fits.scalar (.ok (Vector.ofFn number) fun i => rfl)) fun i => .of_eq ?_
  rw [vector_get_ofFn]
  change _ = (match (rows.atFrame i).values with
    | [v] => pure (Value.scalar v)
    | _ => pure (Value.scalar Numeric.nan) : Except QueryError (Value α))
  rw [SeriesQuery.Rows.values_atFrame]
  unfold number
  generalize rows.values.filterMap (Vector.get · i) = present
  match present with
  | [] | [v] | v :: w :: rest => rfl

theorem fits_histogramQuantile (values : List (Shaped α n)) :
    FitsColumn
      (do
        let q ← (← argument (values.map Shaped.forget) 0).scalars
        let rows ← (← argument (values.map Shaped.forget) 1).rows
        .vector <$> (rowsFor n).fill q.length fun i => do
          let present ← Column.vectorAt rows i
          return (Histogram.quantile (← entry q i) (.ofList present)).toList) fun i => do
      let q ← Stepwise.scalarArg (valuesAt values i) 0
      let v ← Stepwise.vectorArg (valuesAt values i) 1
      return .vector (Histogram.quantile q v) := by
  rw [← bind_assoc]
  refine (fits_scalarArg values 0).bind fun q => ?_
  rw [← bind_assoc]
  refine (fits_vectorArg values 1).bind fun rows => ?_
  rw [Vector.length_toList]
  have hlen : (rowsFor n).len = n := rfl
  refine Fits.congr_right (RowSink.fits_fill hlen _
    (fun i => .ok (Histogram.quantile (q.get i) (rows.atFrame i)).toList) fun i => ?_).vector
    fun i => .of_eq ?_
  · rw [vectorAt_forget, entry_toList]
    change Except.ok (Histogram.quantile _ (.ofList (rows.atFrame i).toList)).toList = _
    rw [SortedMap.ofList_toList]
    rfl
  · have hcollect : collect (rowsFor n).duplicate
        (Histogram.quantile (q.get i) (rows.atFrame i)).toList =
        .ok (Histogram.quantile (q.get i) (rows.atFrame i)) :=
      collect_eq_ok_iff.2 ⟨SortedMap.nodup_keys _, (SortedMap.ofList_toList _).symm⟩
    change Value.vector <$> collect _ _ = _
    rw [hcollect]
    rfl

theorem fits_absent {exprs : List (Expr α)} {e : Expr α} (hexprs : exprs[0]? = some e)
    (values : List (Shaped α n)) :
    FitsColumn
      (do
        let rows ← (← argument (values.map Shaped.forget) 0).rows
        let row ← (List.range n).mapM fun i => do
          let found ← rows.values.mapM (entry · i)
          return if found.any Option.isSome then none else some (Numeric.one : α)
        if row.any Option.isSome then return single (← entry exprs 0).absentMetric row
        else return .vector .empty) fun i => do
      if (← Stepwise.vectorArg (valuesAt values i) 0).isEmpty then
        return Stepwise.single (← Expr.absentArgument exprs) Numeric.one
      else return .vector .empty := by
  rw [← bind_assoc]
  refine (fits_vectorArg values 0).bind fun rows => ?_
  let row : SeriesQuery.Row α n := Vector.ofFn fun i =>
    if rows.values.any fun row => (row.get i).isSome then none else some Numeric.one
  have hrun : ((List.range n).mapM fun i => do
      let found ← (Rows.forget rows).values.mapM (entry · i)
      return if found.any Option.isSome then none else some (Numeric.one : α) : Run (Row α)) =
        .ok row.toList := by
    refine mapM_range_eq_ok fun i => ?_
    rw [mapM_entry_values]
    change Except.ok (if (rows.values.map (Vector.get · i)).any Option.isSome then _ else _) = _
    rw [List.any_map]
    rfl
  have habsent : Expr.absentArgument exprs = .ok e.absentMetric := by
    cases exprs with
    | nil => cases hexprs
    | cons e' rest =>
      cases hexprs
      rfl
  have hrow : ∀ i, row.get i = if !rows.values.any (fun row => (row.get i).isSome) then
      some Numeric.one else none := by
    intro i
    rw [vector_get_ofFn]
    cases rows.values.any fun row => (row.get i).isSome <;> rfl
  have hsingle := Columnar.framewise_single (Expr.absentArgument exprs) hrow
  simp only [habsent, ← SeriesQuery.Rows.isEmpty_atFrame] at hsingle ⊢
  rw [hrun, entry_eq_ok hexprs]
  change Fits _ _ (if row.toList.any Option.isSome then .ok (single e.absentMetric row.toList)
    else .ok (.vector .empty)) _
  have hany : row.toList.any Option.isSome = row.any Option.isSome := by simp
  rw [hany]
  by_cases hsome : row.any Option.isSome = true
  · rw [if_pos hsome] at hsingle ⊢
    have hsingleRow : single e.absentMetric row.toList =
        Shaped.forget (.vector (SortedMap.empty.insert e.absentMetric row)) :=
      congrArg Column.vector (Rows.forget_insert .empty e.absentMetric row).symm
    rw [hsingleRow]
    exact .ok _ fun i => hsingle i
  · rw [if_neg hsome] at hsingle ⊢
    exact .ok (Shaped.vector .empty) fun i => hsingle i

theorem fits_callSpecial (frames : TimeFrames) {f : Function} (hkind : f.kind = .special)
    (hrelabel : ¬(f = .labelReplace ∨ f = .labelJoin)) {exprs : List (Expr α)}
    (hargs : Expr.ArgsFit f exprs) (values : List (Shaped α frames.len)) :
    FitsColumn (callSpecial frames f exprs (values.map Shaped.forget)) fun i =>
      Stepwise.callSpecial (frames.atIndex i) f exprs (valuesAt values i) := by
  cases f with
  | time =>
    unfold callSpecial
    rw [map_frames]
    refine .ok (Shaped.scalar _) fun i => ?_
    refine congrArg (fun v => Except.ok (Value.scalar v)) ?_
    rw [vector_get_ofFn]
  | vector =>
    unfold callSpecial Stepwise.callSpecial
    rw [← bind_assoc]
    refine (fits_scalarArg values 0).bind fun numbers => ?_
    have hsingle : single .empty (numbers.toList.map some) =
        Shaped.forget (.vector (SortedMap.empty.insert .empty (numbers.map some))) := by
      rw [← Vector.toList_map]
      exact congrArg Column.vector (Rows.forget_insert .empty .empty (numbers.map some)).symm
    rw [hsingle]
    exact .ok _ fun i =>
      congrArg Except.ok (Columnar.atFrame_single _ (vector_get_map ..)).symm
  | scalar => exact fits_scalar values
  | absent =>
    obtain ⟨e, hexprs⟩ : ∃ e, exprs[0]? = some e :=
      ⟨_, List.getElem?_eq_getElem hargs.required⟩
    exact fits_absent hexprs values
  | timestamp =>
    refine fits_mapArg .timestamp (fun i _ => Numeric.ofMillis (frames.atIndex i)) values
      fun row => ?_
    refine (map_pairs_toList (fun e : Option α × Int => e.1.map fun _ => Numeric.ofMillis e.2)
      row frames.toVector).trans ?_
    simp only [TimeFrames.get_toVector]
  | histogramQuantile => exact fits_histogramQuantile values
  | labelReplace => exact absurd (.inl rfl) hrelabel
  | labelJoin => exact absurd (.inr rfl) hrelabel
  | _ => exact absurd hkind (by decide)

end Special

omit [SampleValue α] in
theorem mapM_string {ε : Type} {f : Expr α → Except ε String}
    (h : ∀ text, f (.string text) = .ok text) (texts : List String) :
    (texts.map Expr.string).mapM f = .ok texts := by
  rw [List.mapM_map, mapM_eq_ok_iff, List.forall₂_same]
  exact fun text _ => h text

omit [SampleValue α] in
/-- The texts of a checked call stand where they are looked for. -/
theorem relabeling_eq {f : Function} (hrelabel : f = .labelReplace ∨ f = .labelJoin)
    {exprs : List (Expr α)} (hargs : Expr.ArgsFit f exprs) :
    relabeling f exprs = lift (Expr.relabeling f exprs) := by
  have hrequired := hargs.required
  have hatMost := hargs.atMost
  obtain ⟨e, texts, rfl⟩ := hargs.exists_texts hrelabel
  rw [List.length_cons, List.length_map] at hrequired hatMost
  have hfound : Expr.relabelTexts f (e :: texts.map .string) = .ok texts := by
    unfold Expr.relabelTexts
    rw [List.length_cons, List.length_map, if_neg (Nat.not_lt.2 hrequired)]
    exact mapM_string (fun _ => rfl) texts
  unfold Expr.relabeling
  rw [hfound]
  rcases hrelabel with rfl | rfl
  · have hlength : texts.length = 4 := Nat.succ.inj (Nat.le_antisymm (hatMost rfl) hrequired)
    match texts, hlength with
    | [target, template, source, pattern], _ => rfl
  · match texts, hrequired with
    | target :: separator :: sources, _ =>
      have hsources : slice (e :: (target :: separator :: sources).map .string) 3
          (e :: (target :: separator :: sources).map .string).length =
          .ok (sources.map .string) := by
        unfold slice
        rw [if_pos ⟨by simp, Nat.le_refl _⟩, List.take_length]
        rfl
      unfold relabeling
      rw [if_neg (by decide), hsources]
      change ((sources.map Expr.string).mapM fun e => lift e.text?) >>= _ = _
      rw [mapM_string fun _ => rfl]
      rfl

omit [SampleValue α] in
theorem fits_relabel [Fact (0 < n)] {f : Function} (hrelabel : f = .labelReplace ∨ f = .labelJoin)
    {exprs : List (Expr α)} (hargs : Expr.ArgsFit f exprs) {arg : Run (Column α)}
    {value : Fin n → Except QueryError (Value α)} (harg : FitsColumn arg value)
    (rest : List (Run (Column α))) :
    FitsColumn (relabel n f exprs (arg :: rest)) fun i =>
      Expr.relabeling f exprs >>= fun change => (value i >>= Value.vector?) >>= fun v =>
        Value.mapElements change some v := by
  unfold relabel
  rw [relabeling_eq hrelabel hargs]
  refine (Fits.const (Expr.relabeling f exprs)).bind fun change => ?_
  change FitsColumn (arg >>= fun x => x.rows >>= fun rows =>
    .vector <$> (rowsFor n).mapRows change .ok rows) _
  rw [← bind_assoc]
  refine (harg.bind fun x => fits_rows x).bind fun rows => ?_
  refine (RowSink.fits_mapRows change (fun _ x => some x) rows fun row => ?_).vector
  refine congrArg (fun row : SeriesQuery.Row α n => Except.ok row.toList)
    (Vector.ext fun i hi => ?_)
  rw [Vector.getElem_ofFn, vector_get _ hi]
  exact (Option.bind_fun_some _).symm

theorem fits_callValues {frames : TimeFrames} {f : Function}
    (hrelabel : ¬(f = .labelReplace ∨ f = .labelJoin)) {exprs : List (Expr α)}
    (hargs : Expr.ArgsFit f exprs) {values : List (Shaped α frames.len)}
    (hmatrix : f.kind = .window → ∃ s duration x rows,
      exprs[f.matrixArg]? = some (.range s duration) ∧ values[f.matrixArg]? = some x ∧
        x.column = .matrix rows duration s.offset ∧
        ∀ i : Fin frames.len, ∃ w, Window.of (frames.atIndex i) duration s.offset = .ok w) :
    FitsColumn
      (match f.kind with
      | .window => callWindow frames f (values.map Shaped.forget)
      | .math => callMath frames.len f (values.map Shaped.forget)
      | .date => callDate frames f (values.map Shaped.forget)
      | .special => callSpecial frames f exprs (values.map Shaped.forget)) fun i =>
      Stepwise.call (frames.atIndex i) f exprs (valuesAt values i) := by
  unfold Stepwise.call
  cases hkind : f.kind with
  | window =>
    obtain ⟨s, duration, x, rows, hexpr, hvalue, hx, hwindow⟩ := hmatrix hkind
    exact fits_callWindow hexpr hvalue hx hwindow
  | math => exact fits_callMath f values
  | date => exact fits_callDate frames f values
  | special => exact fits_callSpecial frames hkind hrelabel hargs values

end SeriesQuery.Positional
