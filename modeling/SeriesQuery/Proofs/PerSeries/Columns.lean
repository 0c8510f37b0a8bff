import SeriesQuery.Proofs.Columns.Evaluation
import SeriesQuery.Proofs.PerSeries.Nodes
import SeriesQuery.Proofs.Samples.Columns

/-!
# Series kept apart in columns

The column of a node is collected from one row for each series of its operand. Rows that get the
same labels are merged if they are never present together, so at each frame there is what the node
combines there.
-/

namespace SeriesQuery

variable {α : Type}

theorem forall₂_insertIdx {β γ : Type} {R : β → γ → Prop} {l : List β} {l' : List γ} {b : β}
    {c : γ} (h : List.Forall₂ R l l') (hbc : R b c) (k : Nat) :
    List.Forall₂ R (l.insertIdx k b) (l'.insertIdx k c) := by
  induction k generalizing l l' with
  | zero => exact .cons hbc h
  | succ k ih =>
    cases h with
    | nil => exact .nil
    | cons hhead hrest =>
      rw [List.insertIdx_succ_cons, List.insertIdx_succ_cons]
      exact .cons hhead (ih hrest)

namespace Columnar

section Combines

variable [SampleValue α] {n : Nat}

/-- A column that reads at each frame as what a node combines there, or fails as it does at one of
the frames. -/
structure Combines (node : SeriesNode α) (label : Metric → Metric) (times : Fin n → Int)
    (numbers : Fin n → List α) (operand : Column α n) (x : Except QueryError (Column α n)) :
    Prop where
  framewise : Framewise Column.atFrame x fun i =>
    node.combine label (times i) (numbers i) (operand.atFrame i)
  error : ∀ e, x = .error e → ∃ i,
    node.combine label (times i) (numbers i) (operand.atFrame i) = .error e

variable {node : SeriesNode α} {label : Metric → Metric} {times : Fin n → Int}
  {numbers : Fin n → List α}

theorem combines_mapElements {rows : Rows α n} {value : Fin n → α → Option α}
    (h : ∀ i x, node.yield? (times i) (numbers i) (.value x) = .ok (value i x)) :
    Combines node label times numbers (.vector rows)
      (.vector <$> rows.mapElements label value) := by
  have hcombine (i : Fin n) : node.combine label (times i) (numbers i)
      ((Column.vector rows).atFrame i) = Value.mapElements label (value i) (rows.atFrame i) :=
    SeriesNode.combine_vector (h i) _
  constructor
  · simp only [hcombine]
    exact Rows.framewise_mapElements label value rows
  · intro e he
    obtain ⟨i, hi⟩ := Rows.mapElements_error (map_eq_error_iff.1 he)
    exact ⟨i, (hcombine i).trans hi⟩

end Combines

theorem mapM_scalarsOf {n : Nat} (columns : List (Vector α n)) :
    (columns.map Column.scalar).mapM scalarsOf = .ok columns := by
  rw [mapM_eq_ok_iff, List.forall₂_map_left_iff]
  exact List.forall₂_same.2 fun _ _ => rfl

variable [SampleValue α]

theorem callWindow_eq_collectComputed {frames : TimeFrames} {f : Function}
    {columns : List (Vector α frames.len)} (hposition : f.matrixArg ≤ columns.length)
    (haccepts : ∀ i, f.checkParams (columns.map (·.get i)) = .ok ())
    (rows : SeriesMap (WindowRow α frames.len)) (duration offset : Int) :
    callWindow frames f ((columns.map Column.scalar).insertIdx f.matrixArg
        (.matrix rows duration offset)) =
      .vector <$> Rows.collectComputed (rows.toList.map fun e =>
        (f.outputMetric e.1, fun i => Except.mapError .overflow do
          let w ← Window.of (frames.atIndex i) duration offset
          f.reduceWindow (e.2.window i) w (columns.map (·.get i)))) := by
  have hplace : f.matrixArg ≤ (columns.map (Column.scalar : _ → Column α frames.len)).length := by
    rw [List.length_map]
    exact hposition
  have hmatrix : argument ((columns.map Column.scalar).insertIdx f.matrixArg
      (.matrix rows duration offset)) f.matrixArg = .ok (.matrix rows duration offset) := by
    unfold argument
    rw [List.getElem?_insertIdx_self, if_pos hplace]
  have hcheck : ((List.finRange frames.len).forM fun i =>
      (f.checkParams (columns.map (·.get i))).mapError QueryError.invalidArgument) = .ok () := by
    refine forM_eq_ok fun i => ?_
    rw [haccepts i]
    rfl
  unfold callWindow
  rw [List.eraseIdx_insertIdx_self, mapM_scalarsOf]
  simp only [hmatrix]
  change ((List.finRange frames.len).forM fun i =>
    (f.checkParams (columns.map (·.get i))).mapError QueryError.invalidArgument) >>= _ = _
  rw [hcheck]
  rfl

def HasWindows (frames : TimeFrames) (duration offset : Int)
    (rows : SeriesMap (WindowRow α frames.len)) : Prop :=
  ∀ e ∈ rows.toList, ∀ i : Fin frames.len, ∃ w,
    Window.of (frames.atIndex i) duration offset = .ok w

theorem hasWindows_of_selectWindow {c : Context α} {s : Selector} {duration range offset : Int}
    {rows : SeriesMap (WindowRow α c.frames.len)}
    (h : selectWindow c s duration = .ok (.matrix rows range offset)) :
    HasWindows c.frames duration s.offset rows := by
  intro e he i
  obtain ⟨samples, hrow⟩ := exists_windowRow_of_selectWindow h he
  exact exists_window_of_windowRow hrow i

/-- A window without samples is reduced to nothing, as if its series were not there. -/
theorem HasWindows.reduce_empty {frames : TimeFrames} {duration offset : Int}
    {rows : SeriesMap (WindowRow α frames.len)} (h : HasWindows frames duration offset rows)
    {e : Metric × WindowRow α frames.len} (he : e ∈ rows.toList) {i : Fin frames.len}
    (hempty : e.2.isEmptyAt i = true) (f : Function) (params : List α) :
    (Except.mapError QueryError.overflow do
      let w ← Window.of (frames.atIndex i) duration offset
      f.reduceWindow (e.2.window i) w params) = .ok none := by
  obtain ⟨w, hw⟩ := h e he i
  rw [hw, WindowRow.window_eq_nil hempty]
  rfl

theorem combine_windows {frames : TimeFrames} {f : Function} {hkind : f.kind = .window}
    {scalars : List (Expr α)} {hposition : f.matrixArg ≤ scalars.length} {s : Selector}
    {duration : Int} {rows : SeriesMap (WindowRow α frames.len)}
    (hwindows : HasWindows frames duration s.offset rows) (label : Metric → Metric)
    (i : Fin frames.len) (numbers : List α) :
    (SeriesNode.window f hkind scalars hposition s duration).combine label (frames.atIndex i)
        numbers ((Column.matrix rows duration s.offset).atFrame i) =
      Value.vector <$> SeriesQuery.collectComputed .duplicateSeries (rows.toList.map fun e =>
        (label e.1, Except.mapError QueryError.overflow do
          let w ← Window.of (frames.atIndex i) duration s.offset
          f.reduceWindow (e.2.window i) w numbers)) := by
  change SeriesNode.combine _ _ _ _ (.matrix (rows.filterMap _)) = _
  unfold SeriesNode.combine Value.observations SortedMap.filterMap
  dsimp only
  rw [List.map_map]
  refine congrArg (Value.vector <$> ·) (collectComputed_filterMap ?_ ?_)
  · intro e _ shown he
    obtain ⟨samples, hsamples, rfl⟩ := Option.map_eq_some_iff.1 he
    split at hsamples
    · cases hsamples
    · obtain rfl := Option.some.inj hsamples
      rfl
  · intro e hmem he
    rw [Option.map_eq_none_iff] at he
    split at he
    · next hempty => exact hwindows.reduce_empty hmem hempty f _
    · cases he

theorem combines_callWindow {frames : TimeFrames} {f : Function} (hkind : f.kind = .window)
    {scalars : List (Expr α)} (hposition : f.matrixArg ≤ scalars.length) {s : Selector}
    {duration : Int} {columns : List (Vector α frames.len)}
    (hlength : scalars.length = columns.length) {rows : SeriesMap (WindowRow α frames.len)}
    (hwindows : HasWindows frames duration s.offset rows)
    (haccepts : ∀ i, f.checkParams (columns.map (·.get i)) = .ok ()) :
    Combines (.window f hkind scalars hposition s duration) f.outputMetric
      (fun i => frames.atIndex i) (fun i => columns.map (·.get i))
      (.matrix rows duration s.offset)
      (callWindow frames f ((columns.map Column.scalar).insertIdx f.matrixArg
        (.matrix rows duration s.offset))) := by
  rw [callWindow_eq_collectComputed (hlength ▸ hposition) haccepts]
  constructor
  · simp only [combine_windows hwindows]
    refine Framewise.map ((Rows.framewise_collectComputed _).congr_right fun i => .of_eq ?_)
      fun _ _ => rfl
    rw [List.map_map]
    rfl
  · intro e he
    obtain ⟨i, hi⟩ := Rows.collectComputed_error (map_eq_error_iff.1 he)
    rw [List.map_map] at hi
    exact ⟨i, (combine_windows hwindows _ i _).trans (map_eq_error_iff.2 hi)⟩

variable {c : Context α}

theorem outcome_eval_call {f : Function} (hrelabel : ¬(f = .labelReplace ∨ f = .labelJoin))
    {args : List (Expr α)} {values : List (Column α c.frames.len)}
    (h : List.Forall₂ (fun e x => (eval c e).outcome = .ok x) args values) :
    (eval c (.call f args)).outcome = callValues c.frames f args values := by
  have hargs : (args.map (eval c)).mapM (·.outcome) = .ok values := by
    rw [List.mapM_map]
    exact mapM_eq_ok_iff.2 h
  rw [eval, Traced.outcome_withSpan, outcome_call c.frames hrelabel, evalArgs_eq_map, hargs]
  rfl

theorem outcome_eval_relabel {f : Function} (hrelabel : f = .labelReplace ∨ f = .labelJoin)
    {e : Expr α} {texts : List (Expr α)} {label : Metric → Metric}
    (hlabel : Expr.relabeling f (e :: texts) = .ok label) {rows : Rows α c.frames.len}
    (h : (eval c e).outcome = .ok (.vector rows)) :
    (eval c (.call f (e :: texts))).outcome =
      .vector <$> rows.mapElements label fun _ x => some x := by
  rw [eval, Traced.outcome_withSpan]
  unfold call
  rw [if_pos hrelabel, outcome_relabel, hlabel, evalArgs_eq_map]
  change (eval c e).outcome >>= _ = _
  rw [h]
  rfl

theorem outcome_eval_withScalar (op : BinaryOp) (matching : VectorMatching)
    (toBool scalarOnLeft : Bool) {scalar e : Expr α} {v : Vector α c.frames.len}
    (hscalar : (eval c scalar).outcome = .ok (.scalar v)) {rows : Rows α c.frames.len}
    (h : (eval c e).outcome = .ok (.vector rows)) :
    (eval c (SeriesNode.withScalar op matching toBool scalarOnLeft scalar e).expr).outcome =
      .vector <$> rows.mapElements (op.outputMetric toBool) fun i x =>
        op.combineScalar toBool scalarOnLeft x (v.get i) := by
  cases scalarOnLeft with
  | true =>
    change (eval c (.binary op scalar e matching toBool)).outcome = _
    simp only [eval, Traced.outcome_withSpan, Traced.outcome_bind, hscalar, h]
    rfl
  | false =>
    change (eval c (.binary op e scalar matching toBool)).outcome = _
    simp only [eval, Traced.outcome_withSpan, Traced.outcome_bind, hscalar, h]
    rfl

omit [SampleValue α] in
theorem relabels_iff_false {f : Function} (h : f.kind ≠ .special) :
    ¬(f = .labelReplace ∨ f = .labelJoin) := by
  rintro (rfl | rfl) <;> exact h rfl

theorem combines_eval_window {f : Function} (hkind : f.kind = .window)
    {scalars : List (Expr α)} (hposition : f.matrixArg ≤ scalars.length) {s : Selector}
    {duration : Int} {rows : SeriesMap (WindowRow α c.frames.len)}
    (h : (eval c (.range s duration)).outcome = .ok (.matrix rows duration s.offset))
    {columns : List (Vector α c.frames.len)}
    (hscalars : List.Forall₂ (fun e v => (eval c e).outcome = .ok (.scalar v)) scalars columns)
    (haccepts : ∀ i, f.checkParams (columns.map (·.get i)) = .ok ()) :
    Combines (.window f hkind scalars hposition s duration) f.outputMetric
      (fun i => c.frames.atIndex i) (fun i => columns.map (·.get i))
      (.matrix rows duration s.offset)
      (eval c (.call f (scalars.insertIdx f.matrixArg (.range s duration)))).outcome := by
  have hvalues : List.Forall₂ (fun e x => (eval c e).outcome = .ok x) scalars
      (columns.map .scalar) := List.forall₂_map_right_iff.2 hscalars
  have hargs := forall₂_insertIdx hvalues h f.matrixArg
  rw [outcome_eval_call (relabels_iff_false (by simp [hkind])) hargs]
  unfold callValues
  rw [hkind]
  rw [eval, Traced.outcome_withSpan, Traced.outcome_ofExcept] at h
  exact combines_callWindow hkind hposition hscalars.length_eq (hasWindows_of_selectWindow h)
    haccepts

theorem combines_eval_math {f : Function} (hkind : f.kind = .math) {param : Option (Expr α)}
    {e : Expr α} {rows : Rows α c.frames.len} (h : (eval c e).outcome = .ok (.vector rows))
    {columns : List (Vector α c.frames.len)}
    (hscalars : List.Forall₂ (fun e v => (eval c e).outcome = .ok (.scalar v)) param.toList
      columns) :
    Combines (.math f hkind param e) f.outputMetric (fun i => c.frames.atIndex i)
      (fun i => columns.map (·.get i)) (.vector rows)
      (eval c (.call f (e :: param.toList))).outcome := by
  have hvalues : List.Forall₂ (fun e x => (eval c e).outcome = .ok x) param.toList
      (columns.map .scalar) := List.forall₂_map_right_iff.2 hscalars
  rw [outcome_eval_call (relabels_iff_false (by simp [hkind])) (.cons h hvalues)]
  unfold callValues
  rw [hkind]
  cases param with
  | none =>
    cases hscalars
    exact combines_mapElements fun i x => rfl
  | some p =>
    obtain ⟨v, _, -, hnil, rfl⟩ := List.forall₂_cons_left_iff.1 hscalars
    cases hnil
    exact combines_mapElements fun i x => rfl

theorem combines_eval_date {f : Function} (hkind : f.kind = .date) {e : Expr α}
    {rows : Rows α c.frames.len} (h : (eval c e).outcome = .ok (.vector rows))
    (numbers : Fin c.frames.len → List α) :
    Combines (.date f hkind e) f.outputMetric (fun i => c.frames.atIndex i) numbers (.vector rows)
      (eval c (.call f [e])).outcome := by
  rw [outcome_eval_call (relabels_iff_false (by simp [hkind])) (.cons h .nil)]
  unfold callValues
  rw [hkind]
  exact combines_mapElements fun i x => rfl

theorem combines_eval {node : SeriesNode α} {label : Metric → Metric}
    (hlabel : node.labelling = .ok label) {operand : Column α c.frames.len}
    (hoperand : (eval c node.operand).outcome = .ok operand)
    (htype : operand.valueType = node.operandType) {columns : List (Vector α c.frames.len)}
    (hscalars : List.Forall₂ (fun e v => (eval c e).outcome = .ok (.scalar v)) node.scalars columns)
    (haccepts : ∀ i, node.Accepts (columns.map (·.get i))) :
    Combines node label (fun i => c.frames.atIndex i) (fun i => columns.map (·.get i)) operand
      (eval c node.expr).outcome := by
  cases node with
  | negate e =>
    obtain ⟨rows, rfl⟩ := eq_vector_of_valueType htype
    cases hlabel
    have heval : (eval c (.negate e)).outcome = negate (.vector rows) := by
      rw [eval, Traced.outcome_withSpan, Traced.outcome_bind]
      exact congrArg (Except.bind · negate) hoperand
    rw [SeriesNode.expr, heval]
    exact combines_mapElements fun i x => rfl
  | withScalar op matching toBool scalarOnLeft scalar e =>
    obtain ⟨rows, rfl⟩ := eq_vector_of_valueType htype
    cases hlabel
    obtain ⟨v, _, hscalar, hnil, rfl⟩ := List.forall₂_cons_left_iff.1 hscalars
    cases hnil
    have hvector : (eval c e).outcome = .ok (.vector rows) := hoperand
    rw [outcome_eval_withScalar op matching toBool scalarOnLeft hscalar hvector]
    exact combines_mapElements fun i x => rfl
  | window f hkind scalars hposition s duration =>
    obtain ⟨rows, rfl⟩ : ∃ rows, operand = .matrix rows duration s.offset :=
      eq_matrix_of_selectWindow hoperand
    cases hlabel
    exact combines_eval_window hkind hposition hoperand hscalars haccepts
  | math f hkind param e =>
    obtain ⟨rows, rfl⟩ := eq_vector_of_valueType htype
    cases hlabel
    exact combines_eval_math hkind hoperand hscalars
  | date f hkind e =>
    obtain ⟨rows, rfl⟩ := eq_vector_of_valueType htype
    cases hlabel
    exact combines_eval_date hkind hoperand _
  | timestamp e =>
    obtain ⟨rows, rfl⟩ := eq_vector_of_valueType htype
    cases hlabel
    have heval : (eval c (.call .timestamp [e])).outcome =
        callValues c.frames .timestamp [e] [.vector rows] :=
      outcome_eval_call (by decide) (.cons hoperand .nil)
    rw [SeriesNode.expr, heval]
    exact combines_mapElements fun i x => rfl
  | relabel f hf texts e =>
    obtain ⟨rows, rfl⟩ := eq_vector_of_valueType htype
    have heval : (eval c (.call f (e :: texts))).outcome =
        .vector <$> rows.mapElements label fun _ x => some x :=
      outcome_eval_relabel hf hlabel hoperand
    rw [SeriesNode.expr, heval]
    exact combines_mapElements fun i x => rfl

end Columnar

end SeriesQuery
