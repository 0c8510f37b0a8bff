import SeriesQuery.Proofs.Columns.Calls
import SeriesQuery.Proofs.Fetching
import SeriesQuery.Proofs.NeededAnswers
import SeriesQuery.Proofs.Soundness.Stepwise

/-!
# Evaluation frame by frame

If the columns of the selectors read at each frame as the answers there, then so does the column
of every checked expression.
-/

namespace SeriesQuery.Columnar

variable {α : Type} [SampleValue α]

theorem framewise_relabel {n : Nat} [Fact (0 < n)] {f : Function}
    (hrelabel : f = .labelReplace ∨ f = .labelJoin) (t : Fin n → Int) (exprs : List (Expr α))
    {arg : Traced (Column α n)} {value : Fin n → Except QueryError (Value α)}
    (harg : Framewise Column.atFrame arg.outcome value)
    (rest : Fin n → List (Except QueryError (Value α))) :
    Framewise Column.atFrame (relabel f exprs arg).outcome fun i =>
      Stepwise.call (t i) f exprs (value i :: rest i) := by
  have hcall (i : Fin n) : Stepwise.call (t i) f exprs (value i :: rest i) =
      Expr.relabeling f exprs >>= fun change => (value i >>= Value.vector?) >>= fun v =>
        Value.mapElements change some v := by
    rcases hrelabel with rfl | rfl <;> rfl
  simp only [hcall]
  rw [outcome_relabel]
  refine (Framewise.const (Expr.relabeling f exprs)).bind fun change _ => ?_
  rw [← bind_assoc]
  refine (harg.bind fun x _ => framewise_rowsOf x).bind fun rows _ => ?_
  exact Rows.framewise_mapElements change (fun _ x => some x) rows

theorem framewise_callValues {frames : TimeFrames} {f : Function}
    (hrelabel : ¬(f = .labelReplace ∨ f = .labelJoin)) {exprs : List (Expr α)}
    {values : List (Column α frames.len)}
    (hmatrix : f.kind = .window → ∃ s duration rows,
      exprs[f.matrixArg]? = some (.range s duration) ∧
      values[f.matrixArg]? = some (.matrix rows duration s.offset) ∧
      ∀ i : Fin frames.len, ∃ w, Window.of (frames.atIndex i) duration s.offset = .ok w) :
    Framewise Column.atFrame (callValues frames f exprs values) fun i =>
      Stepwise.call (frames.atIndex i) f exprs (valuesAt values i) := by
  unfold callValues Stepwise.call
  cases hkind : f.kind with
  | window =>
    obtain ⟨s, duration, rows, hexpr, hvalue, hwindow⟩ := hmatrix hkind
    exact framewise_callWindow hexpr hvalue hwindow
  | math => exact framewise_callMath f values
  | date => exact framewise_callDate frames f values
  | special => exact framewise_callSpecial frames hkind hrelabel exprs values

theorem eq_matrix_of_selectWindow {c : Context α} {s : Selector} {duration : Int}
    {x : Column α c.frames.len} (h : selectWindow c s duration = .ok x) :
    ∃ rows, x = .matrix rows duration s.offset := by
  obtain ⟨series, -, h⟩ := bind_eq_ok_iff.1 h
  obtain ⟨rows, -, h⟩ := bind_eq_ok_iff.1 h
  cases h
  exact ⟨_, rfl⟩

theorem fits_of_selectWindow {c : Context α} {s : Selector} {duration : Int}
    {x : Column α c.frames.len} (h : selectWindow c s duration = .ok x) : c.Fits s duration := by
  obtain ⟨series, hfetch, -⟩ := bind_eq_ok_iff.1 h
  exact fits_of_fetch hfetch

/-- The range vector of a checked window function comes from a range selector. -/
theorem exists_range_arg {c : Context α} {f : Function} (hkind : f.kind = .window)
    {args : List (Expr α)} (hargs : Expr.ArgsFit f args) {values : List (Column α c.frames.len)}
    (hvalues : args.mapM (fun a => (eval c a).outcome) = .ok values) :
    ∃ s duration rows, args[f.matrixArg]? = some (.range s duration) ∧
      values[f.matrixArg]? = some (.matrix rows duration s.offset) ∧
      ∀ i : Fin c.frames.len, ∃ w,
        Window.of (c.frames.atIndex i) duration s.offset = .ok w := by
  obtain ⟨s, duration, hget⟩ := hargs.exists_range hkind
  obtain ⟨x, hvalue, hx⟩ := exists_of_forall₂ (mapM_eq_ok_iff.1 hvalues).flip hget
  rw [eval, Traced.outcome_withSpan, Traced.outcome_ofExcept] at hx
  obtain ⟨rows, rfl⟩ := eq_matrix_of_selectWindow hx
  obtain ⟨-, hduration, -⟩ := Expr.check_range_ok (hargs.types hget)
  exact ⟨s, duration, rows, hget, hvalue, fun i =>
    (fits_of_selectWindow hx).exists_window (Int.le_of_lt hduration) i.2⟩

/-- The columns of selectors read at each frame as the answers there. -/
structure ReadAs (c : Context α) (r : Fin c.frames.len → Reading α (Except QueryError))
    (selectors : List (Selector × Option Int)) : Prop where
  latest : ∀ s, (s, none) ∈ selectors → Framewise Column.atFrame (selectLatest c s) fun i =>
    Value.vector <$> (r i).latest s
  windows : ∀ s duration, (s, some duration) ∈ selectors →
    Framewise Column.atFrame (selectWindow c s duration) fun i =>
      Value.matrix <$> (r i).windows s duration
  within : ∀ i {β : Type} (name : String) (x : Except QueryError β), (r i).within name x = x

/-- Selectors are answered at a frame by reading their columns there. -/
def readingAt (c : Context α) (i : Fin c.frames.len) : Reading α (Except QueryError) where
  latest s := do (← selectLatest c s).atFrame i |>.vector?
  windows s duration := do (← selectWindow c s duration).atFrame i |>.matrix?
  within _ x := x

theorem eq_vector_of_selectLatest {c : Context α} {s : Selector} {x : Column α c.frames.len}
    (h : selectLatest c s = .ok x) : ∃ rows, x = .vector rows := by
  obtain ⟨series, -, h⟩ := bind_eq_ok_iff.1 h
  obtain ⟨rows, -, h⟩ := bind_eq_ok_iff.1 h
  cases h
  exact ⟨_, rfl⟩

theorem readAs_columns (c : Context α) (selectors : List (Selector × Option Int)) :
    ReadAs c (readingAt c) selectors where
  latest s _ := by
    have hread (i : Fin c.frames.len) : (readingAt c i).latest s =
        selectLatest c s >>= fun x => (x.atFrame i).vector? := rfl
    simp only [hread]
    cases hcolumn : selectLatest c s with
    | error err => exact .error fun i => ⟨err, rfl⟩
    | ok x =>
      obtain ⟨rows, rfl⟩ := eq_vector_of_selectLatest hcolumn
      exact fun i => rfl
  windows s duration _ := by
    have hread (i : Fin c.frames.len) : (readingAt c i).windows s duration =
        selectWindow c s duration >>= fun x => (x.atFrame i).matrix? := rfl
    simp only [hread]
    cases hcolumn : selectWindow c s duration with
    | error err => exact .error fun i => ⟨err, rfl⟩
    | ok x =>
      obtain ⟨rows, rfl⟩ := eq_matrix_of_selectWindow hcolumn
      exact fun i => rfl
  within _ _ _ _ := rfl

variable {c : Context α} {r : Fin c.frames.len → Reading α (Except QueryError)}

theorem ReadAs.subset {selectors selectors' : List (Selector × Option Int)}
    (h : ReadAs c r selectors) (hsub : selectors' ⊆ selectors) : ReadAs c r selectors' :=
  ⟨fun s hs => h.latest s (hsub hs), fun s d hs => h.windows s d (hsub hs), h.within⟩

theorem framewise_call {f : Function} {args : List (Expr α)} (hargs : Expr.ArgsFit f args)
    (h : ∀ a ∈ args, Framewise Column.atFrame (eval c a).outcome fun i =>
      Stepwise.eval (r i) c.hash (c.frames.atIndex i) a) :
    Framewise Column.atFrame (call c.frames f args (evalArgs c args)).outcome fun i =>
      Stepwise.call (c.frames.atIndex i) f args
        (Stepwise.evalArgs (r i) c.hash (c.frames.atIndex i) args) := by
  by_cases hrelabel : f = .labelReplace ∨ f = .labelJoin
  · cases args with
    | nil =>
      have hrequired := (Function.relabel_signature hrelabel).1
      have hnone : f.signature.required ≤ 0 := hargs.required
      omega
    | cons a rest =>
      unfold call
      rw [if_pos hrelabel]
      exact framewise_relabel hrelabel _ _ (h a (.head _)) _
  · rw [outcome_call c.frames hrelabel, evalArgs_eq_map, List.mapM_map]
    let callFound (i : Fin c.frames.len) (found : List (Value α)) : Except QueryError (Value α) :=
      Stepwise.call (c.frames.atIndex i) f args (found.map Except.ok)
    have hvalues := (Framewise.mapM h).bind (g := callFound) fun values hok =>
      framewise_callValues hrelabel fun hkind => exists_range_arg hkind hargs hok
    refine hvalues.congr_right fun i => ?_
    rw [Stepwise.evalArgs_eq_map]
    refine SameResult.trans (.of_eq ?_) (Stepwise.call_found _ hrelabel fun hvariadic => ?_)
    · rw [List.mapM_map]
      rfl
    · rw [List.length_map]
      exact hargs.atMost hvariadic

/-- The column of a checked expression reads at each frame as the value of the expression there. -/
theorem framewise_eval {e : Expr α} {t : ValueType} (hr : ReadAs c r e.selectors)
    (h : e.check = .ok t) :
    Framewise Column.atFrame (eval c e).outcome fun i =>
      Stepwise.eval (r i) c.hash (c.frames.atIndex i) e := by
  induction e generalizing t with
  | number v =>
    intro i
    refine congrArg (fun v => Except.ok (Value.scalar v)) ?_
    rw [vector_get _ i.2]
    simp
  | string text => exact fun i => rfl
  | selector s =>
    simp only [eval, Stepwise.eval, hr.within]
    exact hr.latest s (by simp [Expr.selectors])
  | range s duration =>
    simp only [eval, Stepwise.eval, hr.within]
    exact hr.windows s duration (by simp [Expr.selectors])
  | negate e ih =>
    simp only [eval, Stepwise.eval, hr.within, Traced.outcome_withSpan, Traced.outcome_bind]
    exact (ih hr (Expr.check_negate_ok h).1).bind fun x _ => framewise_negate x
  | binary op left right matching toBool ihl ihr =>
    rw [Expr.selectors] at hr
    obtain ⟨lt, rt, hl, hr', -⟩ := Expr.check_binary_ok h
    simp only [eval, Stepwise.eval, hr.within, Traced.outcome_withSpan, Traced.outcome_bind]
    refine (ihl (hr.subset (List.subset_append_left _ _)) hl).bind fun x _ => ?_
    refine (ihr (hr.subset (List.subset_append_right _ _)) hr').bind fun y _ => ?_
    exact framewise_binary c.hash op matching toBool x y
  | aggregate op e param grouping ih ihp =>
    rw [Expr.selectors] at hr
    obtain ⟨he, hparam, -⟩ := Expr.check_aggregate_ok h
    have hp : Framewise (fun p i => p.map (Column.atFrame · i)) (evalParam c param).outcome
        fun i => Stepwise.evalParam (r i) c.hash (c.frames.atIndex i) param := by
      cases param with
      | none => exact fun i => rfl
      | some p =>
        obtain ⟨expected, -, hp⟩ := hparam
        have hsub : p.selectors ⊆ Expr.selectorsParam (some p) ++ e.selectors :=
          fun q hq => List.mem_append_left _ (Expr.mem_selectorsParam rfl hq)
        simp only [evalParam, Stepwise.evalParam, Traced.outcome_map]
        exact (ihp p rfl (hr.subset hsub) hp).map fun x i => rfl
    simp only [eval, Stepwise.eval, hr.within, Traced.outcome_withSpan, Traced.outcome_bind]
    refine hp.bind fun p _ => ?_
    refine (ih (hr.subset (List.subset_append_right _ _)) he).bind fun x _ => ?_
    exact framewise_aggregate c.hash op grouping p x
  | call f args ih =>
    rw [Expr.selectors] at hr
    obtain ⟨hargs, -⟩ := Expr.check_call_ok h
    simp only [eval, Stepwise.eval, hr.within, Traced.outcome_withSpan]
    refine framewise_call hargs fun a ha => ?_
    obtain ⟨k, hk⟩ := List.mem_iff_getElem?.1 ha
    exact ih a ha (hr.subset fun q hq => Expr.mem_selectorsArgs ha hq) (hargs.types hk)

end SeriesQuery.Columnar
