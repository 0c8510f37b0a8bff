import SeriesQuery.Evaluation.Columnar
import SeriesQuery.Proofs.Soundness.Settles
import SeriesQuery.Proofs.Soundness.Windows

/-!
# Types of columns

If the selectors of a checked expression are answered, then its column has the type that was
found, or the evaluation fails with an error that depends on the data.
-/

namespace SeriesQuery.Columnar

variable {α : Type} {n : Nat}

theorem eq_vector_of_valueType {x : Column α n} (h : x.valueType = .vector) :
    ∃ rows, x = .vector rows := by
  cases x with
  | vector rows => exact ⟨rows, rfl⟩
  | _ => cases h

theorem eq_scalar_of_valueType {x : Column α n} (h : x.valueType = .scalar) :
    ∃ values, x = .scalar values := by
  cases x with
  | scalar values => exact ⟨values, rfl⟩
  | _ => cases h

theorem settles_rowsOf {x : Column α n} (h : x.valueType = .vector) :
    Settles (fun _ => True) (rowsOf x) := by
  obtain ⟨rows, rfl⟩ := eq_vector_of_valueType h
  trivial

theorem settles_scalarsOf {x : Column α n} (h : x.valueType = .scalar) :
    Settles (fun _ => True) (scalarsOf x) := by
  obtain ⟨values, rfl⟩ := eq_scalar_of_valueType h
  trivial

theorem settles_add (rows : Rows α n) (m : Metric) (row : Row α n) :
    Settles (fun _ => True) (rows.add m row) := by
  unfold Rows.add
  cases rows.get? m with
  | none => trivial
  | some old =>
    by_cases h : Row.overlaps old row = true
    · simp only [h, if_true]
      rfl
    · simp only [h]
      trivial

theorem settles_collectRows (rows : List (Metric × Row α n)) :
    Settles (fun _ => True) (Rows.collect rows) :=
  Settles.foldlM (fun out e _ => settles_add out e.1 e.2) _

theorem settles_collectComputedRows
    {rows : List (Metric × (Fin n → Except QueryError (Option α)))}
    (hvalue : ∀ e ∈ rows, ∀ i, ∃ v, e.2 i = .ok v) :
    Settles (fun _ => True) (Rows.collectComputed rows) := by
  refine Settles.foldlM (fun out e he => Settles.foldlM (fun out i _ => ?_) out) _
  obtain ⟨v, hv⟩ := hvalue e he i
  rw [hv]
  cases v with
  | none => trivial
  | some v =>
    change Settles _ (out.put e.1 i v)
    unfold Rows.put
    dsimp only
    split
    · rfl
    · trivial

theorem settles_mapElements (metric : Metric → Metric) (value : Fin n → α → Option α)
    (rows : Rows α n) :
    Settles (fun y : Column α n => y.valueType = .vector)
      (.vector <$> rows.mapElements metric value) :=
  (settles_collectRows _).map fun _ _ => rfl

theorem settles_stepwise {step : Fin n → Except QueryError (SeriesMap α)}
    (h : ∀ i, Settles (fun _ => True) (step i)) :
    Settles (fun y : Column α n => y.valueType = .vector) (stepwise step) := by
  unfold stepwise
  exact (Settles.ofFnM h).bind fun steps _ => rfl

theorem settles_paramAt? {param : Option (Column α n)}
    (h : ∀ x ∈ param, x.valueType = .scalar ∨ x.valueType = .string) :
    Settles (fun _ => True) (paramAt? param) := by
  cases param with
  | none => trivial
  | some x =>
    have hx := h x rfl
    cases x with
    | scalar values => trivial
    | string text => exact (Settles.mapError_invalidArgument _).bind fun _ _ => trivial
    | vector rows => rcases hx with hx | hx <;> cases hx
    | matrix rows range offset => rcases hx with hx | hx <;> cases hx

variable [SampleValue α]

theorem settles_negate {x : Column α n} {t : ValueType} (h : x.valueType = t)
    (ht : t = .scalar ∨ t = .vector) :
    Settles (fun y : Column α n => y.valueType = t) (negate x) := by
  cases x with
  | scalar values => exact h
  | vector rows =>
    cases h
    exact settles_mapElements Metric.withoutName (fun _ v => some (-v)) rows
  | string text =>
    cases h
    rcases ht with ht | ht <;> cases ht
  | matrix rows range offset =>
    cases h
    rcases ht with ht | ht <;> cases ht

theorem settles_binary (hash : LabelHash) (op : BinaryOp) (matching : VectorMatching)
    (toBool : Bool) {x y : Column α n} (hx : x.valueType = .scalar ∨ x.valueType = .vector)
    (hy : y.valueType = .scalar ∨ y.valueType = .vector) :
    Settles (fun z : Column α n => z.valueType =
      if x.valueType = .scalar ∧ y.valueType = .scalar then .scalar else .vector)
      (binary hash op matching toBool x y) := by
  cases x with
  | scalar l =>
    cases y with
    | scalar r => rfl
    | vector r =>
      exact (settles_mapElements (op.outputMetric toBool)
        (fun i v => op.combineScalar toBool true v (l.get i)) r).mono fun _ hz => hz
    | _ => rcases hy with hy | hy <;> cases hy
  | vector l =>
    cases y with
    | scalar r =>
      exact (settles_mapElements (op.outputMetric toBool)
        (fun i v => op.combineScalar toBool false v (r.get i)) l).mono fun _ hz => hz
    | vector r =>
      exact (settles_stepwise fun i => settles_combineVectors op matching toBool _ _).mono
        fun _ hz => hz
    | _ => rcases hy with hy | hy <;> cases hy
  | _ => rcases hx with hx | hx <;> cases hx

theorem settles_aggregate (hash : LabelHash) (op : AggregateOp) (grouping : Grouping)
    {param : Option (Column α n)}
    (hparam : ∀ x ∈ param, x.valueType = .scalar ∨ x.valueType = .string) {operand : Column α n}
    (h : operand.valueType = .vector) :
    Settles (fun y : Column α n => y.valueType = .vector)
      (aggregate hash op grouping param operand) := by
  refine (settles_rowsOf h).bind fun rows _ => ?_
  refine (settles_paramAt? hparam).bind fun p _ => ?_
  exact settles_stepwise fun i => settles_collect (fun _ => rfl) _

structure ColumnsFit (f : Function) (values : List (Column α n)) : Prop where
  required : f.signature.required ≤ values.length
  atMost : f.signature.variadic = false → values.length ≤ f.signature.args.length
  types : ∀ {k : Nat} {x : Column α n}, values[k]? = some x →
    x.valueType = f.signature.argType k

variable {f : Function}

omit [SampleValue α] in
theorem ColumnsFit.argument {values : List (Column α n)} (h : ColumnsFit f values) {k : Nat}
    (hk : k < values.length) {t : ValueType} (ht : f.signature.argType k = t) :
    ∃ x, argument values k = .ok x ∧ values[k]? = some x ∧ x.valueType = t := by
  have hget : values[k]? = some values[k] := List.getElem?_eq_getElem hk
  refine ⟨values[k], ?_, hget, ht ▸ h.types hget⟩
  unfold Columnar.argument
  rw [hget]

omit [SampleValue α] in
theorem ColumnsFit.scalar {values : List (Column α n)} (h : ColumnsFit f values) {k : Nat}
    (hk : k < values.length) (ht : f.signature.argType k = .scalar) :
    ∃ numbers, Columnar.argument values k = .ok (.scalar numbers) := by
  obtain ⟨x, hx, -, htype⟩ := h.argument hk ht
  obtain ⟨numbers, rfl⟩ := eq_scalar_of_valueType htype
  exact ⟨numbers, hx⟩

omit [SampleValue α] in
theorem ColumnsFit.vector {values : List (Column α n)} (h : ColumnsFit f values) {k : Nat}
    (hk : k < values.length) (ht : f.signature.argType k = .vector) :
    ∃ rows, Columnar.argument values k = .ok (.vector rows) := by
  obtain ⟨x, hx, -, htype⟩ := h.argument hk ht
  obtain ⟨rows, rfl⟩ := eq_vector_of_valueType htype
  exact ⟨rows, hx⟩

/-- A range vector of which all samples lie in the window of their frame. -/
def Windowed (frames : TimeFrames) (range offset : Int) (x : Column α frames.len) : Prop :=
  ∃ rows, x = .matrix rows range offset ∧
    ∀ i : Fin frames.len, ∃ w, Window.of (frames.atIndex i) range offset = .ok w ∧
      ∀ e ∈ rows.toList, w.Covers (e.2.window i)

/-- A range vector that a window function can be called with. -/
def Reducible (frames : TimeFrames) (f : Function) (x : Column α frames.len) : Prop :=
  ∃ range offset, f.DifferencesFit range offset ∧ Windowed frames range offset x

theorem settles_callWindow (frames : TimeFrames) {values : List (Column α frames.len)}
    (hkind : f.kind = .window) (h : ColumnsFit f values)
    (hmatrix : ∀ x, values[f.matrixArg]? = some x → Reducible frames f x) :
    Settles (fun y : Column α frames.len => y.valueType = .vector)
      (callWindow frames f values) := by
  obtain ⟨hrequired, hvariadic, -, htype, hscalar⟩ := Function.window_signature hkind
  have hnumbers : ∀ x ∈ values.eraseIdx f.matrixArg, Settles (fun _ => True) (scalarsOf x) := by
    intro x hx
    obtain ⟨k, hne, hget⟩ := List.mem_eraseIdx_iff_getElem?.1 hx
    have hlt : k < values.length := (List.getElem?_eq_some_iff.1 hget).1
    have hcount : k < f.signature.args.length := Nat.lt_of_lt_of_le hlt (h.atMost hvariadic)
    apply settles_scalarsOf
    exact hscalar k hcount hne ▸ h.types hget
  have hlen : f.matrixArg < values.length := Nat.lt_of_lt_of_le hrequired h.required
  obtain ⟨x, hx, hget, -⟩ := h.argument hlen htype
  obtain ⟨range, offset, hfit, rows, rfl, hwindows⟩ := hmatrix x hget
  unfold callWindow
  refine (Settles.mapM hnumbers).bind fun scalars _ => ?_
  refine (Settles.forM fun i _ => Settles.mapError_invalidArgument _).bind fun _ _ => ?_
  rw [hx]
  refine (settles_collectComputedRows fun e he i => ?_).map fun _ _ => rfl
  obtain ⟨e, hmem, rfl⟩ := List.mem_map.1 he
  obtain ⟨w, hw, hcovers⟩ := hwindows i
  obtain ⟨v, hv⟩ := Function.exists_reduceWindow hw hfit (hcovers e hmem)
    (scalars.map fun numbers => numbers.get i)
  refine ⟨v, ?_⟩
  dsimp only
  rw [hw]
  exact congrArg (Except.mapError QueryError.overflow) hv

theorem settles_callMath {values : List (Column α n)} (hkind : f.kind = .math)
    (h : ColumnsFit f values) :
    Settles (fun y : Column α n => y.valueType = .vector) (callMath f values) := by
  obtain ⟨hrequired, -, hvariadic, -, hvector, hscalar⟩ := Function.math_signature hkind
  obtain ⟨rows, hrows⟩ := h.vector (Nat.lt_of_lt_of_le hrequired h.required) hvector
  have hparam : Settles (fun _ => True) (values[1]?.mapM scalarsOf) := by
    cases hget : values[1]? with
    | none => trivial
    | some y =>
      have hlt : 1 < values.length := (List.getElem?_eq_some_iff.1 hget).1
      have hcount : 1 < f.signature.args.length := Nat.lt_of_lt_of_le hlt (h.atMost hvariadic)
      have hy : y.valueType = .scalar := hscalar hcount ▸ h.types hget
      obtain ⟨numbers, rfl⟩ := eq_scalar_of_valueType hy
      trivial
  unfold callMath
  rw [hrows]
  exact hparam.bind fun param _ => settles_mapElements _ _ rows

theorem settles_callDate (frames : TimeFrames) {values : List (Column α frames.len)}
    (hkind : f.kind = .date) (h : ColumnsFit f values) :
    Settles (fun y : Column α frames.len => y.valueType = .vector) (callDate frames f values) := by
  obtain ⟨-, -, -, hvector⟩ := Function.date_signature hkind
  cases values with
  | nil => rfl
  | cons x rest =>
    have hx : x.valueType = .vector := hvector ▸ h.types (k := 0) rfl
    obtain ⟨rows, rfl⟩ := eq_vector_of_valueType hx
    exact settles_mapElements f.outputMetric (fun _ v => some (f.applyDate v)) rows

theorem settles_callSpecial (frames : TimeFrames) {exprs : List (Expr α)}
    {values : List (Column α frames.len)} (hkind : f.kind = .special)
    (hrelabel : ¬(f = .labelReplace ∨ f = .labelJoin)) (hexprs : Expr.ArgsFit f exprs)
    (h : ColumnsFit f values) :
    Settles (fun y : Column α frames.len => y.valueType = f.signature.result)
      (callSpecial frames f exprs values) := by
  have hlen : f.signature.required ≤ values.length := h.required
  cases f with
  | time => rfl
  | vector =>
    obtain ⟨numbers, hnumbers⟩ := h.scalar hlen rfl
    unfold callSpecial
    rw [hnumbers]
    rfl
  | scalar =>
    obtain ⟨rows, hrows⟩ := h.vector hlen rfl
    unfold callSpecial
    rw [hrows]
    rfl
  | absent =>
    obtain ⟨rows, hrows⟩ := h.vector hlen rfl
    simp only [callSpecial, hrows]
    change Settles _ (if _ then _ else _)
    split
    · exact (Expr.settles_absentArgument hexprs).bind fun m _ => rfl
    · rfl
  | timestamp =>
    obtain ⟨rows, hrows⟩ := h.vector hlen rfl
    unfold callSpecial
    rw [hrows]
    exact settles_mapElements _ _ rows
  | histogramQuantile =>
    obtain ⟨q, hq⟩ := h.scalar (Nat.lt_of_succ_lt hlen) rfl
    obtain ⟨rows, hrows⟩ := h.vector hlen rfl
    simp only [callSpecial, hq, hrows]
    exact settles_stepwise fun i => trivial
  | labelReplace => exact absurd (.inl rfl) hrelabel
  | labelJoin => exact absurd (.inr rfl) hrelabel
  | _ => exact absurd hkind (by decide)

def callValues (frames : TimeFrames) (f : Function) (exprs : List (Expr α))
    (values : List (Column α frames.len)) : Except QueryError (Column α frames.len) :=
  match f.kind with
  | .window => callWindow frames f values
  | .math => callMath f values
  | .date => callDate frames f values
  | .special => callSpecial frames f exprs values

theorem outcome_call (frames : TimeFrames) {f : Function}
    (h : ¬(f = .labelReplace ∨ f = .labelJoin)) (exprs : List (Expr α))
    (args : List (Traced (Column α frames.len))) :
    (call frames f exprs args).outcome =
      args.mapM (·.outcome) >>= callValues frames f exprs := by
  unfold call
  rw [if_neg h, Traced.outcome_bind, Traced.outcome_mapM]
  rfl

omit [SampleValue α] in
theorem outcome_relabel (f : Function) (exprs : List (Expr α)) (arg : Traced (Column α n)) :
    (relabel f exprs arg).outcome = (do
      let change ← Expr.relabeling f exprs
      let rows ← rowsOf (← arg.outcome)
      .vector <$> rows.mapElements change fun _ x => some x) := by
  unfold relabel
  simp only [Traced.outcome_bind, Traced.outcome_ofExcept]
  rfl

theorem settles_callValues (frames : TimeFrames) {exprs : List (Expr α)}
    {values : List (Column α frames.len)} (hrelabel : ¬(f = .labelReplace ∨ f = .labelJoin))
    (hexprs : Expr.ArgsFit f exprs) (h : ColumnsFit f values)
    (hmatrix : f.kind = .window → ∀ x, values[f.matrixArg]? = some x → Reducible frames f x) :
    Settles (fun y : Column α frames.len => y.valueType = f.signature.result)
      (callValues frames f exprs values) := by
  unfold callValues
  cases hkind : f.kind with
  | window =>
    rw [(Function.window_signature hkind).2.2.1]
    exact settles_callWindow frames hkind h (hmatrix hkind)
  | math =>
    rw [(Function.math_signature hkind).2.2.2.1]
    exact settles_callMath hkind h
  | date =>
    rw [(Function.date_signature hkind).2.2.1]
    exact settles_callDate frames hkind h
  | special => exact settles_callSpecial frames hkind hrelabel hexprs h

omit [SampleValue α] in
theorem settles_relabel (hrelabel : f = .labelReplace ∨ f = .labelJoin) {exprs : List (Expr α)}
    (hexprs : Expr.ArgsFit f exprs) {arg : Traced (Column α n)}
    (harg : Settles (fun x => x.valueType = .vector) arg.outcome) :
    Settles (fun y => y.valueType = .vector) (relabel f exprs arg).outcome := by
  rw [outcome_relabel]
  refine (Expr.settles_relabeling hrelabel hexprs).bind fun change _ => ?_
  refine harg.bind fun x hx => ?_
  exact (settles_rowsOf hx).bind fun rows _ => settles_mapElements _ _ rows

theorem settles_call (frames : TimeFrames) {exprs : List (Expr α)}
    (hexprs : Expr.ArgsFit f exprs) {column : Expr α → Traced (Column α frames.len)}
    (hcolumn : ∀ a ∈ exprs, ∀ t, a.check = .ok t →
      Settles (fun x => x.valueType = t) (column a).outcome)
    (hmatrix : f.kind = .window → ∀ s duration,
      exprs[f.matrixArg]? = some (.range s duration) →
        Settles (Reducible frames f) (column (.range s duration)).outcome) :
    Settles (fun y => y.valueType = f.signature.result)
      (call frames f exprs (exprs.map column)).outcome := by
  by_cases hrelabel : f = .labelReplace ∨ f = .labelJoin
  · obtain ⟨hrequired, hresult, hvector, -⟩ := Function.relabel_signature hrelabel
    unfold call
    rw [if_pos hrelabel, hresult]
    cases exprs with
    | nil =>
      have hnone : f.signature.required ≤ 0 := hexprs.required
      omega
    | cons a rest =>
      have ha : a.check = .ok .vector := hvector ▸ hexprs.types (k := 0) rfl
      exact settles_relabel hrelabel hexprs (hcolumn a (.head _) _ ha)
  · rw [outcome_call frames hrelabel, List.mapM_map]
    have hvalues : Settles (fun values => ColumnsFit f values ∧ (f.kind = .window →
        ∀ x, values[f.matrixArg]? = some x → Reducible frames f x))
        (exprs.mapM fun a => (column a).outcome) := by
      refine (Settles.mapM_results fun a ha => ?_).mono fun values hall => ⟨?_, ?_⟩
      · obtain ⟨k, hk⟩ := List.mem_iff_getElem?.1 ha
        exact (hcolumn a ha _ (hexprs.types hk)).mono fun _ _ => trivial
      · refine ⟨hall.length_eq ▸ hexprs.required, fun hvariadic => ?_, fun {k x} hx => ?_⟩
        · exact hall.length_eq ▸ hexprs.atMost hvariadic
        · obtain ⟨a, ha, hax⟩ := exists_of_forall₂ hall hx
          have htype := hcolumn a (List.mem_of_getElem? ha) _ (hexprs.types ha)
          rw [hax] at htype
          exact htype
      · intro hkind x hx
        obtain ⟨s, duration, hget⟩ := hexprs.exists_range hkind
        obtain ⟨a, ha, hax⟩ := exists_of_forall₂ hall hx
        obtain rfl := Option.some.inj (ha.symm.trans hget)
        have hreducible := hmatrix hkind s duration hget
        rw [hax] at hreducible
        exact hreducible
    exact hvalues.bind fun values hfit =>
      settles_callValues frames hrelabel hexprs hfit.1 hfit.2

/-- Selectors that the type check lets pass are answered, range selectors by the samples of their
windows. -/
structure Answered (c : Context α) (selectors : List (Selector × Option Int)) : Prop where
  latest : ∀ s, (s, none) ∈ selectors → s.matchers ≠ [] →
    Settles (fun y => y.valueType = .vector) (selectLatest c s)
  windows : ∀ s duration, (s, some duration) ∈ selectors → s.matchers ≠ [] → 0 < duration →
    Settles (Windowed c.frames duration s.offset) (selectWindow c s duration)

theorem Answered.subset {c : Context α} {selectors selectors' : List (Selector × Option Int)}
    (h : Answered c selectors) (hsub : selectors' ⊆ selectors) : Answered c selectors' :=
  ⟨fun s hs => h.latest s (hsub hs), fun s d hs => h.windows s d (hsub hs)⟩

/-- A checked expression has a column of the type that was found. -/
theorem settles_eval {c : Context α} {e : Expr α} {t : ValueType} (hc : Answered c e.selectors)
    (hd : e.DifferencesFit) (h : e.check = .ok t) :
    Settles (fun y => y.valueType = t) (eval c e).outcome := by
  induction e generalizing t with
  | number v =>
    cases h
    rfl
  | string text =>
    cases h
    rfl
  | selector s =>
    obtain ⟨hmatchers, rfl⟩ := Expr.check_selector_ok h
    exact hc.latest s (by simp [Expr.selectors]) hmatchers
  | range s duration =>
    obtain ⟨hmatchers, hduration, rfl⟩ := Expr.check_range_ok h
    have hwindows := hc.windows s duration (by simp [Expr.selectors]) hmatchers hduration
    refine hwindows.mono ?_
    rintro _ ⟨rows, rfl, -⟩
    rfl
  | negate e ih =>
    obtain ⟨he, ht⟩ := Expr.check_negate_ok h
    rw [eval, Traced.outcome_withSpan, Traced.outcome_bind]
    exact (ih hc (hd.of_within (.negate .self)) he).bind fun x hx => settles_negate hx ht
  | binary op left right matching toBool ihl ihr =>
    rw [Expr.selectors] at hc
    obtain ⟨lt, rt, hl, hr, hlt, hrt, rfl⟩ := Expr.check_binary_ok h
    simp only [eval, Traced.outcome_withSpan, Traced.outcome_bind, Traced.outcome_ofExcept]
    have hleft := ihl (hc.subset (List.subset_append_left _ _)) (hd.of_within (.left .self)) hl
    have hright := ihr (hc.subset (List.subset_append_right _ _)) (hd.of_within (.right .self)) hr
    refine hleft.bind fun x hx => hright.bind fun y hy => ?_
    subst hx hy
    exact settles_binary c.hash op matching toBool hlt hrt
  | aggregate op e param grouping ih ihp =>
    rw [Expr.selectors] at hc
    obtain ⟨he, hparam, rfl⟩ := Expr.check_aggregate_ok h
    simp only [eval, Traced.outcome_withSpan, Traced.outcome_bind, Traced.outcome_ofExcept]
    have hp : Settles (fun p : Option (Column α c.frames.len) =>
        ∀ x ∈ p, x.valueType = .scalar ∨ x.valueType = .string) (evalParam c param).outcome := by
      cases param with
      | none => exact fun x hx => absurd hx (Option.not_mem_none x)
      | some p =>
        obtain ⟨expected, hop, hp⟩ := hparam
        have hsub : p.selectors ⊆ Expr.selectorsParam (some p) ++ e.selectors :=
          fun q hq => List.mem_append_left _ (Expr.mem_selectorsParam rfl hq)
        rw [evalParam, Traced.outcome_map]
        refine (ihp p rfl (hc.subset hsub) (hd.of_within (.param .self)) hp).map fun x hx y hy => ?_
        cases hy
        rw [hx]
        cases op <;> cases hop <;> simp
    have hoperand :=
      ih (hc.subset (List.subset_append_right _ _)) (hd.of_within (.operand .self)) he
    refine hp.bind fun p hp => hoperand.bind fun x hx => ?_
    exact settles_aggregate c.hash op grouping hp hx
  | call f args ih =>
    rw [Expr.selectors] at hc
    obtain ⟨hargs, rfl⟩ := Expr.check_call_ok h
    rw [eval, Traced.outcome_withSpan, evalArgs_eq_map]
    have hsub {a : Expr α} (ha : a ∈ args) : a.selectors ⊆ Expr.selectorsArgs args :=
      fun q hq => Expr.mem_selectorsArgs ha hq
    refine settles_call c.frames hargs (fun a ha t ht => ?_) fun hkind s duration hget => ?_
    · exact ih a ha (hc.subset (hsub ha)) (hd.of_within (.arg ha .self)) ht
    · obtain ⟨hmatchers, hduration, -⟩ := Expr.check_range_ok (hargs.types hget)
      have hmem : (s, some duration) ∈ (Expr.range s duration : Expr α).selectors := by
        simp [Expr.selectors]
      have hwindows :=
        hc.windows s duration (hsub (List.mem_of_getElem? hget) hmem) hmatchers hduration
      exact hwindows.mono fun x hx =>
        ⟨duration, s.offset, hd f args s duration .self hkind hget, hx⟩

end SeriesQuery.Columnar
