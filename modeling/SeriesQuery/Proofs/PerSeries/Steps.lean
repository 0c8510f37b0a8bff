import SeriesQuery.Proofs.PerSeries.Nodes
import SeriesQuery.Proofs.Soundness.Stepwise

/-!
# Series kept apart step by step

At every frame a node finds its numbers and its operand, with the help of the series remembered so
far, and then combines the elements that are there. Frames follow each other until one of them
fails.
-/

namespace SeriesQuery

variable {α : Type}

namespace Step

variable {β γ : Type} {x : Step α β} {f : β → Step α γ} {cache cache' : SelectorCache α}

theorem outcome_bind (x : Step α β) (f : β → Step α γ) (cache : SelectorCache α) :
    ((x >>= f) cache).outcome = (x cache).outcome >>= fun r => (f r.1 r.2).outcome :=
  Traced.outcome_bind ..

theorem outcome_bind_of_ok {b : β} (h : (x cache).outcome = .ok (b, cache')) :
    ((x >>= f) cache).outcome = (f b cache').outcome := by
  rw [outcome_bind, h]
  rfl

theorem outcome_bind_of_error {e : QueryError} (h : (x cache).outcome = .error e) :
    ((x >>= f) cache).outcome = .error e := by
  rw [outcome_bind, h]
  rfl

theorem exists_of_outcome_bind {c : γ} (h : ((x >>= f) cache).outcome = .ok (c, cache')) :
    ∃ b cache₁, (x cache).outcome = .ok (b, cache₁) ∧ (f b cache₁).outcome = .ok (c, cache') := by
  rw [outcome_bind] at h
  obtain ⟨⟨b, cache₁⟩, hx, hf⟩ := bind_eq_ok_iff.1 h
  exact ⟨b, cache₁, hx, hf⟩

theorem outcome_lift (x : Except QueryError β) (cache : SelectorCache α) :
    ((liftM x : Step α β) cache).outcome = (·, cache) <$> x := by
  change (Traced.ofExcept x >>= fun b => pure (b, cache)).outcome = _
  rw [Traced.outcome_bind]
  cases x <;> rfl

theorem outcome_lift_bind {x : Except QueryError β} {b : β} (h : x = .ok b)
    (cache : SelectorCache α) :
    (((liftM x : Step α β) >>= f) cache).outcome = (f b cache).outcome := by
  subst h
  exact outcome_bind_of_ok (outcome_lift _ cache)

theorem exists_of_outcome_lift_bind {x : Except QueryError β} {c : γ}
    (h : (((liftM x : Step α β) >>= f) cache).outcome = .ok (c, cache')) :
    ∃ b, x = .ok b ∧ (f b cache).outcome = .ok (c, cache') := by
  cases x with
  | ok b => exact ⟨b, rfl, (outcome_lift_bind rfl cache).symm.trans h⟩
  | error e => cases (outcome_bind_of_error (outcome_lift (.error e) cache)).symm.trans h

/-- Where one step finds `b`, another has the outcome `y` and leaves the same series remembered. -/
def GoesOn (find : Step α β) (b : β) (go : Step α γ) (y : Except QueryError γ) : Prop :=
  ∀ cache cache', (find cache).outcome = .ok (b, cache') → (go cache).outcome = (·, cache') <$> y

/-- Steps that go on from what is found at each frame do so until one of them fails. -/
theorem goesOn_ofFnM {n : Nat} {find : Fin n → Step α β} {go : Fin n → Step α γ}
    {inputs : Vector β n} {y : Fin n → Except QueryError γ}
    (h : ∀ i, GoesOn (find i) (inputs.get i) (go i) (y i)) :
    GoesOn (Vector.ofFnM find) inputs (Vector.ofFnM go) (Vector.ofFnM y) := by
  induction n with
  | zero =>
    intro cache cache' hfind
    rw [Vector.ofFnM_zero] at hfind
    cases hfind
    rw [Vector.ofFnM_zero, Vector.ofFnM_zero]
    rfl
  | succ n ih =>
    intro cache cache' hfind
    rw [Vector.ofFnM_succ] at hfind ⊢
    obtain ⟨init, cache₁, hinit, hrest⟩ := exists_of_outcome_bind hfind
    obtain ⟨b, cache₂, hlast, hpush⟩ := exists_of_outcome_bind hrest
    cases hpush
    have hfirst := ih (fun i => vector_get_push_castSucc init b i ▸ h i.castSucc) cache cache₁ hinit
    have hlast := (vector_get_push_last init b ▸ h (Fin.last n)) cache₁ cache' hlast
    rw [Vector.ofFnM_succ]
    cases hy : Vector.ofFnM fun i : Fin n => y i.castSucc with
    | error e =>
      rw [hy] at hfirst
      exact outcome_bind_of_error hfirst
    | ok outs =>
      rw [hy] at hfirst
      rw [outcome_bind_of_ok hfirst]
      cases hyn : y (Fin.last n) with
      | error e =>
        rw [hyn] at hlast
        exact outcome_bind_of_error hlast
      | ok out =>
        rw [hyn] at hlast
        exact outcome_bind_of_ok hlast

/-- What steps make of what has been found at each frame is what they make without the series
remembered. -/
theorem outcome_ofFnM_get {n : Nat} {find : Fin n → Step α β} {go : Fin n → Step α γ}
    {inputs : Vector β n} {y : Fin n → Except QueryError γ} {cache cache' : SelectorCache α}
    (h : ∀ i, GoesOn (find i) (inputs.get i) (go i) (y i))
    (hfind : (Vector.ofFnM find cache).outcome = .ok (inputs, cache')) :
    (Vector.ofFnM go cache).outcome.map (fun r => r.1.get) = (Vector.ofFnM y).map Vector.get := by
  rw [goesOn_ofFnM h cache cache' hfind]
  cases Vector.ofFnM y <;> rfl

end Step

/-- The value of an expression at a timestamp, found with the help of remembered series. -/
abbrev Stepwise.valueAt [SampleValue α] (c : Context α) (t : Int) (e : Expr α) :
    Step α (Value α) :=
  eval (reading c t) c.hash t e

namespace SeriesNode

variable [SampleValue α]

/-- Whether a node asks for its numbers before its operand. -/
def scalarsFirst : SeriesNode α → Bool
  | withScalar _ _ _ scalarOnLeft _ _ => scalarOnLeft
  | window .. => true
  | _ => false

def numbers (node : SeriesNode α) (c : Context α) (t : Int) : Step α (List α) :=
  node.scalars.mapM fun e => do liftM (← Stepwise.valueAt c t e).scalar?

/-- The numbers and the operand of a node at a timestamp, in the order in which it asks for
them. -/
def inputs (node : SeriesNode α) (c : Context α) (t : Int) : Step α (List α × Value α) :=
  if node.scalarsFirst then do
    let found ← node.numbers c t
    let x ← Stepwise.valueAt c t node.operand
    return (found, x)
  else do
    let x ← Stepwise.valueAt c t node.operand
    let found ← node.numbers c t
    return (found, x)

section Inputs

variable {node : SeriesNode α} {c : Context α} {t : Int} {cache cache' : SelectorCache α}
  {found : List α} {x : Value α}

theorem exists_of_scalarsFirst (hfirst : node.scalarsFirst = true)
    (h : (node.inputs c t cache).outcome = .ok ((found, x), cache')) :
    ∃ cache₁, (node.numbers c t cache).outcome = .ok (found, cache₁) ∧
      (Stepwise.valueAt c t node.operand cache₁).outcome = .ok (x, cache') := by
  unfold inputs at h
  rw [if_pos hfirst] at h
  obtain ⟨found', cache₁, hnumbers, h⟩ := Step.exists_of_outcome_bind h
  obtain ⟨x', cache₂, hoperand, h⟩ := Step.exists_of_outcome_bind h
  cases h
  exact ⟨cache₁, hnumbers, hoperand⟩

theorem exists_of_operandFirst (hfirst : node.scalarsFirst = false)
    (h : (node.inputs c t cache).outcome = .ok ((found, x), cache')) :
    ∃ cache₁, (Stepwise.valueAt c t node.operand cache).outcome = .ok (x, cache₁) ∧
      (node.numbers c t cache₁).outcome = .ok (found, cache') := by
  unfold inputs at h
  rw [if_neg (Bool.not_eq_true _ ▸ hfirst)] at h
  obtain ⟨x', cache₁, hoperand, h⟩ := Step.exists_of_outcome_bind h
  obtain ⟨found', cache₂, hnumbers, h⟩ := Step.exists_of_outcome_bind h
  cases h
  exact ⟨cache₁, hoperand, hnumbers⟩

theorem numbers_nil (hnone : node.scalars = [])
    (h : (node.numbers c t cache).outcome = .ok (found, cache')) : found = [] ∧ cache' = cache := by
  unfold numbers at h
  rw [hnone, List.mapM_nil] at h
  cases h
  exact ⟨rfl, rfl⟩

theorem numbers_singleton {e : Expr α} (hone : node.scalars = [e])
    (h : (node.numbers c t cache).outcome = .ok (found, cache')) :
    ∃ v, found = [v] ∧ (Stepwise.valueAt c t e cache).outcome = .ok (.scalar v, cache') := by
  unfold numbers at h
  rw [hone, List.mapM_cons, List.mapM_nil] at h
  obtain ⟨v, cache₁, hnumber, h⟩ := Step.exists_of_outcome_bind h
  obtain ⟨rest, cache₂, hnil, h⟩ := Step.exists_of_outcome_bind h
  cases hnil
  cases h
  obtain ⟨y, cache₂, hvalue, hscalar⟩ := Step.exists_of_outcome_bind hnumber
  rw [Step.outcome_lift] at hscalar
  obtain ⟨w, hw, heq⟩ := map_eq_ok_iff.1 hscalar
  cases heq
  refine ⟨v, rfl, ?_⟩
  cases y with
  | scalar y =>
    cases hw
    exact hvalue
  | _ => cases hw

end Inputs

end SeriesNode

theorem Value.eq_vector_of_valueType {x : Value α} (h : x.valueType = .vector) :
    ∃ v, x = .vector v := by
  cases x with
  | vector v => exact ⟨v, rfl⟩
  | _ => cases h

theorem Value.eq_matrix_of_valueType {x : Value α} (h : x.valueType = .matrix) :
    ∃ series, x = .matrix series := by
  cases x with
  | matrix series => exact ⟨series, rfl⟩
  | _ => cases h

namespace Stepwise

section Arguments

variable {args : List (Step α (Value α))} {k : Nat} {value : Step α (Value α)}
  {cache cache' : SelectorCache α}

theorem argument_of_getElem? (hget : args[k]? = some value) : argument args k = value := by
  unfold argument
  rw [hget]

theorem outcome_vectorArg (hget : args[k]? = some value) {v : SeriesMap α}
    (h : (value cache).outcome = .ok (.vector v, cache')) :
    (vectorArg args k cache).outcome = .ok (v, cache') := by
  unfold vectorArg
  rw [argument_of_getElem? hget, Step.outcome_bind_of_ok h]
  exact Step.outcome_lift (.ok v) cache'

theorem outcome_scalarArg (hget : args[k]? = some value) {v : α}
    (h : (value cache).outcome = .ok (.scalar v, cache')) :
    (scalarArg args k cache).outcome = .ok (v, cache') := by
  unfold scalarArg
  rw [argument_of_getElem? hget, Step.outcome_bind_of_ok h]
  exact Step.outcome_lift (.ok v) cache'

end Arguments

variable [SampleValue α] {c : Context α} {t : Int} {label : Metric → Metric} {found : List α}
  {v : SeriesMap α}

theorem goesOn_negate (e : Expr α) :
    Step.GoesOn ((SeriesNode.negate e).inputs c t) (found, .vector v) (valueAt c t (.negate e))
      ((SeriesNode.negate e).combine Metric.withoutName t found (.vector v)) := by
  intro cache cache' hfind
  obtain ⟨cache₁, hoperand, hnumbers⟩ := SeriesNode.exists_of_operandFirst rfl hfind
  obtain ⟨rfl, rfl⟩ := SeriesNode.numbers_nil rfl hnumbers
  rw [SeriesNode.combine_vector fun _ => rfl]
  exact (Step.outcome_bind_of_ok hoperand).trans (Step.outcome_lift (Value.vector v).negate _)

theorem goesOn_withScalar (op : BinaryOp) (matching : VectorMatching) (toBool scalarOnLeft : Bool)
    (scalar e : Expr α) :
    Step.GoesOn ((SeriesNode.withScalar op matching toBool scalarOnLeft scalar e).inputs c t)
      (found, .vector v)
      (valueAt c t (SeriesNode.withScalar op matching toBool scalarOnLeft scalar e).expr)
      ((SeriesNode.withScalar op matching toBool scalarOnLeft scalar e).combine
        (op.outputMetric toBool) t found (.vector v)) := by
  intro cache cache' hfind
  rw [SeriesNode.combine_vector fun _ => rfl]
  cases scalarOnLeft with
  | true =>
    obtain ⟨cache₁, hnumbers, hoperand⟩ := SeriesNode.exists_of_scalarsFirst rfl hfind
    obtain ⟨y, rfl, hscalar⟩ := SeriesNode.numbers_singleton rfl hnumbers
    refine (Step.outcome_bind_of_ok hscalar).trans ?_
    refine (Step.outcome_bind_of_ok hoperand).trans ?_
    exact Step.outcome_lift (Value.binary c.hash op matching toBool (.scalar y) (.vector v)) cache'
  | false =>
    obtain ⟨cache₁, hoperand, hnumbers⟩ := SeriesNode.exists_of_operandFirst rfl hfind
    obtain ⟨y, rfl, hscalar⟩ := SeriesNode.numbers_singleton rfl hnumbers
    refine (Step.outcome_bind_of_ok hoperand).trans ?_
    refine (Step.outcome_bind_of_ok hscalar).trans ?_
    exact Step.outcome_lift (Value.binary c.hash op matching toBool (.vector v) (.scalar y)) cache'

theorem outcome_valueAt_call (f : Function) (args : List (Expr α)) (cache : SelectorCache α) :
    (valueAt c t (.call f args) cache).outcome =
      (call t f args (args.map (valueAt c t)) cache).outcome := by
  change (call t f args (evalArgs (reading c t) c.hash t args) cache).outcome = _
  rw [evalArgs_eq_map]

theorem seen_of_selectWindow {s : Selector} {duration : Int}
    {series : SeriesMap (List (Sample α))} {cache cache' : SelectorCache α}
    (h : (selectWindow c t s duration cache).outcome = .ok (series, cache')) :
    Seen t s duration series := by
  obtain ⟨fetched, cache₁, -, h⟩ := Step.exists_of_outcome_bind h
  obtain ⟨finish, hfinish, h⟩ := Step.exists_of_outcome_lift_bind h
  obtain ⟨start, hstart, h⟩ := Step.exists_of_outcome_lift_bind h
  obtain ⟨hlatest, rfl⟩ := Millis.earlier_eq_ok_iff.1 hfinish
  obtain ⟨hearliest, rfl⟩ := Millis.earlier_eq_ok_iff.1 hstart
  cases h
  refine ⟨_, Window.of_eq_ok_iff.2 ⟨hlatest, hearliest, rfl⟩, fun e he => ?_⟩
  obtain ⟨x, -, hx⟩ := List.mem_filterMap.1 (SortedMap.mem_of_mem_ofList he)
  dsimp only at hx
  split at hx
  · cases hx
  · obtain rfl := Option.some.inj hx
    intro sample hsample
    have hinside := (List.mem_filter.1 hsample).2
    simp only [TimeRange.contains, Bool.and_eq_true, decide_eq_true_eq] at hinside
    exact hinside.1

theorem seen_of_range {s : Selector} {duration : Int} {series : SeriesMap (List (Sample α))}
    {cache cache' : SelectorCache α}
    (h : (valueAt c t (.range s duration) cache).outcome = .ok (.matrix series, cache')) :
    Seen t s duration series := by
  change (Traced.withSpan _ ((Value.matrix <$> selectWindow c t s duration) cache)).outcome = _ at h
  rw [Traced.outcome_withSpan, map_eq_pure_bind] at h
  obtain ⟨found, cache₁, hfound, h⟩ := Step.exists_of_outcome_bind h
  cases h
  exact seen_of_selectWindow hfound

theorem combine_window {f : Function} {hkind : f.kind = .window} {scalars : List (Expr α)}
    {hposition : f.matrixArg ≤ scalars.length} {s : Selector} {duration : Int} {w : Window}
    (hw : Window.of t duration s.offset = .ok w) (series : SeriesMap (List (Sample α))) :
    (SeriesNode.window f hkind scalars hposition s duration).combine f.outputMetric t found
      (.matrix series) = reduceWindows t f s.offset duration series found := by
  unfold SeriesNode.combine reduceWindows Value.observations
  dsimp only
  rw [hw, List.map_map]
  refine congrArg (Value.vector <$> collectComputed _ ·) (List.map_congr_left fun e _ => ?_)
  unfold SeriesNode.yield?
  dsimp only [Function.comp_apply]
  rw [hw]
  rfl

theorem goesOn_window {f : Function} (hkind : f.kind = .window) {scalars : List (Expr α)}
    (hposition : f.matrixArg ≤ scalars.length) (s : Selector) (duration : Int)
    {series : SeriesMap (List (Sample α))} (haccepts : f.checkParams found = .ok ()) :
    Step.GoesOn ((SeriesNode.window f hkind scalars hposition s duration).inputs c t)
      (found, .matrix series)
      (valueAt c t (SeriesNode.window f hkind scalars hposition s duration).expr)
      ((SeriesNode.window f hkind scalars hposition s duration).combine f.outputMetric t found
        (.matrix series)) := by
  intro cache cache' hfind
  obtain ⟨cache₁, hnumbers, hoperand⟩ := SeriesNode.exists_of_scalarsFirst rfl hfind
  let args := scalars.insertIdx f.matrixArg (.range s duration)
  have hplace : args[f.matrixArg]? = some (.range s duration) := by
    rw [List.getElem?_insertIdx_self, if_pos hposition]
  have hrange : rangeArg f args = .ok (s, duration) := by
    unfold rangeArg
    rw [hplace]
  have hparams : ((args.map (valueAt c t)).eraseIdx f.matrixArg).mapM
      (fun value => do liftM (← value).scalar?) =
        (SeriesNode.window f hkind scalars hposition s duration).numbers c t := by
    rw [List.eraseIdx_map, List.eraseIdx_insertIdx_self, List.mapM_map]
    rfl
  have hmatrix : argument (args.map (valueAt c t)) f.matrixArg =
      valueAt c t (.range s duration) := by
    refine argument_of_getElem? ?_
    rw [List.getElem?_map, hplace]
    rfl
  have hcheck : (f.checkParams found).mapError QueryError.invalidArgument = .ok () := by
    rw [haccepts]
    rfl
  obtain ⟨w, hw, -⟩ := seen_of_range hoperand
  rw [combine_window hw]
  refine (outcome_valueAt_call f args cache).trans ?_
  unfold call
  rw [hkind]
  change (callWindow t f args (args.map (valueAt c t)) cache).outcome = _
  unfold callWindow
  rw [hparams, hmatrix]
  refine (Step.outcome_lift_bind hrange cache).trans ?_
  refine (Step.outcome_bind_of_ok hnumbers).trans ?_
  refine (Step.outcome_lift_bind hcheck cache₁).trans ?_
  refine (Step.outcome_bind_of_ok hoperand).trans ?_
  refine (Step.outcome_lift_bind rfl cache').trans ?_
  exact Step.outcome_lift _ cache'

theorem goesOn_math {f : Function} (hkind : f.kind = .math) (param : Option (Expr α))
    (e : Expr α) :
    Step.GoesOn ((SeriesNode.math f hkind param e).inputs c t) (found, .vector v)
      (valueAt c t (SeriesNode.math f hkind param e).expr)
      ((SeriesNode.math f hkind param e).combine f.outputMetric t found (.vector v)) := by
  intro cache cache' hfind
  obtain ⟨cache₁, hoperand, hnumbers⟩ := SeriesNode.exists_of_operandFirst rfl hfind
  rw [SeriesNode.combine_vector fun _ => rfl]
  refine (outcome_valueAt_call f (e :: param.toList) cache).trans ?_
  unfold call
  rw [hkind]
  refine (Step.outcome_bind_of_ok (outcome_vectorArg rfl hoperand)).trans ?_
  cases param with
  | none =>
    obtain ⟨rfl, rfl⟩ := SeriesNode.numbers_nil rfl hnumbers
    exact Step.outcome_lift _ cache'
  | some p =>
    obtain ⟨y, rfl, hscalar⟩ := SeriesNode.numbers_singleton rfl hnumbers
    let args : List (Step α (Value α)) := [valueAt c t e, valueAt c t p]
    have hparam : ((some <$> scalarArg args 1 : Step α (Option α)) cache₁).outcome =
        .ok (some y, cache') := by
      rw [map_eq_pure_bind]
      exact Step.outcome_bind_of_ok (outcome_scalarArg rfl hscalar)
    exact (Step.outcome_bind_of_ok hparam).trans (Step.outcome_lift _ cache')

theorem outcome_mapArg {f : Function} (value : α → α) {e : Expr α} {cache cache' : SelectorCache α}
    (h : (valueAt c t e cache).outcome = .ok (.vector v, cache')) :
    (mapArg f value [valueAt c t e] cache).outcome =
      (·, cache') <$> Value.mapElements f.outputMetric (fun x => some (value x)) v := by
  unfold mapArg
  rw [Step.outcome_bind_of_ok (outcome_vectorArg rfl h)]
  exact Step.outcome_lift _ cache'

theorem goesOn_date {f : Function} (hkind : f.kind = .date) (e : Expr α) :
    Step.GoesOn ((SeriesNode.date f hkind e).inputs c t) (found, .vector v)
      (valueAt c t (SeriesNode.date f hkind e).expr)
      ((SeriesNode.date f hkind e).combine f.outputMetric t found (.vector v)) := by
  intro cache cache' hfind
  obtain ⟨cache₁, hoperand, hnumbers⟩ := SeriesNode.exists_of_operandFirst rfl hfind
  obtain ⟨rfl, rfl⟩ := SeriesNode.numbers_nil rfl hnumbers
  rw [SeriesNode.combine_vector fun _ => rfl]
  refine (outcome_valueAt_call f [e] cache).trans ?_
  unfold call
  rw [hkind]
  exact outcome_mapArg f.applyDate hoperand

theorem goesOn_timestamp (e : Expr α) :
    Step.GoesOn ((SeriesNode.timestamp e).inputs c t) (found, .vector v)
      (valueAt c t (.call .timestamp [e]))
      ((SeriesNode.timestamp e).combine Function.timestamp.outputMetric t found (.vector v)) := by
  intro cache cache' hfind
  obtain ⟨cache₁, hoperand, hnumbers⟩ := SeriesNode.exists_of_operandFirst rfl hfind
  obtain ⟨rfl, rfl⟩ := SeriesNode.numbers_nil rfl hnumbers
  rw [SeriesNode.combine_vector fun _ => rfl]
  refine (outcome_valueAt_call .timestamp [e] cache).trans ?_
  exact outcome_mapArg (fun _ => Numeric.ofMillis t) hoperand

theorem goesOn_relabel {f : Function} (hf : f = .labelReplace ∨ f = .labelJoin)
    {texts : List (Expr α)} {e : Expr α} (hlabel : Expr.relabeling f (e :: texts) = .ok label) :
    Step.GoesOn ((SeriesNode.relabel f hf texts e).inputs c t) (found, .vector v)
      (valueAt c t (.call f (e :: texts)))
      ((SeriesNode.relabel f hf texts e).combine label t found (.vector v)) := by
  intro cache cache' hfind
  obtain ⟨cache₁, hoperand, hnumbers⟩ := SeriesNode.exists_of_operandFirst rfl hfind
  obtain ⟨rfl, rfl⟩ := SeriesNode.numbers_nil rfl hnumbers
  rw [SeriesNode.combine_vector fun _ => rfl]
  refine (outcome_valueAt_call f (e :: texts) cache).trans ?_
  have hcall : call t f (e :: texts) ((e :: texts).map (valueAt c t)) = (do
      let change ← liftM (Expr.relabeling f (e :: texts))
      let v ← vectorArg ((e :: texts).map (valueAt c t)) 0
      liftM (Value.mapElements change some v) : Step α (Value α)) := by
    rcases hf with rfl | rfl <;> rfl
  rw [hcall]
  refine (Step.outcome_lift_bind hlabel cache).trans ?_
  refine (Step.outcome_bind_of_ok (outcome_vectorArg rfl hoperand)).trans ?_
  exact Step.outcome_lift _ cache'

theorem goesOn_node {node : SeriesNode α} (hlabel : node.labelling = .ok label) {x : Value α}
    (htype : x.valueType = node.operandType) (haccepts : node.Accepts found) :
    Step.GoesOn (node.inputs c t) (found, x) (valueAt c t node.expr)
      (node.combine label t found x) := by
  cases node with
  | window f hkind scalars hposition s duration =>
    cases hlabel
    obtain ⟨series, rfl⟩ := Value.eq_matrix_of_valueType htype
    exact goesOn_window hkind hposition s duration haccepts
  | negate e =>
    obtain ⟨v, rfl⟩ := Value.eq_vector_of_valueType htype
    cases hlabel
    exact goesOn_negate e
  | withScalar op matching toBool scalarOnLeft scalar e =>
    obtain ⟨v, rfl⟩ := Value.eq_vector_of_valueType htype
    cases hlabel
    exact goesOn_withScalar op matching toBool scalarOnLeft scalar e
  | math f hkind param e =>
    obtain ⟨v, rfl⟩ := Value.eq_vector_of_valueType htype
    cases hlabel
    exact goesOn_math hkind param e
  | date f hkind e =>
    obtain ⟨v, rfl⟩ := Value.eq_vector_of_valueType htype
    cases hlabel
    exact goesOn_date hkind e
  | timestamp e =>
    obtain ⟨v, rfl⟩ := Value.eq_vector_of_valueType htype
    cases hlabel
    exact goesOn_timestamp e
  | relabel f hf texts e =>
    obtain ⟨v, rfl⟩ := Value.eq_vector_of_valueType htype
    exact goesOn_relabel hf hlabel

end Stepwise

end SeriesQuery
