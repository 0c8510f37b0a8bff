import SeriesQuery.Proofs.Columns.Evaluation
import SeriesQuery.Proofs.Remembering
import SeriesQuery.Proofs.Soundness.Evaluation

/-!
# Agreement of the evaluators

The value of an expression at a timestamp is told by a store alone. Both evaluators yield these
values at all frames, one with the series that it remembers from earlier frames and one from whole
columns, so that they succeed together and with identical results.
-/

namespace SeriesQuery

variable {α : Type} [SampleValue α]

def Store.valueAt (store : Store α) (lookback : Int) (hash : LabelHash) (t : Int) (e : Expr α) :
    Except QueryError (Value α) :=
  Stepwise.eval (store.reading lookback t) hash t e

/-- An expression is evaluated on the samples of a store at times that are sixty-four-bit
integers, and its selectors are not taken for each other. -/
structure Context.ReadsFrom (c : Context α) (store : Store α) (e : Expr α) : Prop where
  gateway : c.gateway = store.gateway
  lookback : ∀ s, (s, none) ∈ e.selectors → 0 ≤ c.lookback
  fits : c.AllFit e
  apart : c.TellsApart e.selectors

/-- An expression is evaluated on the samples of a store at times that are sixty-four-bit
integers, and its matchers name identifiers. -/
structure Context.Serves (c : Context α) (store : Store α) (e : Expr α) : Prop where
  gateway : c.gateway = store.gateway
  lookback : 0 ≤ c.lookback
  fits : c.AllFit e
  names : ∀ q ∈ e.selectors, q.1.NamesLabels

omit [SampleValue α] in
theorem Context.Serves.readsFrom {c : Context α} {store : Store α} {e : Expr α}
    (h : c.Serves store e) : c.ReadsFrom store e :=
  ⟨h.gateway, fun _ _ => h.lookback, h.fits, c.tellsApart_of_namesLabels h.names⟩

omit [SampleValue α] in
theorem Context.readsFrom_of_selectors {c : Context α} {store : Store α} {e : Expr α}
    {q : Selector × Option Int} (hselectors : e.selectors = [q])
    (hgateway : c.gateway = store.gateway) (hwindow : 0 ≤ c.windowOf q.2)
    (hfits : c.Fits q.1 (c.windowOf q.2)) : c.ReadsFrom store e where
  gateway := hgateway
  lookback s hs := by
    rw [hselectors, List.mem_singleton] at hs
    subst hs
    exact hwindow
  fits q' hq' := by
    rw [hselectors, List.mem_singleton] at hq'
    subst hq'
    exact hfits
  apart := by
    rw [hselectors]
    exact c.tellsApart_singleton q

theorem exists_type_of_validate {c : Context α} {e : Expr α} (h : c.validate e = .ok ()) :
    ∃ t, e.check = .ok t := by
  obtain ⟨t, ht, -⟩ := bind_eq_ok_iff.1 h
  exact ⟨t, mapError_eq_ok_iff.1 ht⟩

section Reading

variable {c : Context α} {store : Store α} {e : Expr α} {t : ValueType}

omit [SampleValue α] in
/-- What the selectors of a checked expression look back over is not negative. -/
theorem Context.ReadsFrom.window_nonneg (hreads : c.ReadsFrom store e) (h : e.check = .ok t)
    {q : Selector × Option Int} (hq : q ∈ e.selectors) : 0 ≤ c.windowOf q.2 := by
  obtain ⟨s, duration⟩ := q
  cases duration with
  | none => exact hreads.lookback s hq
  | some d => exact Int.le_of_lt ((Expr.selector_of_check h hq).2 d rfl)

namespace Stepwise

theorem answers_recalling (hreads : c.ReadsFrom store e) (h : e.check = .ok t) {i : Nat}
    (hi : i < c.frames.len) :
    Answers (recalling c e.selectors) (reading c (c.frames.atIndex i))
      (store.reading c.lookback (c.frames.atIndex i)) e.selectors where
  latest _ hs := related_selectLatest hreads.apart hs hreads.gateway
    (Expr.selector_of_check h hs).1 (hreads.fits _ hs) (hreads.lookback _ hs) hi
  windows _ _ hs := related_selectWindow hreads.apart hs hreads.gateway
    (Expr.selector_of_check h hs).1 (hreads.fits _ hs) (hreads.window_nonneg h hs) hi
  within _ _ _ hrelated cache := hrelated cache

theorem evaluate_eq_ok_iff (hreads : c.ReadsFrom store e) (hvalid : c.validate e = .ok ())
    {r : QueryResult α} :
    (evaluate c e).outcome = .ok r ↔
      ∃ steps : Vector (Value α) c.frames.len, r = { frames := c.frames, steps } ∧
        ∀ i : Fin c.frames.len,
          store.valueAt c.lookback c.hash (c.frames.atIndex i) e = .ok (steps.get i) := by
  have hanswer : c.validate e = .ok () → ∀ i : Fin c.frames.len,
      Answers (recalling c e.selectors) (reading c (c.frames.atIndex i))
        (store.reading c.lookback (c.frames.atIndex i)) e.selectors := by
    intro _ i
    obtain ⟨t, hcheck⟩ := exists_type_of_validate hvalid
    exact answers_recalling hreads hcheck i.2
  rw [evaluate_sameResult hanswer r]
  unfold evaluateBy
  rw [hvalid]
  change (Vector.ofFnM fun i : Fin c.frames.len =>
    store.valueAt c.lookback c.hash (c.frames.atIndex i) e) >>= _ = _ ↔ _
  rw [bind_eq_ok_iff]
  refine exists_congr fun steps => ?_
  rw [ofFnM_eq_ok_iff, and_comm]
  refine and_congr_left fun _ => ?_
  constructor
  · intro hok
    exact (Except.ok.inj hok).symm
  · rintro rfl
    rfl

end Stepwise

namespace Columnar

theorem readAs_store (hreads : c.ReadsFrom store e) (h : e.check = .ok t) :
    ReadAs c (fun i => store.reading c.lookback (c.frames.atIndex i)) e.selectors where
  latest _ hs := framewise_selectLatest hreads.gateway (Expr.selector_of_check h hs).1
    (hreads.fits _ hs) (hreads.lookback _ hs)
  windows _ _ hs := framewise_selectWindow hreads.gateway
    (Expr.selector_of_check h hs).1 (hreads.fits _ hs) (hreads.window_nonneg h hs)
  within _ _ _ _ := rfl

theorem evaluate_eq_ok_iff (hreads : c.ReadsFrom store e) (hvalid : c.validate e = .ok ())
    {r : QueryResult α} :
    (evaluate c e).outcome = .ok r ↔
      ∃ steps : Vector (Value α) c.frames.len, r = { frames := c.frames, steps } ∧
        ∀ i : Fin c.frames.len,
          store.valueAt c.lookback c.hash (c.frames.atIndex i) e = .ok (steps.get i) := by
  obtain ⟨t, hcheck⟩ := exists_type_of_validate hvalid
  have hcolumn := framewise_eval (readAs_store hreads hcheck) hcheck
  rw [outcome_evaluate, hvalid]
  change (eval c e).outcome >>= _ = _ ↔ _
  cases hout : (eval c e).outcome with
  | error err =>
    rw [hout] at hcolumn
    obtain ⟨i, err', herr⟩ := hcolumn
    refine iff_of_false (fun hok => ?_) ?_
    · cases hok
    · rintro ⟨steps, -, hsteps⟩
      cases herr.symm.trans (hsteps i)
  | ok column =>
    rw [hout] at hcolumn
    constructor
    · intro hok
      refine ⟨Vector.ofFn column.atFrame, (Except.ok.inj hok).symm, fun i => ?_⟩
      rw [vector_get_ofFn]
      exact hcolumn i
    · rintro ⟨steps, rfl, hsteps⟩
      have heq : Vector.ofFn column.atFrame = steps := by
        refine Vector.ext fun i hi => ?_
        rw [Vector.getElem_ofFn]
        exact Except.ok.inj ((hcolumn ⟨i, hi⟩).symm.trans (hsteps ⟨i, hi⟩))
      rw [← heq]
      rfl

end Columnar

/-- An evaluation succeeds exactly if the expression is valid and has a value at every frame, and
then it yields these values. -/
theorem Context.ReadsFrom.evaluate_eq_ok_iff (strategy : Strategy) (hreads : c.ReadsFrom store e)
    {r : QueryResult α} :
    (strategy.evaluate c e).outcome = .ok r ↔ c.validate e = .ok () ∧
      ∃ steps : Vector (Value α) c.frames.len, r = { frames := c.frames, steps } ∧
        ∀ i : Fin c.frames.len,
          store.valueAt c.lookback c.hash (c.frames.atIndex i) e = .ok (steps.get i) := by
  cases hvalid : c.validate e with
  | ok _ =>
    rw [eq_self_iff_true, true_and]
    cases strategy with
    | interpreter => exact Stepwise.evaluate_eq_ok_iff hreads hvalid
    | batch => exact Columnar.evaluate_eq_ok_iff hreads hvalid
  | error err =>
    refine iff_of_false (fun hok => ?_) ?_
    · cases strategy with
      | interpreter =>
        change (Stepwise.evaluate c e).outcome = _ at hok
        rw [Stepwise.outcome_evaluate, hvalid] at hok
        cases hok
      | batch =>
        change (Columnar.evaluate c e).outcome = _ at hok
        rw [Columnar.outcome_evaluate, hvalid] at hok
        cases hok
    · rintro ⟨hok, -⟩
      cases hok

theorem evaluate_eq_ok_iff (strategy : Strategy) (hserves : c.Serves store e)
    {r : QueryResult α} :
    (strategy.evaluate c e).outcome = .ok r ↔ c.validate e = .ok () ∧
      ∃ steps : Vector (Value α) c.frames.len, r = { frames := c.frames, steps } ∧
        ∀ i : Fin c.frames.len,
          store.valueAt c.lookback c.hash (c.frames.atIndex i) e = .ok (steps.get i) :=
  hserves.readsFrom.evaluate_eq_ok_iff strategy

end Reading

/-- Both evaluators succeed on the same expressions, and then with identical results. -/
theorem evaluators_agree (c : Context α) (store : Store α) (e : Expr α)
    (hgateway : c.gateway = store.gateway) (hlookback : 0 ≤ c.lookback) (hfits : c.AllFit e)
    (hnames : ∀ q ∈ e.selectors, q.1.NamesLabels) (r : QueryResult α) :
    (Strategy.interpreter.evaluate c e).outcome = .ok r ↔
      (Strategy.batch.evaluate c e).outcome = .ok r := by
  have hserves : c.Serves store e := ⟨hgateway, hlookback, hfits, hnames⟩
  rw [evaluate_eq_ok_iff _ hserves, evaluate_eq_ok_iff _ hserves]

theorem evaluators_agree_on_requests :
    ∃ r : QueryResult Binary64,
      (Strategy.interpreter.evaluate .requests .mostRequests).outcome = .ok r ∧
        (Strategy.batch.evaluate .requests .mostRequests).outcome = .ok r := by
  have hagree := evaluators_agree .requests .requests .mostRequests rfl (by decide) (by decide)
    (by decide)
  have hok : (Strategy.batch.evaluate .requests .mostRequests).outcome.isOk = true := by
    decide +kernel
  cases hbatch : (Strategy.batch.evaluate .requests .mostRequests).outcome with
  | error e =>
    rw [hbatch] at hok
    cases hok
  | ok r => exact ⟨r, (hagree r).2 hbatch, rfl⟩

end SeriesQuery
