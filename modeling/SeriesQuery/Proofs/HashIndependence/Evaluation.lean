import SeriesQuery.Proofs.Series.Rows
import SeriesQuery.Proofs.Simulation
import SeriesQuery.Proofs.Soundness.Evaluation

/-!
# Evaluation under another hash

Both evaluators have the same result under every hash. Column by column only the operators that
key or group elements look at the hash; timestamp by timestamp the two evaluations also remember
the same series.
-/

namespace SeriesQuery

variable {α : Type} [SampleValue α]

namespace Columnar

section Operators

variable {n : Nat} (hash hash' : LabelHash)

omit [SampleValue α] in
theorem stepwise_congr {step step' : Fin n → Except QueryError (SeriesMap α)}
    (h : ∀ i, SameResult (step i) (step' i)) : SameResult (stepwise step) (stepwise step') := by
  unfold stepwise
  exact (SameResult.ofFnM h).bind fun steps => .refl _

theorem binary_hash (op : BinaryOp) (matching : VectorMatching) (toBool : Bool)
    (l r : Column α n) :
    SameResult (binary hash op matching toBool l r) (binary hash' op matching toBool l r) := by
  cases l with
  | vector l =>
    cases r with
    | vector r =>
      refine stepwise_congr fun i => ?_
      rw [present_keyed, present_keyed, present_keyed, present_keyed]
      exact combineVectors_hash hash hash' op matching toBool _ _ _
    | _ => exact .refl _
  | _ => cases r <;> exact .refl _

theorem aggregate_hash (op : AggregateOp) (grouping : Grouping) (param : Option (Column α n))
    (operand : Column α n) :
    SameResult (aggregate hash op grouping param operand)
      (aggregate hash' op grouping param operand) := by
  unfold aggregate
  refine SameResult.bind (.refl _) fun rows => SameResult.bind (.refl _) fun params => ?_
  refine stepwise_congr fun i => collect_perm ?_
  exact (groupElements_perm hash grouping.filter hash' rows.toList).flatMap_right _

end Operators

theorem callValues_congr {frames : TimeFrames} {f : Function}
    (h : ¬(f = .labelReplace ∨ f = .labelJoin)) (exprs : List (Expr α)) {ι : Type}
    {l : List ι} {x y : ι → Traced (Column α frames.len)}
    (hargs : ∀ a ∈ l, SameResult (x a).outcome (y a).outcome) :
    SameResult (call frames f exprs (l.map x)).outcome
      (call frames f exprs (l.map y)).outcome := by
  rw [outcome_call frames h, outcome_call frames h, List.mapM_map, List.mapM_map]
  exact (SameResult.mapM hargs).bind fun values => .refl _

theorem eval_hash (c : Context α) (hash : LabelHash) (e : Expr α) :
    SameResult (eval c e).outcome (eval { c with hash } e).outcome := by
  induction e with
  | number v =>
    rw [eval, eval]
    exact .refl _
  | string text =>
    rw [eval, eval]
    exact .refl _
  | selector s =>
    rw [eval, eval]
    exact .refl (selectLatest c s)
  | range s duration =>
    rw [eval, eval]
    exact .refl (selectWindow c s duration)
  | negate e ih =>
    simp only [eval, Traced.outcome_withSpan, Traced.outcome_bind]
    exact ih.bind fun x => .refl _
  | binary op left right matching toBool ihl ihr =>
    simp only [eval, Traced.outcome_withSpan, Traced.outcome_bind]
    exact ihl.bind fun x => ihr.bind fun y => binary_hash c.hash hash op matching toBool x y
  | aggregate op e param grouping ih ihp =>
    have hparam : SameResult (evalParam c param).outcome
        (evalParam { c with hash } param).outcome := by
      cases param with
      | none => exact .refl _
      | some p =>
        rw [evalParam, evalParam, Traced.outcome_map, Traced.outcome_map]
        exact (ihp p rfl).map some
    simp only [eval, Traced.outcome_withSpan, Traced.outcome_bind]
    exact hparam.bind fun p => ih.bind fun x => aggregate_hash c.hash hash op grouping p x
  | call f args ih =>
    simp only [eval, Traced.outcome_withSpan]
    rw [evalArgs_eq_map, evalArgs_eq_map]
    by_cases hrelabel : f = .labelReplace ∨ f = .labelJoin
    · unfold call
      rw [if_pos hrelabel, if_pos hrelabel, outcome_relabel, outcome_relabel]
      refine SameResult.bind (.refl _) fun change => ?_
      cases args with
      | nil =>
        rw [List.map_nil, List.map_nil]
        exact .refl _
      | cons a rest =>
        rw [List.map_cons, List.map_cons, List.headD_cons, List.headD_cons]
        exact (ih a (.head _)).bind fun x => .refl _
    · exact callValues_congr hrelabel args ih

theorem evaluate_hash (c : Context α) (hash : LabelHash) (e : Expr α) :
    SameResult (evaluate c e).outcome (evaluate { c with hash } e).outcome := by
  rw [outcome_evaluate, outcome_evaluate]
  exact SameResult.bind (.refl _) fun _ => (eval_hash c hash e).bind fun column => .refl _

end Columnar

namespace Stepwise

/-- Steps that have the same result and remember the same series, whatever they remembered
before. -/
def sameSteps (α : Type) : Simulation (Step α) (Step α) where
  Related x y := ∀ cache, SameResult (x cache).outcome (y cache).outcome
  pure b cache := .refl _
  bind {_ _ x y f g} h hf cache := by
    change SameResult (x cache >>= fun r => f r.1 r.2).outcome
      (y cache >>= fun r => g r.1 r.2).outcome
    rw [Traced.outcome_bind, Traced.outcome_bind]
    exact (h cache).bind fun r => hf r.1 r.2
  lift {_ x y} h cache := by
    change SameResult (Traced.ofExcept x >>= fun b => pure (b, cache)).outcome
      (Traced.ofExcept y >>= fun b => pure (b, cache)).outcome
    rw [Traced.outcome_bind, Traced.outcome_bind]
    exact h.bind fun b => .refl _

theorem evalAt_hash (c : Context α) (hash : LabelHash) (t : Int) (e : Expr α) :
    (sameSteps α).Related (evalAt c t e) (evalAt { c with hash } t e) := by
  have hanswers : Answers (sameSteps α) (reading c t) (reading { c with hash } t) e.selectors :=
    ⟨fun s _ cache => .refl _, fun s duration _ cache => .refl _, fun name _ _ h cache => h cache⟩
  exact hanswers.within "step" (related_eval (sameSteps α) c.hash hash t hanswers)

theorem evaluate_hash (c : Context α) (hash : LabelHash) (e : Expr α) :
    SameResult (evaluate c e).outcome (evaluate { c with hash } e).outcome := by
  have hsteps : (sameSteps α).Related
      (Vector.ofFnM fun i : Fin c.frames.len => evalAt c (c.frames.atIndex i) e)
      (Vector.ofFnM fun i : Fin c.frames.len => evalAt { c with hash } (c.frames.atIndex i) e) :=
    (sameSteps α).ofFnM fun i => evalAt_hash c hash _ e
  rw [outcome_evaluate, outcome_evaluate]
  exact SameResult.bind (.refl _) fun _ => (hsteps .empty).bind fun run => .refl _

end Stepwise

/-- What an evaluation yields does not depend on the hash, even if label sets collide. -/
theorem hash_independent (strategy : Strategy) (c : Context α) (hash : LabelHash)
    (e : Expr α) (r : QueryResult α) :
    (strategy.evaluate c e).outcome = .ok r ↔
      (strategy.evaluate { c with hash } e).outcome = .ok r := by
  cases strategy with
  | interpreter => exact Stepwise.evaluate_hash c hash e r
  | batch => exact Columnar.evaluate_hash c hash e r

end SeriesQuery
