import SeriesQuery.Proofs.PerSeries.Columns
import SeriesQuery.Proofs.PerSeries.Steps
import SeriesQuery.Proofs.Soundness.Stepwise

/-!
# Types of results

What a checked expression evaluates to has the type that was found, whatever the gateway answers.
Here it does not matter how an evaluation fails, so nothing is asked of the selectors.
-/

namespace SeriesQuery

variable {α β γ : Type}

/-- A result has a property. Nothing is said about failures. -/
def Yields (P : β → Prop) (x : Except QueryError β) : Prop := ∀ b, x = .ok b → P b

theorem Settles.yields {P : β → Prop} {x : Except QueryError β} (h : Settles P x) :
    Yields P x := by
  rintro b rfl
  exact h

theorem Yields.bind {P : β → Prop} {Q : γ → Prop} {x : Except QueryError β}
    {f : β → Except QueryError γ} (h : Yields P x) (hf : ∀ b, P b → Yields Q (f b)) :
    Yields Q (x >>= f) := by
  intro c hc
  obtain ⟨b, hb, hfb⟩ := bind_eq_ok_iff.1 hc
  exact hf b (h b hb) c hfb

variable [SampleValue α]

namespace Stepwise

def stepResults (α : Type) : Guarantee (Step α) where
  Holds := fun {β} P x => ∀ cache : SelectorCache α,
    Yields (fun r : β × SelectorCache α => P r.1) (x cache).outcome
  pure h _ _ hr := by
    cases hr
    exact h
  bind {_ _ _ Q x f} h hf cache := by
    rw [Step.outcome_bind]
    exact (h cache).bind fun r hr => hf r.1 hr r.2
  lift {_ P x} h cache := by
    rw [Step.outcome_lift]
    exact (h.map (f := (·, cache)) (Q := fun r => P r.1) fun _ hb => hb).yields

theorem yields_reduceWindows (t : Int) (f : Function) (offset duration : Int)
    (series : SeriesMap (List (Sample α))) (params : List α) :
    Yields (fun y => y.valueType = .vector) (reduceWindows t f offset duration series params) := by
  intro y hy
  obtain ⟨w, -, hy⟩ := bind_eq_ok_iff.1 hy
  obtain ⟨out, -, rfl⟩ := map_eq_ok_iff.1 hy
  rfl

/-- The value of a checked expression has the type that was found. -/
theorem yields_valueAt (c : Context α) (time : Int) {e : Expr α} {t : ValueType}
    (h : e.check = .ok t) (cache : SelectorCache α) :
    Yields (fun r => r.1.valueType = t) (valueAt c time e cache).outcome := by
  have hanswered : Answered (stepResults α) (reading c time) (fun _ _ _ => True) e.selectors :=
    ⟨fun _ _ _ _ _ _ => trivial, fun _ _ _ _ _ _ _ _ => trivial, fun _ _ h cache => h cache⟩
  have hreduce : AllReduce (stepResults α) time (fun _ _ _ => True) e := by
    intro f args s duration _ _ _ series params _ cache r hr
    rw [Step.outcome_lift] at hr
    obtain ⟨y, hy, rfl⟩ := map_eq_ok_iff.1 hr
    exact yields_reduceWindows time f s.offset duration series params y hy
  exact holds_eval c.hash hanswered hreduce h cache

end Stepwise

namespace Columnar

theorem yields_callWindow (frames : TimeFrames) (f : Function)
    (values : List (Column α frames.len)) :
    Yields (fun y => y.valueType = .vector) (callWindow frames f values) := by
  intro y hy
  obtain ⟨scalars, -, hy⟩ := bind_eq_ok_iff.1 hy
  obtain ⟨-, -, hy⟩ := bind_eq_ok_iff.1 hy
  obtain ⟨x, -, hy⟩ := bind_eq_ok_iff.1 hy
  cases x with
  | matrix rows range offset =>
    obtain ⟨out, -, rfl⟩ := map_eq_ok_iff.1 hy
    rfl
  | _ => cases hy

theorem yields_callValues (frames : TimeFrames) {f : Function}
    (hrelabel : ¬(f = .labelReplace ∨ f = .labelJoin)) {exprs : List (Expr α)}
    (hexprs : Expr.ArgsFit f exprs) {values : List (Column α frames.len)}
    (h : ColumnsFit f values) :
    Yields (fun y => y.valueType = f.signature.result) (callValues frames f exprs values) := by
  by_cases hkind : f.kind = .window
  · unfold callValues
    rw [hkind, (Function.window_signature hkind).2.2.1]
    exact yields_callWindow frames f values
  · exact (settles_callValues frames hrelabel hexprs h fun h => absurd h hkind).yields

/-- The column of a call has the type of its results if its arguments have their types. -/
theorem yields_call (frames : TimeFrames) {f : Function} {exprs : List (Expr α)}
    (hexprs : Expr.ArgsFit f exprs) {column : Expr α → Traced (Column α frames.len)}
    (hcolumn : ∀ a ∈ exprs, ∀ t, a.check = .ok t →
      Yields (fun x => x.valueType = t) (column a).outcome) :
    Yields (fun y => y.valueType = f.signature.result)
      (call frames f exprs (exprs.map column)).outcome := by
  by_cases hrelabel : f = .labelReplace ∨ f = .labelJoin
  · obtain ⟨hrequired, hresult, hvector, -⟩ := Function.relabel_signature hrelabel
    unfold call
    rw [if_pos hrelabel, hresult, outcome_relabel]
    cases exprs with
    | nil =>
      have hnone : f.signature.required ≤ 0 := hexprs.required
      omega
    | cons a rest =>
      have ha : a.check = .ok .vector := hvector ▸ hexprs.types (k := 0) rfl
      refine (Expr.settles_relabeling hrelabel hexprs).yields.bind fun change _ => ?_
      refine (hcolumn a (.head _) _ ha).bind fun x hx => ?_
      exact (settles_rowsOf hx).yields.bind fun rows _ => (settles_mapElements _ _ rows).yields
  · rw [outcome_call frames hrelabel, List.mapM_map]
    intro y hy
    obtain ⟨values, hvalues, hy⟩ := bind_eq_ok_iff.1 hy
    have hall := mapM_eq_ok_iff.1 hvalues
    refine yields_callValues frames hrelabel hexprs ?_ y hy
    refine ⟨hall.length_eq ▸ hexprs.required, fun hvariadic => ?_, fun {k x} hx => ?_⟩
    · exact hall.length_eq ▸ hexprs.atMost hvariadic
    · obtain ⟨a, ha, hax⟩ := exists_of_forall₂ hall hx
      exact hcolumn a (List.mem_of_getElem? ha) _ (hexprs.types ha) x hax

/-- The column of a checked expression has the type that was found. -/
theorem yields_eval (c : Context α) {e : Expr α} {t : ValueType} (h : e.check = .ok t) :
    Yields (fun y => y.valueType = t) (eval c e).outcome := by
  induction e generalizing t with
  | number v =>
    cases h
    exact fun _ hx => by cases hx; rfl
  | string text =>
    cases h
    exact fun _ hx => by cases hx; rfl
  | selector s =>
    obtain ⟨-, rfl⟩ := Expr.check_selector_ok h
    intro x hx
    obtain ⟨rows, rfl⟩ := eq_vector_of_selectLatest hx
    rfl
  | range s duration =>
    obtain ⟨-, -, rfl⟩ := Expr.check_range_ok h
    intro x hx
    obtain ⟨rows, rfl⟩ := eq_matrix_of_selectWindow hx
    rfl
  | negate e ih =>
    obtain ⟨he, ht⟩ := Expr.check_negate_ok h
    rw [eval, Traced.outcome_withSpan, Traced.outcome_bind]
    exact (ih he).bind fun x hx => (settles_negate hx ht).yields
  | binary op left right matching toBool ihl ihr =>
    obtain ⟨lt, rt, hl, hr, hlt, hrt, rfl⟩ := Expr.check_binary_ok h
    simp only [eval, Traced.outcome_withSpan, Traced.outcome_bind, Traced.outcome_ofExcept]
    refine (ihl hl).bind fun x hx => (ihr hr).bind fun y hy => ?_
    subst hx hy
    exact (settles_binary c.hash op matching toBool hlt hrt).yields
  | aggregate op e param grouping ih ihp =>
    obtain ⟨-, -, rfl⟩ := Expr.check_aggregate_ok h
    simp only [eval, Traced.outcome_withSpan, Traced.outcome_bind, Traced.outcome_ofExcept]
    intro y hy
    obtain ⟨p, -, hy⟩ := bind_eq_ok_iff.1 hy
    obtain ⟨x, -, hy⟩ := bind_eq_ok_iff.1 hy
    obtain ⟨rows, -, hy⟩ := bind_eq_ok_iff.1 hy
    obtain ⟨params, -, hy⟩ := bind_eq_ok_iff.1 hy
    obtain ⟨steps, -, hy⟩ := bind_eq_ok_iff.1 hy
    cases hy
    rfl
  | call f args ih =>
    obtain ⟨hargs, rfl⟩ := Expr.check_call_ok h
    rw [eval, Traced.outcome_withSpan, evalArgs_eq_map]
    exact yields_call c.frames hargs fun a ha t ht => ih a ha ht

end Columnar

end SeriesQuery
