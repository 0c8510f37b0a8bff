import SeriesQuery.Proofs.HashIndependence.Evaluation
import SeriesQuery.Proofs.PerSeries.Steps

/-!
# Expressions with the same values

Two expressions of one type that have the same values at every frame have the same results,
whichever evaluator finds them.
-/

namespace SeriesQuery

variable {α : Type} [SampleValue α] {c : Context α} {e e' : Expr α}

/-- Expressions of one type are evaluated or refused together. -/
theorem SameResult.after_validate {β : Type} {found found' : Except QueryError β}
    (hcheck : SameResult e.check e'.check)
    (h : ∀ t, e.check = .ok t → SameResult found found') :
    SameResult (c.validate e >>= fun _ => found) (c.validate e' >>= fun _ => found') := by
  have hvalidate : SameResult (c.validate e) (c.validate e') := by
    unfold Context.validate
    refine SameResult.bind (fun t => ?_) fun t => .refl _
    rw [mapError_eq_ok_iff, mapError_eq_ok_iff]
    exact hcheck t
  rcases hvalidate.cases with ⟨u, hvalid, hvalid'⟩ | ⟨⟨err, herr⟩, err', herr'⟩
  · obtain ⟨t, ht, -⟩ := bind_eq_ok_iff.1 hvalid
    rw [hvalid, hvalid']
    exact h t (mapError_eq_ok_iff.1 ht)
  · rw [herr, herr']
    exact fun _ => iff_of_false nofun nofun

theorem Stepwise.sameResult_evaluate (hcheck : SameResult e.check e'.check)
    (h : ∀ t, e.check = .ok t → ∀ time cache,
      SameResult (valueAt c time e cache).outcome (valueAt c time e' cache).outcome) :
    SameResult (evaluate c e).outcome (evaluate c e').outcome := by
  rw [outcome_evaluate, outcome_evaluate]
  refine hcheck.after_validate fun t ht => ?_
  have hsteps : (sameSteps α).Related
      (Vector.ofFnM fun i : Fin c.frames.len => evalAt c (c.frames.atIndex i) e)
      (Vector.ofFnM fun i : Fin c.frames.len => evalAt c (c.frames.atIndex i) e') :=
    (sameSteps α).ofFnM fun i cache => h t ht _ cache
  exact (hsteps .empty).bind fun run => .refl _

theorem Columnar.sameResult_evaluate (hcheck : SameResult e.check e'.check)
    (h : ∀ t, e.check = .ok t → Alike (fun x x' => ∀ i, x.atFrame i = x'.atFrame i)
      (eval c e).outcome (eval c e').outcome) :
    SameResult (evaluate c e).outcome (evaluate c e').outcome := by
  rw [outcome_evaluate, outcome_evaluate]
  refine hcheck.after_validate fun t ht => ?_
  refine Alike.eq_iff.1 ((h t ht).bind fun x x' hx => ?_)
  rw [funext hx]
  exact rfl

end SeriesQuery
