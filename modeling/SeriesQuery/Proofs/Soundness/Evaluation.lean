import SeriesQuery.Proofs.Samples.Selection
import SeriesQuery.Proofs.Soundness.Columnar
import SeriesQuery.Proofs.Soundness.Stepwise
import SeriesQuery.Service

/-!
# Type soundness

The type check decides what an evaluation can end in. An expression that it refuses is refused by
both evaluators with the very fault that was found. An expression that it lets pass has values of
its type at all frames, unless series collide, do not pair up or an argument is outside its
domain.
-/

namespace SeriesQuery

variable {α : Type} [SampleValue α]

section Selectors

variable {c : Context α} {store : Store α} {s : Selector} {window : Int}

/-- What is true of every run of a step, whatever series it remembers. -/
def stepGuarantee (α : Type) : Guarantee (Step α) where
  Holds := fun {β} P x => ∀ cache : SelectorCache α,
    Settles (fun r : β × SelectorCache α => P r.1) (x cache).outcome
  pure h _ := h
  bind {_ _ _ Q x f} h hf cache := by
    change Settles _ (x cache >>= fun r => f r.1 r.2).outcome
    rw [Traced.outcome_bind]
    exact (h cache).bind fun r hr => hf r.1 hr r.2
  lift {_ _ x} h cache := by
    change Settles _ (Traced.ofExcept x >>= fun b => pure (b, cache)).outcome
    rw [Traced.outcome_bind, Traced.outcome_ofExcept]
    exact h.bind fun b hb => hb

namespace Stepwise

omit [SampleValue α] in
theorem holds_fetch (hgateway : c.gateway = store.gateway) (hmatchers : s.matchers ≠ [])
    (hfits : c.Fits s window) (hwindow : 0 ≤ window) {i : Nat} (hi : i < c.frames.len) :
    (stepGuarantee α).Holds (fun _ => True) (fetch c (c.frames.atIndex i) s window) := by
  intro cache
  by_cases hoffset : s.offset = 0
  · cases hkey : cache.get? (s.key window) with
    | some series =>
      rw [fetch_of_cached hoffset hkey]
      trivial
    | none =>
      rw [fetch_of_missing hoffset hkey,
        Context.fetch_span_eq_matching hgateway hmatchers hfits hwindow hoffset]
      trivial
  · have hfetch := Context.fetch_eq_matching hgateway hmatchers hfits hwindow (Nat.le_refl i) hi
    rw [fetch_of_offset hoffset, hfits.earlier_offset hwindow hi]
    change Settles _ ((c.fetch s window _ _).map _)
    rw [hfetch]
    trivial

omit [SampleValue α] in
theorem holds_earlier {t duration : Int} (h : Millis.InRange (t - duration)) :
    (stepGuarantee α).Holds (fun start => start = t - duration)
      (liftM (Millis.earlier t duration) : Step α Int) :=
  (stepGuarantee α).lift (Millis.earlier_of_inRange h ▸ rfl)

theorem holds_selectWindow {duration : Int} (hgateway : c.gateway = store.gateway)
    (hmatchers : s.matchers ≠ []) (hfits : c.Fits s duration) (hduration : 0 ≤ duration) {i : Nat}
    (hi : i < c.frames.len) :
    (stepGuarantee α).Holds (Seen (c.frames.atIndex i) s duration)
      (selectWindow c (c.frames.atIndex i) s duration) := by
  have hfinish := hfits.inRange_finish hduration hi
  have hstart := hfits.inRange_start hduration hi
  refine (stepGuarantee α).bind (holds_fetch hgateway hmatchers hfits hduration hi) fun series _ => ?_
  refine (stepGuarantee α).bind (holds_earlier hfinish) ?_
  rintro _ rfl
  refine (stepGuarantee α).bind (holds_earlier hstart) ?_
  rintro _ rfl
  refine (stepGuarantee α).pure ⟨_, Window.of_eq_ok_iff.2 ⟨hfinish, hstart, rfl⟩, fun e he => ?_⟩
  obtain ⟨x, -, hx⟩ := List.mem_filterMap.1 (SortedMap.mem_of_mem_ofList he)
  dsimp only at hx
  split at hx
  · cases hx
  · obtain rfl := Option.some.inj hx
    intro sample hsample
    have hinside := (List.mem_filter.1 hsample).2
    simp only [TimeRange.contains, Bool.and_eq_true, decide_eq_true_eq] at hinside
    exact hinside.1

theorem answered (hgateway : c.gateway = store.gateway) (hlookback : 0 ≤ c.lookback)
    {selectors : List (Selector × Option Int)}
    (hfits : ∀ q ∈ selectors, c.Fits q.1 (c.windowOf q.2)) {i : Nat} (hi : i < c.frames.len) :
    Answered (stepGuarantee α) (reading c (c.frames.atIndex i)) (Seen (c.frames.atIndex i))
      selectors where
  latest s hs hmatchers := by
    have hfit : c.Fits s c.lookback := hfits _ hs
    have hfetch := holds_fetch hgateway hmatchers hfit hlookback hi
    refine (stepGuarantee α).bind hfetch fun _ _ => ?_
    refine (stepGuarantee α).bind (holds_earlier (hfit.inRange_finish hlookback hi)) ?_
    rintro _ rfl
    refine (stepGuarantee α).bind (holds_earlier (hfit.inRange_start hlookback hi)) ?_
    exact fun start _ => (stepGuarantee α).pure trivial
  windows s duration hs hmatchers hduration :=
    holds_selectWindow hgateway hmatchers (hfits _ hs) (Int.le_of_lt hduration) hi
  within name _ h cache := h cache

theorem allReduce {e : Expr α} (hd : e.DifferencesFit) (t : Int) :
    AllReduce (stepGuarantee α) t (Seen t) e :=
  fun f args s duration hwithin hkind hget _ params hseen => (stepGuarantee α).lift
    (settles_reduceWindows (hd f args s duration hwithin hkind hget) hseen params)

end Stepwise

namespace Columnar

theorem covers_window {w : Window} {offset : Int} {frames : TimeFrames}
    {stored : SortedMap Int α} {range : TimeRange} {row : WindowRow α frames.len} {i : Fin frames.len}
    (hw : Window.of (frames.atIndex i) window offset = .ok w) (hwindow : 0 ≤ window)
    (h : (Store.fetched? stored range).bind (keptWindows frames offset window) = some row) :
    w.Covers (row.window i) := by
  obtain ⟨samples, hfetched, hkept⟩ := Option.bind_eq_some_iff.1 h
  have horder : InOrder samples.toList := by
    unfold Store.fetched? at hfetched
    split at hfetched
    · cases hfetched
    · obtain rfl := Option.some.inj hfetched
      exact Store.inOrder_samplesIn stored range
  unfold keptWindows at hkept
  dsimp only at hkept
  split at hkept
  · obtain rfl := Option.some.inj hkept
    obtain ⟨-, -, rfl⟩ := Window.of_eq_ok_iff.1 hw
    intro sample hsample
    rw [window_countedRow horder hwindow i] at hsample
    simpa using (List.mem_filter.1 hsample).2
  · cases hkept

theorem answered (hgateway : c.gateway = store.gateway) (hlookback : 0 ≤ c.lookback)
    {selectors : List (Selector × Option Int)}
    (hfits : ∀ q ∈ selectors, c.Fits q.1 (c.windowOf q.2)) : Answered c selectors where
  latest s hs hmatchers := by
    rw [selectLatest_eq hgateway hmatchers (hfits _ hs) hlookback]
    rfl
  windows s duration hs hmatchers hduration := by
    have hfit : c.Fits s duration := hfits _ hs
    have hnonneg : 0 ≤ duration := Int.le_of_lt hduration
    rw [selectWindow_eq hgateway hmatchers hfit hnonneg]
    refine ⟨_, rfl, fun i => ?_⟩
    obtain ⟨w, hw⟩ := hfit.exists_window hnonneg i.2
    refine ⟨w, hw, fun e he => ?_⟩
    have hget := SortedMap.get?_eq_some_iff.2 he
    rw [Store.get?_select] at hget
    split at hget
    · obtain ⟨stored, -, hrow⟩ := Option.bind_eq_some_iff.1 hget
      exact covers_window hw hnonneg hrow
    · cases hget

end Columnar

end Selectors

theorem validate_eq_error {c : Context α} {e : Expr α} {fault : TypeFault}
    (h : e.check = .error fault) : c.validate e = .error (.typeMismatch fault) := by
  unfold Context.validate
  rw [h]
  rfl

theorem validate_eq_ok {c : Context α} {e : Expr α} {t : ValueType} (h : e.check = .ok t)
    (hmatrix : t = .matrix → c.frames.isInstant = true) (hexpired : c.expired = false) :
    c.validate e = .ok () := by
  unfold Context.validate
  rw [h, hexpired]
  change (if _ then _ else _ : Except QueryError Unit) = _
  rw [if_neg]
  · rfl
  · rintro ⟨ht, hinstant⟩
    rw [hmatrix ht] at hinstant
    cases hinstant

def HasType (c : Context α) (t : ValueType) (r : QueryResult α) : Prop :=
  r.frames = c.frames ∧ r.steps.toList.length = c.frames.len ∧
    ∀ v ∈ r.steps.toList, v.valueType = t

omit [SampleValue α] in
theorem hasType_of_steps {c : Context α} {t : ValueType} {steps : Vector (Value α) c.frames.len}
    (h : ∀ i, (steps.get i).valueType = t) :
    HasType c t { frames := c.frames, steps } := by
  refine ⟨rfl, by simp, fun v hv => ?_⟩
  obtain ⟨i, hi, rfl⟩ := List.getElem_of_mem hv
  rw [Vector.length_toList] at hi
  exact h ⟨i, hi⟩

namespace Columnar

theorem outcome_evaluate (c : Context α) (e : Expr α) :
    (evaluate c e).outcome = (do
      c.validate e
      let column ← (eval c e).outcome
      return { frames := c.frames, steps := Vector.ofFn column.atFrame }) := by
  unfold evaluate
  simp only [Traced.outcome_withSpan, Traced.outcome_bind, Traced.outcome_ofExcept]
  rfl

omit [SampleValue α] in
theorem valueType_atFrame {n : Nat} (x : Column α n) (i : Fin n) :
    (x.atFrame i).valueType = x.valueType := by
  cases x <;> rfl

theorem settles_evaluate {c : Context α} {e : Expr α} {t : ValueType}
    (hvalid : c.validate e = .ok ()) (hc : Answered c e.selectors) (hd : e.DifferencesFit)
    (h : e.check = .ok t) : Settles (HasType c t) (evaluate c e).outcome := by
  rw [outcome_evaluate, hvalid]
  refine (settles_eval hc hd h).bind fun x hx => hasType_of_steps fun i => ?_
  rw [vector_get_ofFn, valueType_atFrame, hx]

end Columnar

namespace Stepwise

theorem outcome_evaluate (c : Context α) (e : Expr α) :
    (evaluate c e).outcome = (do
      c.validate e
      let run ← ((Vector.ofFnM fun i : Fin c.frames.len =>
        evalAt c (c.frames.atIndex i) e) SortedMap.empty).outcome
      return { frames := c.frames, steps := run.1 }) := by
  unfold evaluate
  simp only [Traced.outcome_withSpan, Traced.outcome_bind, Traced.outcome_ofExcept]
  rfl

theorem settles_evaluate {c : Context α} {e : Expr α} {t : ValueType}
    (hvalid : c.validate e = .ok ())
    (hc : ∀ i, i < c.frames.len →
      Answered (stepGuarantee α) (reading c (c.frames.atIndex i)) (Seen (c.frames.atIndex i))
        e.selectors)
    (hd : e.DifferencesFit) (h : e.check = .ok t) : Settles (HasType c t) (evaluate c e).outcome := by
  have hsteps : (stepGuarantee α).Holds
      (fun v : Vector (Value α) c.frames.len => ∀ i, (v.get i).valueType = t)
      (Vector.ofFnM fun i : Fin c.frames.len => evalAt c (c.frames.atIndex i) e) :=
    (stepGuarantee α).ofFnM (P := fun v : Value α => v.valueType = t)
      fun i cache => holds_eval c.hash (hc i i.2) (allReduce hd _) h cache
  rw [outcome_evaluate, hvalid]
  exact (hsteps .empty).bind fun run hrun => hasType_of_steps hrun

end Stepwise

/-- The type check is sound. An expression has the type that is found, and both evaluators yield
values of this type at all frames unless the data forbid it; what the check refuses, both refuse
with the fault that it found. -/
theorem evaluate_sound (strategy : Strategy) (c : Context α) (e : Expr α) :
    (∀ t, e.check = .ok t → e.valueType = t ∧
      ∀ store : Store α, c.gateway = store.gateway → 0 ≤ c.lookback → c.AllFit e →
        e.DifferencesFit → c.expired = false → (t = .matrix → c.frames.isInstant = true) →
        Settles (HasType c t) (strategy.evaluate c e).outcome) ∧
      ∀ fault, e.check = .error fault →
        (strategy.evaluate c e).outcome = .error (.typeMismatch fault) := by
  constructor
  · intro t h
    refine ⟨Expr.valueType_eq_of_check h, ?_⟩
    intro store hgateway hlookback hfits hd hexpired hmatrix
    have hvalid := validate_eq_ok h hmatrix hexpired
    cases strategy with
    | interpreter =>
      refine Stepwise.settles_evaluate hvalid (fun i hi => ?_) hd h
      exact Stepwise.answered hgateway hlookback hfits hi
    | batch =>
      exact Columnar.settles_evaluate hvalid (Columnar.answered hgateway hlookback hfits) hd h
  · intro fault h
    cases strategy with
    | interpreter =>
      change (Stepwise.evaluate c e).outcome = _
      rw [Stepwise.outcome_evaluate, validate_eq_error h]
      rfl
    | batch =>
      change (Columnar.evaluate c e).outcome = _
      rw [Columnar.outcome_evaluate, validate_eq_error h]
      rfl

theorem evaluate_sound_on_requests :
    Expr.mostRequests.valueType = .vector ∧
      Settles (HasType .requests .vector)
        (Strategy.interpreter.evaluate .requests .mostRequests).outcome ∧
      (Strategy.interpreter.evaluate .requests (.negate (.string "requests"))).outcome =
        .error (.typeMismatch (.negated .string)) := by
  obtain ⟨hvalid, -⟩ := evaluate_sound .interpreter .requests .mostRequests
  obtain ⟨-, hfault⟩ := evaluate_sound .interpreter .requests (.negate (.string "requests"))
  obtain ⟨htype, hsettles⟩ := hvalid .vector rfl
  have hdifferences : Expr.mostRequests.DifferencesFit := by
    rintro f args s duration (_ | _ | _ | _ | (_ | _))
  refine ⟨htype, ?_, hfault _ rfl⟩
  exact hsettles .requests rfl (by decide) (by decide) hdifferences rfl nofun

end SeriesQuery
