import SeriesQuery.Proofs.Forgetting
import SeriesQuery.Proofs.FramesInWords
import SeriesQuery.Proofs.NeededAnswers
import SeriesQuery.Proofs.PerSeries.Steps
import SeriesQuery.Proofs.Agreement
import SeriesQuery.Proofs.Samples.History

/-!
# Times that a query looks at

An evaluation subtracts the offset of a selector from a timestamp, and its window from the result.
The frames, the lookback and the numbers of an expression are sixty-four-bit integers, but the
differences need not be. Where all of them are, every interval is the exact one. Where one of them
is not, the selector cannot be answered at all, and nothing is asked for in its place.
-/

namespace SeriesQuery

variable {α : Type}

theorem Millis.earlier_of_not_inRange {t duration : Int} (h : ¬InRange (t - duration)) :
    earlier t duration = .error (.overflow .subtraction) := by
  unfold earlier minus
  rw [if_neg h]
  rfl

theorem Window.of_of_not_inRange {t range offset : Int}
    (h : ¬(Millis.InRange (t - offset) ∧ Millis.InRange (t - offset - range))) :
    Window.of t range offset = .error .subtraction := by
  unfold Window.of Millis.minus
  by_cases hfinish : Millis.InRange (t - offset)
  · have hstart : ¬Millis.InRange (t - offset - range) := fun hstart => h ⟨hfinish, hstart⟩
    simp only [if_pos hfinish, if_neg hstart, bind, Except.bind]
  · simp only [if_neg hfinish, bind, Except.bind]

/-- Frames of an instant or of a range of sixty-four-bit times. -/
inductive TimeFrames.Built : TimeFrames → Prop
  | instant {t : Int} (h : Millis.InRange t) : Built (.instant t)
  | range {start finish step : Int} {f : TimeFrames} (hstart : Millis.InRange start)
      (hfinish : Millis.InRange finish) (h : range start finish step = .ok f) : Built f

theorem TimeFrames.Built.inRange_last {f : TimeFrames} (h : f.Built) : Millis.InRange f.last := by
  cases h with
  | instant h => simpa [last, atIndex, TimeFrames.instant] using h
  | range hstart hfinish h =>
    exact atIndex_inRange_of_range h hstart hfinish (Nat.sub_lt f.len_pos Nat.one_pos)

namespace Context

/-- No subtraction overflows, neither that of an offset from a timestamp nor that of a window or
the lookback from the result. -/
def NoOverflow (c : Context α) (e : Expr α) : Prop :=
  ∀ q ∈ e.selectors, ∀ t ∈ c.frames.toList,
    Millis.InRange (t - q.1.offset) ∧ Millis.InRange (t - q.1.offset - c.windowOf q.2)

instance (c : Context α) (e : Expr α) : Decidable (c.NoOverflow e) :=
  inferInstanceAs (Decidable (∀ q ∈ e.selectors, ∀ t ∈ c.frames.toList, _))

/-- The gateway is asked for exact intervals, column by column and timestamp by timestamp, and
samples are cut off at exact times. -/
structure LooksExactly (c : Context α) (e : Expr α) : Prop where
  column : ∀ q ∈ e.selectors, Columnar.fetch c q.1 (c.windowOf q.2) =
    (c.gateway.query q.1.matchers
      ⟨c.frames.first - q.1.offset - c.windowOf q.2, c.frames.last - q.1.offset⟩).mapError .gateway
  step : ∀ q ∈ e.selectors, ∀ t ∈ c.frames.toList, c.queryFor t q.1 (c.windowOf q.2) =
    (c.gateway.query q.1.matchers
      (if q.1.offset = 0 then ⟨c.frames.first - c.windowOf q.2, c.frames.last⟩
      else ⟨t - q.1.offset - c.windowOf q.2, t - q.1.offset⟩)).mapError .gateway
  window : ∀ q ∈ e.selectors, ∀ t ∈ c.frames.toList, Window.of t (c.windowOf q.2) q.1.offset =
    .ok ⟨t - q.1.offset - c.windowOf q.2, t - q.1.offset, t, c.windowOf q.2⟩

/-- A selector overflows in both evaluators, before the gateway is asked, and its window has no
bounds. -/
structure Overflows (c : Context α) (q : Selector × Option Int) : Prop where
  column : Columnar.fetch c q.1 (c.windowOf q.2) = .error (.overflow .subtraction)
  step : ∃ t ∈ c.frames.toList,
    c.queryFor t q.1 (c.windowOf q.2) = .error (.overflow .subtraction)
  window : ∃ t ∈ c.frames.toList, Window.of t (c.windowOf q.2) q.1.offset = .error .subtraction

variable {c : Context α} {e : Expr α} {q : Selector × Option Int}

theorem first_mem (c : Context α) : c.frames.first ∈ c.frames.toList :=
  c.frames.mem_toList_iff.2 ⟨⟨0, c.frames.len_pos⟩, c.first_eq.symm⟩

theorem last_mem (c : Context α) : c.frames.last ∈ c.frames.toList :=
  c.frames.mem_toList_iff.2 ⟨⟨c.frames.len - 1, Nat.sub_lt c.frames.len_pos Nat.one_pos⟩, rfl⟩

theorem fits_iff {s : Selector} {window : Int} (hwindow : 0 ≤ window) :
    c.Fits s window ↔ ∀ t ∈ c.frames.toList,
      Millis.InRange (t - s.offset) ∧ Millis.InRange (t - s.offset - window) := by
  constructor
  · intro h t ht
    obtain ⟨i, rfl⟩ := c.frames.mem_toList_iff.1 ht
    exact ⟨h.inRange_finish hwindow i.2, h.inRange_start hwindow i.2⟩
  · intro h
    exact ⟨(h _ c.first_mem).2, (h _ c.last_mem).1⟩

theorem noOverflow_iff (hwindows : ∀ q ∈ e.selectors, 0 ≤ c.windowOf q.2) :
    c.NoOverflow e ↔ c.AllFit e :=
  forall₂_congr fun q hq => (fits_iff (hwindows q hq)).symm

theorem NoOverflow.looksExactly (h : c.NoOverflow e) : c.LooksExactly e := by
  have hoffset {q} (hq : q ∈ e.selectors) {t : Int} (ht : t ∈ c.frames.toList) :
      Millis.earlier t q.1.offset = .ok (t - q.1.offset) :=
    Millis.earlier_of_inRange (h q hq t ht).1
  have hwindow {q} (hq : q ∈ e.selectors) {t : Int} (ht : t ∈ c.frames.toList) :
      Millis.earlier (t - q.1.offset) (c.windowOf q.2) = .ok (t - q.1.offset - c.windowOf q.2) :=
    Millis.earlier_of_inRange (h q hq t ht).2
  refine ⟨fun q hq => ?_, fun q hq t ht => ?_, fun q hq t ht => ?_⟩
  · unfold Columnar.fetch fetch
    rw [hoffset hq c.first_mem, hoffset hq c.last_mem]
    change Millis.earlier (c.frames.first - q.1.offset) _ >>= _ = _
    rw [hwindow hq c.first_mem]
    rfl
  · unfold queryFor fetch
    by_cases hzero : q.1.offset = 0
    · have hfirst := hwindow hq c.first_mem
      rw [hzero, Int.sub_zero] at hfirst
      rw [if_pos hzero, if_pos hzero, hfirst]
      rfl
    · rw [if_neg hzero, if_neg hzero, hoffset hq ht]
      change Millis.earlier (t - q.1.offset) _ >>= _ = _
      rw [hwindow hq ht]
      rfl
  · exact Window.of_eq_ok_iff.2 ⟨(h q hq t ht).1, (h q hq t ht).2, rfl⟩

theorem overflows_of_not_fits (hframes : c.frames.Built) (hwindow : 0 ≤ c.windowOf q.2)
    (h : ¬c.Fits q.1 (c.windowOf q.2)) : c.Overflows q := by
  have hsomewhere := h
  rw [fits_iff hwindow] at hsomewhere
  push Not at hsomewhere
  obtain ⟨t, ht, htimes⟩ := hsomewhere
  refine ⟨?_, ?_, t, ht, Window.of_of_not_inRange fun h => htimes h.1 h.2⟩
  · unfold Columnar.fetch
    by_cases hfirst : Millis.InRange (c.frames.first - q.1.offset)
    · by_cases hlast : Millis.InRange (c.frames.last - q.1.offset)
      · rw [Millis.earlier_of_inRange hfirst, Millis.earlier_of_inRange hlast]
        change Millis.earlier (c.frames.first - q.1.offset) _ >>= _ = _
        rw [Millis.earlier_of_not_inRange fun hearliest => h ⟨hearliest, hlast⟩]
        rfl
      · rw [Millis.earlier_of_inRange hfirst, Millis.earlier_of_not_inRange hlast]
        rfl
    · rw [Millis.earlier_of_not_inRange hfirst]
      rfl
  · unfold queryFor
    by_cases hzero : q.1.offset = 0
    · -- the last frame fits, so the first of the span does not
      have hlast : Millis.InRange (c.frames.last - q.1.offset) := by
        rw [hzero, Int.sub_zero]
        exact hframes.inRange_last
      have hearliest : ¬Millis.InRange (c.frames.first - c.windowOf q.2) := by
        intro hearliest
        refine h ⟨?_, hlast⟩
        rw [hzero, Int.sub_zero]
        exact hearliest
      refine ⟨t, ht, ?_⟩
      rw [if_pos hzero]
      unfold fetch
      rw [Millis.earlier_of_not_inRange hearliest]
      rfl
    · refine ⟨t, ht, ?_⟩
      rw [if_neg hzero]
      by_cases hfinish : Millis.InRange (t - q.1.offset)
      · rw [Millis.earlier_of_inRange hfinish]
        change Millis.earlier (t - q.1.offset) _ >>= _ = _
        rw [Millis.earlier_of_not_inRange (htimes hfinish)]
        rfl
      · rw [Millis.earlier_of_not_inRange hfinish]
        rfl

theorem fits_of_queries (hframes : c.frames.Built) (hwindow : 0 ≤ c.windowOf q.2)
    (h : ∀ t ∈ c.frames.toList, ∃ series, c.queryFor t q.1 (c.windowOf q.2) = .ok series) :
    c.Fits q.1 (c.windowOf q.2) := by
  by_contra hfits
  obtain ⟨t, ht, hoverflow⟩ := (overflows_of_not_fits hframes hwindow hfits).step
  obtain ⟨series, hseries⟩ := h t ht
  cases hoverflow.symm.trans hseries

end Context

namespace Stepwise

variable {c : Context α} {e : Expr α}

theorem exists_query_of_fetch {s : Selector} {window t : Int}
    {found : List (SeriesSamples α) × SelectorCache α}
    (h : (fetch c t s window .empty).outcome = .ok found) :
    ∃ series, c.queryFor t s window = .ok series := by
  unfold Context.queryFor
  by_cases hzero : s.offset = 0
  · rw [fetch_of_missing hzero rfl] at h
    obtain ⟨series, hseries, -⟩ := map_eq_ok_iff.1 h
    exact ⟨series, by rw [if_pos hzero, hseries]⟩
  · rw [fetch_of_offset hzero] at h
    obtain ⟨series, hseries, -⟩ := map_eq_ok_iff.1 h
    exact ⟨series, by rw [if_neg hzero, hseries]⟩

variable [SampleValue α]

theorem exists_query_of_evaluate (hapart : c.TellsApart e.selectors) {type : ValueType}
    (hcheck : e.check = .ok type) {r : QueryResult α} (h : (evaluate c e).outcome = .ok r)
    {q : Selector × Option Int} (hq : q ∈ e.selectors) {t : Int} (ht : t ∈ c.frames.toList) :
    ∃ series, c.queryFor t q.1 (c.windowOf q.2) = .ok series := by
  have hsame : SameResult (evaluate c e).outcome (evaluateBy c (forgetting c) e) :=
    evaluate_sameResult fun _ i => answers_forgetting hapart _
  obtain ⟨-, -, hrest⟩ := bind_eq_ok_iff.1 ((hsame r).1 h)
  obtain ⟨steps, hsteps, -⟩ := bind_eq_ok_iff.1 hrest
  obtain ⟨i, rfl⟩ := c.frames.mem_toList_iff.1 ht
  have hanswers := answers_of_eval (fun _ _ => rfl) hcheck (ofFnM_eq_ok_iff.1 hsteps i) q hq
  -- The evaluator begins with the same query for a vector and for a matrix.
  rcases q with ⟨s, _ | duration⟩
  all_goals
    obtain ⟨v, hv⟩ := hanswers
    obtain ⟨found, hfound, -⟩ := map_eq_ok_iff.1 hv
    obtain ⟨series, cache, hfetch, -⟩ := Step.exists_of_outcome_bind hfound
    exact exists_query_of_fetch hfetch

end Stepwise

namespace Columnar

variable [SampleValue α] {c : Context α} {e : Expr α}

theorem exists_fetch_of_evaluate {type : ValueType} (hcheck : e.check = .ok type)
    {r : QueryResult α} (h : (evaluate c e).outcome = .ok r) {q : Selector × Option Int}
    (hq : q ∈ e.selectors) :
    ∃ series, fetch c q.1 (c.windowOf q.2) = .ok series := by
  rw [outcome_evaluate] at h
  obtain ⟨-, -, hrest⟩ := bind_eq_ok_iff.1 h
  obtain ⟨column, hcolumn, -⟩ := bind_eq_ok_iff.1 hrest
  have hvalue := (framewise_eval (readAs_columns c e.selectors) hcheck).eq_ok hcolumn
    ⟨0, c.frames.len_pos⟩
  have hanswers := Stepwise.answers_of_eval (fun _ _ => rfl) hcheck hvalue q hq
  rcases q with ⟨s, _ | duration⟩
  all_goals
    obtain ⟨v, hv⟩ := hanswers
    obtain ⟨column, hcolumn, -⟩ := bind_eq_ok_iff.1 hv
    obtain ⟨series, hseries, -⟩ := bind_eq_ok_iff.1 hcolumn
    exact ⟨series, hseries⟩

end Columnar

section Answers

variable [SampleValue α] {c : Context α} {e : Expr α} {type : ValueType}

theorem Context.allFit_of_evaluate (strategy : Strategy) (hframes : c.frames.Built)
    (hnames : ∀ q ∈ e.selectors, q.1.NamesLabels)
    (hwindows : ∀ q ∈ e.selectors, 0 ≤ c.windowOf q.2) (hcheck : e.check = .ok type)
    {r : QueryResult α} (h : (strategy.evaluate c e).outcome = .ok r) : c.AllFit e := by
  intro q hq
  cases strategy with
  | interpreter =>
    have hapart := c.tellsApart_of_namesLabels hnames
    exact fits_of_queries hframes (hwindows q hq) fun t ht =>
      Stepwise.exists_query_of_evaluate hapart hcheck h hq ht
  | batch =>
    obtain ⟨series, hseries⟩ := Columnar.exists_fetch_of_evaluate hcheck h hq
    exact Columnar.fits_of_fetch hseries

omit [SampleValue α] in
theorem Context.windowOf_nonneg (hlookback : 0 ≤ c.lookback) (hcheck : e.check = .ok type)
    {q : Selector × Option Int} (hq : q ∈ e.selectors) : 0 ≤ c.windowOf q.2 := by
  obtain ⟨s, duration⟩ := q
  cases duration with
  | none => exact hlookback
  | some duration => exact Int.le_of_lt ((Expr.selector_of_check hcheck hq).2 duration rfl)

/-- No time that an evaluation computes overflows exactly if the earliest and the latest time that
each selector looks at are sixty-four-bit integers, and then all intervals are exact. A selector
for which one of them is not overflows in both evaluators, so that no wrapped interval is asked
for: whatever is answered are the values that the exact times give. -/
theorem overflow_never_answered (c : Context α) (hframes : c.frames.Built) (lookback : Duration)
    (hlookback : c.lookback = lookback.toMillis) (e : Expr α) (hcheck : e.check = .ok type) :
    (c.NoOverflow e ↔ c.AllFit e) ∧ (c.NoOverflow e → c.LooksExactly e) ∧
    (∀ q ∈ e.selectors, ¬c.Fits q.1 (c.windowOf q.2) → c.Overflows q) ∧
    ∀ store : Store α, c.gateway = store.gateway → (∀ q ∈ e.selectors, q.1.NamesLabels) →
      ∀ (strategy : Strategy) (r : QueryResult α),
      (strategy.evaluate c e).outcome = .ok r ↔ c.validate e = .ok () ∧ c.NoOverflow e ∧
        ∃ steps : Vector (Value α) c.frames.len, r = { frames := c.frames, steps } ∧
          ∀ i : Fin c.frames.len,
            store.valueAt c.lookback c.hash (c.frames.atIndex i) e = .ok (steps.get i) := by
  have hnonneg : 0 ≤ c.lookback := by
    rw [hlookback]
    unfold Duration.toMillis Millis.greatest
    omega
  have hwindows : ∀ q ∈ e.selectors, 0 ≤ c.windowOf q.2 :=
    fun q hq => Context.windowOf_nonneg hnonneg hcheck hq
  have hoverflow := Context.noOverflow_iff hwindows
  refine ⟨hoverflow, Context.NoOverflow.looksExactly, fun q hq hfits => ?_, ?_⟩
  · exact Context.overflows_of_not_fits hframes (hwindows q hq) hfits
  intro store hgateway hnames strategy r
  have hserves (hfits : c.AllFit e) : c.Serves store e := ⟨hgateway, hnonneg, hfits, hnames⟩
  constructor
  · intro h
    have hfits := Context.allFit_of_evaluate strategy hframes hnames hwindows hcheck h
    obtain ⟨hvalid, hsteps⟩ := (evaluate_eq_ok_iff strategy (hserves hfits)).1 h
    exact ⟨hvalid, hoverflow.2 hfits, hsteps⟩
  · rintro ⟨hvalid, hnone, hsteps⟩
    exact (evaluate_eq_ok_iff strategy (hserves (hoverflow.1 hnone))).2 ⟨hvalid, hsteps⟩

end Answers

def Context.ofRequest (config : EngineConfig) (stored t : Int) : Context Binary64 :=
  config.context (Store.empty.write stored .requestsHere Numeric.one).gateway (.instant t)

/-- The whole lookback of the default settings lies in time at the first of two instants, and
reaches back beyond the least time at the second, a millisecond before. -/
theorem earliest_request_seen :
    (Context.ofRequest {} Millis.least (Millis.least + 300000)).LooksExactly .requests ∧
    (∃ r, (Strategy.interpreter.evaluate
      (.ofRequest {} Millis.least (Millis.least + 300000)) .requests).outcome = .ok r) ∧
    (∀ q ∈ Expr.requests.selectors,
      (Context.ofRequest {} Millis.least (Millis.least + 299999)).Overflows q) ∧
    ∀ (strategy : Strategy) (r : QueryResult Binary64),
      (strategy.evaluate (.ofRequest {} Millis.least (Millis.least + 299999))
        .requests).outcome ≠ .ok r := by
  obtain ⟨-, hexact, -⟩ := overflow_never_answered
    (.ofRequest {} Millis.least (Millis.least + 300000)) (.instant (by decide))
    (EngineConfig.lookback {}) rfl .requests rfl
  obtain ⟨-, -, hoverflows, hanswers⟩ := overflow_never_answered
    (.ofRequest {} Millis.least (Millis.least + 299999)) (.instant (by decide))
    (EngineConfig.lookback {}) rfl .requests rfl
  have hbefore : ∀ q ∈ Expr.requests.selectors,
      ¬(Context.ofRequest {} Millis.least (Millis.least + 299999)).Fits q.1
        ((Context.ofRequest {} Millis.least (Millis.least + 299999)).windowOf q.2) := by
    decide
  refine ⟨hexact (by decide), exists_of_isOk (by decide +kernel),
    fun q hq => hoverflows q hq (hbefore q hq), fun strategy r h => ?_⟩
  obtain ⟨-, hnone, -⟩ := (hanswers _ rfl (by decide) strategy r).1 h
  exact absurd hnone (by decide)

/-- A lookback of three hundred million years, which is cut off at the greatest time. -/
def EngineConfig.longLookback : EngineConfig := { lookback := .ofSeconds (300000000 * 31557600) }

/-- The requests of a time so late that it is left only by subtracting the least time. -/
def Expr.leastOffset : Expr Binary64 := .selector (.named "requests" [] Millis.least)

/-- Times that a query looks at overflow. Two milliseconds before the epoch and with the greatest
lookback, neither evaluator answers, though the exact interval is not empty and holds a request.
Neither do they at a time from which the least offset leads beyond the greatest time. -/
theorem times_overflow :
    ((Context.ofRequest .longLookback (-2) (-2)).frames.Built ∧
      Expr.requests.check = .ok .vector ∧
      ¬(Context.ofRequest .longLookback (-2) (-2)).NoOverflow .requests ∧
      ((Store.empty.write (-2) .requestsHere Numeric.one).valueAt
        EngineConfig.longLookback.lookback.toMillis Fingerprint.fnv (-2)
          .requests).toOption.any (·.vector?.toOption.any (·.size = 1)) = true ∧
      ∀ strategy : Strategy,
        ((strategy.evaluate (.ofRequest .longLookback (-2) (-2)) .requests).outcome.map
            fun _ => ()) = .error (.overflow .subtraction)) ∧
    (Context.ofRequest {} 1000000 1000000).frames.Built ∧
      Expr.leastOffset.check = .ok .vector ∧
      ¬(Context.ofRequest {} 1000000 1000000).NoOverflow .leastOffset ∧
      ∀ strategy : Strategy,
        ((strategy.evaluate (.ofRequest {} 1000000 1000000) .leastOffset).outcome.map
          fun _ => ()) = .error (.overflow .subtraction) := by
  refine ⟨⟨.instant (by decide), rfl, by decide, by decide +kernel, fun strategy => ?_⟩,
    .instant (by decide), rfl, by decide, fun strategy => ?_⟩
  · cases strategy <;> decide +kernel
  · cases strategy <;> decide +kernel

end SeriesQuery
