import SeriesQuery.Evaluation.Columnar
import SeriesQuery.Evaluation.Stepwise
import SeriesQuery.Proofs.Expr.Typing
import SeriesQuery.Store
import SeriesQuery.Time.Frames

/-!
# Fetching series

As long as the bounds of the intervals that a selector looks at are sixty-four-bit integers, a
store answers it with the series that satisfy the matchers and have samples in the interval.
-/

namespace SeriesQuery

variable {α : Type}

/-- The series that satisfy all matchers and have samples in a range, with these samples. -/
def Store.matching (s : Store α) (matchers : List LabelMatcher) (range : TimeRange) :
    List (SeriesSamples α) :=
  s.series.toList.filterMap fun (m, stored) =>
    let samples := samplesIn stored range
    if LabelMatcher.allAdmit matchers m.labels && !samples.isEmpty then
      some ⟨m, samples.toArray⟩
    else none

theorem Store.query_eq_matching (s : Store α) {matchers : List LabelMatcher} {range : TimeRange}
    (hmatchers : matchers ≠ []) (hrange : range.start ≤ range.finish) :
    s.query matchers range = .ok (s.matching matchers range) := by
  have hnonempty : ¬matchers.isEmpty = true := by simpa using hmatchers
  have hbounds : ¬range.isEmpty = true := by
    unfold TimeRange.isEmpty
    rw [decide_eq_true_eq]
    omega
  unfold Store.query
  rw [if_neg hnonempty, if_neg hbounds]
  rfl

namespace Context

/-- How far a selector looks back: over its window, or over the lookback if it has none. -/
def windowOf (c : Context α) (duration : Option Int) : Int := duration.getD c.lookback

/-- The earliest and the latest time that a selector looks at are sixty-four-bit integers. -/
structure Fits (c : Context α) (s : Selector) (window : Int) : Prop where
  earliest : Millis.InRange (c.frames.first - s.offset - window)
  latest : Millis.InRange (c.frames.last - s.offset)

/-- No time that the selectors of an expression look at leaves the sixty-four-bit integers. -/
def AllFit (c : Context α) (e : Expr α) : Prop :=
  ∀ q ∈ e.selectors, c.Fits q.1 (c.windowOf q.2)

instance (c : Context α) (s : Selector) (window : Int) : Decidable (c.Fits s window) :=
  decidable_of_iff (Millis.InRange (c.frames.first - s.offset - window) ∧
    Millis.InRange (c.frames.last - s.offset)) ⟨fun h => ⟨h.1, h.2⟩, fun h => ⟨h.1, h.2⟩⟩

instance (c : Context α) (e : Expr α) : Decidable (c.AllFit e) :=
  inferInstanceAs (Decidable (∀ q ∈ e.selectors, _))

variable {c : Context α} {s : Selector} {window : Int}

theorem Fits.inRange_finish (h : c.Fits s window) (hwindow : 0 ≤ window) {i : Nat}
    (hi : i < c.frames.len) : Millis.InRange (c.frames.atIndex i - s.offset) := by
  have hfirst := c.frames.first_le_atIndex hi
  have hlast := c.frames.atIndex_le_last hi
  obtain ⟨⟨hearliest, -⟩, -, hlatest⟩ := h
  exact ⟨by omega, by omega⟩

theorem Fits.inRange_start (h : c.Fits s window) (hwindow : 0 ≤ window) {i : Nat}
    (hi : i < c.frames.len) : Millis.InRange (c.frames.atIndex i - s.offset - window) := by
  have hfirst := c.frames.first_le_atIndex hi
  have hlast := c.frames.atIndex_le_last hi
  obtain ⟨⟨hearliest, -⟩, -, hlatest⟩ := h
  exact ⟨by omega, by omega⟩

theorem Fits.earlier_offset (h : c.Fits s window) (hwindow : 0 ≤ window) {i : Nat}
    (hi : i < c.frames.len) :
    Millis.earlier (c.frames.atIndex i) s.offset = .ok (c.frames.atIndex i - s.offset) :=
  Millis.earlier_of_inRange (h.inRange_finish hwindow hi)

theorem Fits.earlier_window (h : c.Fits s window) (hwindow : 0 ≤ window) {i : Nat}
    (hi : i < c.frames.len) :
    Millis.earlier (c.frames.atIndex i - s.offset) window =
      .ok (c.frames.atIndex i - s.offset - window) :=
  Millis.earlier_of_inRange (h.inRange_start hwindow hi)

theorem Fits.exists_window (h : c.Fits s window) (hwindow : 0 ≤ window) {i : Nat}
    (hi : i < c.frames.len) : ∃ w, Window.of (c.frames.atIndex i) window s.offset = .ok w :=
  ⟨_, Window.of_eq_ok_iff.2 ⟨h.inRange_finish hwindow hi, h.inRange_start hwindow hi, rfl⟩⟩

theorem first_eq (c : Context α) : c.frames.first = c.frames.atIndex 0 := by
  simp [TimeFrames.first, TimeFrames.atIndex]

theorem last_eq (c : Context α) : c.frames.last = c.frames.atIndex (c.frames.len - 1) := rfl

/-- A store answers what is asked between two frames. -/
theorem fetch_eq_matching {store : Store α} (hgateway : c.gateway = store.gateway)
    (hmatchers : s.matchers ≠ []) (hfits : c.Fits s window) (hwindow : 0 ≤ window) {i j : Nat}
    (hij : i ≤ j) (hj : j < c.frames.len) :
    c.fetch s window (c.frames.atIndex i - s.offset) (c.frames.atIndex j - s.offset) =
      .ok (store.matching s.matchers
        ⟨c.frames.atIndex i - s.offset - window, c.frames.atIndex j - s.offset⟩) := by
  have hi : i < c.frames.len := Nat.lt_of_le_of_lt hij hj
  have hle := c.frames.atIndex_le_atIndex hij hj
  have hquery : c.gateway.query = store.query := by
    rw [hgateway]
    rfl
  unfold fetch
  rw [hfits.earlier_window hwindow hi, hquery]
  change (store.query s.matchers _).mapError _ = _
  rw [store.query_eq_matching hmatchers (by dsimp only; omega)]
  rfl

/-- A store answers what is asked for all frames at once. -/
theorem fetch_span_eq_matching {store : Store α} (hgateway : c.gateway = store.gateway)
    (hmatchers : s.matchers ≠ []) (hfits : c.Fits s window) (hwindow : 0 ≤ window)
    (hoffset : s.offset = 0) :
    c.fetch s window c.frames.first c.frames.last =
      .ok (store.matching s.matchers ⟨c.frames.first - window, c.frames.last⟩) := by
  have hlast : c.frames.len - 1 < c.frames.len := Nat.sub_lt c.frames.len_pos Nat.one_pos
  have hfetch := fetch_eq_matching hgateway hmatchers hfits hwindow (Nat.zero_le _) hlast
  rw [hoffset, Int.sub_zero, Int.sub_zero] at hfetch
  rw [c.first_eq]
  exact hfetch

end Context

/-- Samples of two hosts, of which one is seen later than the other. -/
def Store.requests : Store Binary64 :=
  let here := Metric.ofPairs [(metricName, "requests"), ("host", "a")]
  let there := Metric.ofPairs [(metricName, "requests"), ("host", "b")]
  ((Store.empty.write 0 here Numeric.zero).write 60000 here Numeric.one).write 60000 there
    Numeric.one

def Context.requests : Context Binary64 where
  gateway := Store.requests.gateway
  frames := ⟨30000, 30000, 2, by decide, by decide⟩
  lookback := 300000
  hash := Fingerprint.fnv

def Expr.requests : Expr Binary64 := .selector (.named "requests")

def Expr.mostRequests : Expr Binary64 :=
  .aggregate .max (.selector (.named "requests")) none (.keeping [])

example : Context.requests.AllFit .mostRequests := by decide

namespace Columnar

theorem fetch_eq_matching {c : Context α} {s : Selector} {window : Int} {store : Store α}
    (hgateway : c.gateway = store.gateway) (hmatchers : s.matchers ≠ [])
    (hfits : c.Fits s window) (hwindow : 0 ≤ window) :
    fetch c s window = .ok (store.matching s.matchers
      ⟨c.frames.first - s.offset - window, c.frames.last - s.offset⟩) := by
  have hlast : c.frames.len - 1 < c.frames.len := Nat.sub_lt c.frames.len_pos Nat.one_pos
  unfold fetch
  rw [c.first_eq, c.last_eq, hfits.earlier_offset hwindow c.frames.len_pos,
    hfits.earlier_offset hwindow hlast]
  exact Context.fetch_eq_matching hgateway hmatchers hfits hwindow (Nat.zero_le _) hlast

theorem fits_of_fetch {c : Context α} {s : Selector} {window : Int}
    {series : List (SeriesSamples α)} (h : fetch c s window = .ok series) : c.Fits s window := by
  obtain ⟨first, hfirst, h⟩ := bind_eq_ok_iff.1 h
  obtain ⟨last, hlast, h⟩ := bind_eq_ok_iff.1 h
  obtain ⟨start, hstart, -⟩ := bind_eq_ok_iff.1 h
  obtain ⟨-, rfl⟩ := Millis.earlier_eq_ok_iff.1 hfirst
  exact ⟨(Millis.earlier_eq_ok_iff.1 hstart).1, (Millis.earlier_eq_ok_iff.1 hlast).1⟩

end Columnar

namespace Stepwise

variable {c : Context α} {s : Selector} {cache : SelectorCache α}

theorem lift_earlier_bind {β : Type} {t duration : Int} (h : Millis.InRange (t - duration))
    (f : Int → Step α β) : ((liftM (Millis.earlier t duration) : Step α Int) >>= f) =
      f (t - duration) := by
  rw [Millis.earlier_of_inRange h]
  rfl

theorem fetch_of_offset (hoffset : s.offset ≠ 0) (t window : Int) :
    (fetch c t s window cache).outcome =
      (Millis.earlier t s.offset >>= fun finish => c.fetch s window finish finish).map
        (·, cache) := by
  unfold fetch
  rw [if_pos hoffset]
  cases Millis.earlier t s.offset with
  | error e => rfl
  | ok finish =>
    change (Traced.ofExcept (c.fetch s window finish finish) >>= fun series =>
      pure (series, cache)).outcome = _
    rw [Traced.outcome_bind]
    rfl

/-- A selector without an offset looks into the cache first. -/
theorem fetch_of_no_offset (hoffset : s.offset = 0) (t window : Int) :
    fetch c t s window cache =
      (match cache.get? (s.key window) with
      | some series => pure series
      | none => do
        let series ← (liftM (c.fetch s window c.frames.first c.frames.last) : Step α _)
        modify fun cache => cache.insert (s.key window) series
        return series : Step α (List (SeriesSamples α))) cache := by
  have hzero : ¬s.offset ≠ 0 := by omega
  unfold fetch
  rw [if_neg hzero]
  rfl

theorem fetch_of_cached (hoffset : s.offset = 0) {window : Int} {series : List (SeriesSamples α)}
    (hcached : cache.get? (s.key window) = some series) (t : Int) :
    (fetch c t s window cache).outcome = .ok (series, cache) := by
  rw [fetch_of_no_offset hoffset, hcached]
  rfl

theorem fetch_of_missing (hoffset : s.offset = 0) {window : Int}
    (hmissing : cache.get? (s.key window) = none) (t : Int) :
    (fetch c t s window cache).outcome =
      (c.fetch s window c.frames.first c.frames.last).map fun series =>
        (series, cache.insert (s.key window) series) := by
  rw [fetch_of_no_offset hoffset, hmissing]
  cases c.fetch s window c.frames.first c.frames.last <;> rfl

end Stepwise

end SeriesQuery
