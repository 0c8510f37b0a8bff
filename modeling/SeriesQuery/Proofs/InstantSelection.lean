import SeriesQuery.Proofs.Agreement
import SeriesQuery.Proofs.Samples.History

/-!
# Instant selectors

The value of an instant selector at a timestamp holds the series that satisfy its matchers, each
with the last sample that was written between two times, unless this sample ends the series. Both
evaluators yield it, with and without an offset, whatever the cache holds of other selectors.
-/

namespace SeriesQuery

variable {α : Type} [SampleValue α]

/-- Each series that satisfies the matchers is shown with its latest value at a timestamp, and no
other series is shown. -/
def ShowsLatest (history : List (Ingestion α)) (s : Selector) (lookback t : Int)
    (shown : SeriesMap α) : Prop :=
  ∀ m v, shown.get? m = some v ↔
    LabelMatcher.allAdmit s.matchers m.labels = true ∧
      LatestIn history m (Store.seenFrom s lookback t) v

namespace Store

theorem latestIn_iff {history : List (Ingestion α)} {m : Metric} {range : TimeRange} {v : α} :
    ((replay history).series.get? m).bind (latestIn · range) = some v ↔
      LatestIn history m range v := by
  unfold LatestIn
  simp only [← bind_get?_replay]
  cases hstored : (replay history).series.get? m with
  | none => simp
  | some stored => exact latestIn_eq_some_iff

theorem showsLatest_select (history : List (Ingestion α)) (s : Selector) (lookback t : Int) :
    ShowsLatest history s lookback t
      ((replay history).select s.matchers (latestIn · (seenFrom s lookback t))) := by
  intro m v
  rw [get?_select]
  by_cases hmatching : LabelMatcher.allAdmit s.matchers m.labels = true
  · rw [if_pos hmatching, latestIn_iff]
    exact ⟨fun h => ⟨hmatching, h⟩, fun h => h.2⟩
  · rw [if_neg hmatching]
    exact iff_of_false nofun fun h => hmatching h.1

end Store

theorem ShowsLatest.unique {history : List (Ingestion α)} {s : Selector} {lookback t : Int}
    {shown shown' : SeriesMap α} (h : ShowsLatest history s lookback t shown)
    (h' : ShowsLatest history s lookback t shown') : shown = shown' := by
  apply SortedMap.ext_get?
  intro m
  ext v
  rw [h m v, h' m v]

/-- The cursor of one evaluator, the cache of the other and its queries for selectors with an
offset all find the same vector at a frame, which shows the latest value of each series. -/
theorem instant_selector_semantics (history : List (Ingestion α)) (c : Context α) (s : Selector)
    (hgateway : c.gateway = (Store.replay history).gateway) (hmatchers : s.matchers ≠ [])
    (hlookback : 0 ≤ c.lookback) (hfits : c.Fits s c.lookback) :
    ∃ shown : Fin c.frames.len → SeriesMap α,
      (∀ i : Fin c.frames.len,
        ShowsLatest history s c.lookback (c.frames.atIndex i) (shown i)) ∧
      (∃ column, Columnar.selectLatest c s = .ok column ∧
        ∀ i, column.atFrame i = .vector (shown i)) ∧
      (∀ selectors, (s, none) ∈ selectors → c.TellsApart selectors →
        ∀ cache, SelectorCache.Sound c selectors cache → ∀ i : Fin c.frames.len, ∃ cache',
          (Stepwise.selectLatest c (c.frames.atIndex i) s cache).outcome =
            .ok (shown i, cache') ∧ SelectorCache.Sound c selectors cache') ∧
      (c.validate (.selector s) = .ok () → ∀ strategy : Strategy,
        (strategy.evaluate c (.selector s)).outcome =
          .ok { frames := c.frames, steps := Vector.ofFn fun i => .vector (shown i) }) := by
  let store : Store α := Store.replay history
  let shown (i : Fin c.frames.len) : SeriesMap α :=
    store.select s.matchers (Store.latestIn · (Store.seenFrom s c.lookback (c.frames.atIndex i)))
  refine ⟨shown, ?_, ?_, ?_, ?_⟩
  · intro i
    exact Store.showsLatest_select history s c.lookback (c.frames.atIndex i)
  · have hcolumn := Columnar.framewise_selectLatest hgateway hmatchers hfits hlookback
    obtain ⟨column, hok⟩ := hcolumn.exists_ok fun i => ⟨_, rfl⟩
    refine ⟨column, hok, fun i => ?_⟩
    have hread : Value.vector <$> (store.reading c.lookback (c.frames.atIndex i)).latest s =
        .ok (column.atFrame i) := hcolumn.eq_ok hok i
    exact (Except.ok.inj hread).symm
  · intro selectors hs hapart cache hcache i
    apply Stepwise.run_eq_ok _ hcache
    exact Stepwise.related_selectLatest hapart hs hgateway hmatchers hfits hlookback i.2
  · intro hvalid strategy
    have hreads : c.ReadsFrom store (.selector s) :=
      Context.readsFrom_of_selectors rfl hgateway hlookback hfits
    rw [hreads.evaluate_eq_ok_iff strategy]
    refine ⟨hvalid, _, rfl, fun i => ?_⟩
    rw [vector_get_ofFn]
    rfl

theorem ending_requests_shown :
    ∃ shown : Fin 3 → SeriesMap Binary64,
      (∀ strategy : Strategy,
        (strategy.evaluate .endingRequests (.selector (.named "requests"))).outcome =
          .ok { frames := Context.endingRequests.frames,
                steps := Vector.ofFn fun i => .vector (shown i) }) ∧
      (shown 2).get? .requestsHere = none ∧ (shown 2).get? .requestsThere = some Numeric.one := by
  obtain ⟨shown, hshown, -, -, hevaluate⟩ := instant_selector_semantics endingRequests
    .endingRequests (.named "requests") rfl (by decide) (by decide) (by decide)
  have hlast : shown (2 : Fin 3) = (Store.replay endingRequests).select
      (Selector.named "requests").matchers
      (Store.latestIn · (Store.seenFrom (.named "requests") 300000 90000)) :=
    (hshown (2 : Fin 3)).unique
      (Store.showsLatest_select endingRequests (.named "requests") 300000 90000)
  refine ⟨shown, hevaluate (by decide +kernel), ?_⟩
  rw [hlast]
  decide +kernel

end SeriesQuery
