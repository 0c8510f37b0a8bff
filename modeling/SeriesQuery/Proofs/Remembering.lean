import SeriesQuery.Proofs.Samples.Selection
import SeriesQuery.Proofs.SelectorKey
import SeriesQuery.Proofs.Simulation
import SeriesQuery.Proofs.Soundness.Evaluation

/-!
# Remembered series

Series that are found in the cache are those that the selector's own query would have returned, if
the keys tell the selectors of the evaluation apart. An evaluation that makes use of them does the
same as one that asks the gateway every time.
-/

namespace SeriesQuery

variable {α : Type}

namespace Context

variable {c : Context α} {selectors : List (Selector × Option Int)}

/-- Selectors that are remembered under one key select the same over the same window. -/
def TellsApart (c : Context α) (selectors : List (Selector × Option Int)) : Prop :=
  ∀ q ∈ selectors, ∀ q' ∈ selectors, q.1.offset = 0 → q'.1.offset = 0 →
    q.1.key (c.windowOf q.2) = q'.1.key (c.windowOf q'.2) →
      q.1.matchers = q'.1.matchers ∧ c.windowOf q.2 = c.windowOf q'.2

theorem tellsApart_of_delimited (c : Context α)
    (h : ∀ q ∈ selectors, q.1.offset = 0 → q.1.Delimited) : c.TellsApart selectors :=
  fun q hq q' hq' hoffset hoffset' hkey =>
    Selector.key_inj (h q hq hoffset) (h q' hq' hoffset') hkey

theorem tellsApart_of_namesLabels (c : Context α) (h : ∀ q ∈ selectors, q.1.NamesLabels) :
    c.TellsApart selectors :=
  c.tellsApart_of_delimited fun q hq _ => (h q hq).delimited

theorem tellsApart_singleton (c : Context α) (q : Selector × Option Int) : c.TellsApart [q] := by
  intro q₁ h₁ q₂ h₂ _ _ _
  rw [List.mem_singleton] at h₁ h₂
  rw [h₁, h₂]
  exact ⟨rfl, rfl⟩

def queryFor (c : Context α) (t : Int) (s : Selector) (window : Int) :
    Except QueryError (List (SeriesSamples α)) :=
  if s.offset = 0 then c.fetch s window c.frames.first c.frames.last
  else Millis.earlier t s.offset >>= fun finish => c.fetch s window finish finish

theorem queryFor_eq_matching {s : Selector} {store : Store α} {window : Int}
    (hgateway : c.gateway = store.gateway) (hmatchers : s.matchers ≠ [])
    (hfits : c.Fits s window) (hwindow : 0 ≤ window) {i : Nat} (hi : i < c.frames.len) :
    ∃ range : TimeRange,
      c.queryFor (c.frames.atIndex i) s window = .ok (store.matching s.matchers range) ∧
      range.start ≤ (Store.seenFrom s window (c.frames.atIndex i)).start ∧
      (Store.seenFrom s window (c.frames.atIndex i)).finish ≤ range.finish := by
  unfold queryFor
  by_cases hoffset : s.offset = 0
  · have hcovered := seenFrom_covered c s window hi
    unfold spanFor at hcovered
    rw [hoffset, Int.sub_zero, Int.sub_zero] at hcovered
    rw [if_pos hoffset, fetch_span_eq_matching hgateway hmatchers hfits hwindow hoffset]
    exact ⟨_, rfl, hcovered⟩
  · have hfetch := fetch_eq_matching hgateway hmatchers hfits hwindow (Nat.le_refl i) hi
    rw [if_neg hoffset, hfits.earlier_offset hwindow hi]
    exact ⟨_, hfetch, Int.le_refl _, Int.le_refl _⟩

end Context

namespace SelectorCache

variable {c : Context α} {selectors : List (Selector × Option Int)} {cache : SelectorCache α}

/-- Whatever one of the selectors finds is what its own query for all frames returns. -/
def Sound (c : Context α) (selectors : List (Selector × Option Int)) (cache : SelectorCache α) :
    Prop :=
  ∀ q ∈ selectors, q.1.offset = 0 → ∀ series,
    cache.get? (q.1.key (c.windowOf q.2)) = some series →
      c.fetch q.1 (c.windowOf q.2) c.frames.first c.frames.last = .ok series

theorem sound_empty (c : Context α) (selectors : List (Selector × Option Int)) :
    Sound c selectors .empty := nofun

theorem Sound.insert (h : Sound c selectors cache) (hapart : c.TellsApart selectors)
    {q : Selector × Option Int} (hq : q ∈ selectors) (hoffset : q.1.offset = 0)
    {series : List (SeriesSamples α)}
    (hfetch : c.fetch q.1 (c.windowOf q.2) c.frames.first c.frames.last = .ok series) :
    Sound c selectors (SortedMap.insert cache (q.1.key (c.windowOf q.2)) series) := by
  intro q' hq' hoffset' series' hget
  rw [SortedMap.get?_insert] at hget
  by_cases hkey : q'.1.key (c.windowOf q'.2) = q.1.key (c.windowOf q.2)
  · -- the selector that finds the new series would have asked for them too
    obtain ⟨hmatchers, hwindow⟩ := hapart q' hq' q hq hoffset' hoffset hkey
    rw [if_pos hkey, Option.some.injEq] at hget
    subst hget
    unfold Context.fetch at hfetch ⊢
    rw [hmatchers, hwindow]
    exact hfetch
  · rw [if_neg hkey] at hget
    exact h q' hq' hoffset' series' hget

end SelectorCache

namespace Stepwise

variable {c : Context α} {selectors : List (Selector × Option Int)} {s : Selector}

/-- A step that starts with series of the gateway's and ends with such series does what a
computation without a cache does. -/
def recalling (c : Context α) (selectors : List (Selector × Option Int)) :
    Simulation (Step α) (Except QueryError) where
  Related x y := ∀ cache, SelectorCache.Sound c selectors cache →
    match (x cache).outcome with
    | .ok r => SelectorCache.Sound c selectors r.2 ∧ y = .ok r.1
    | .error _ => ∃ e, y = .error e
  pure b cache h := ⟨h, rfl⟩
  bind {_ _ x y f g} h hf cache hcache := by
    change match (x cache >>= fun r => f r.1 r.2).outcome with
      | .ok r => SelectorCache.Sound c selectors r.2 ∧ y >>= g = .ok r.1
      | .error _ => ∃ e, y >>= g = .error e
    have hx := h cache hcache
    rw [Traced.outcome_bind]
    cases hout : (x cache).outcome with
    | error e =>
      rw [hout] at hx
      obtain ⟨e', he'⟩ := hx
      exact ⟨e', by rw [he']; rfl⟩
    | ok r =>
      rw [hout] at hx
      obtain ⟨hsound, hy⟩ := hx
      rw [hy]
      exact hf r.1 r.2 hsound
  lift {_ x y} h cache hcache := by
    change match (Traced.ofExcept x >>= fun b => pure (b, cache)).outcome with
      | .ok r => SelectorCache.Sound c selectors r.2 ∧ y = .ok r.1
      | .error _ => ∃ e, y = .error e
    rcases h.cases with ⟨b, rfl, rfl⟩ | ⟨⟨e, rfl⟩, ⟨e', rfl⟩⟩
    · exact ⟨hcache, rfl⟩
    · exact ⟨e', rfl⟩

/-- From series of the gateway's, a related step has the result of the computation that it is
related to, and leaves such series. -/
theorem run_of_related {β : Type} {x : Step α β} {y : Except QueryError β}
    (h : (recalling c selectors).Related x y) {cache : SelectorCache α}
    (hcache : SelectorCache.Sound c selectors cache) :
    SameResult (Prod.fst <$> (x cache).outcome) y ∧
      ∀ r, (x cache).outcome = .ok r → SelectorCache.Sound c selectors r.2 := by
  have hrun := h cache hcache
  cases hout : (x cache).outcome with
  | error e =>
    rw [hout] at hrun
    obtain ⟨e', rfl⟩ := hrun
    exact ⟨fun b => iff_of_false nofun nofun, nofun⟩
  | ok r =>
    rw [hout] at hrun
    obtain ⟨hsound, rfl⟩ := hrun
    exact ⟨.of_eq rfl, fun r' hr' => Except.ok.inj hr' ▸ hsound⟩

theorem run_eq_ok {β : Type} {x : Step α β} {b : β} (h : (recalling c selectors).Related x (.ok b))
    {cache : SelectorCache α} (hcache : SelectorCache.Sound c selectors cache) :
    ∃ cache', (x cache).outcome = .ok (b, cache') ∧ SelectorCache.Sound c selectors cache' := by
  obtain ⟨hsame, hsound⟩ := run_of_related h hcache
  obtain ⟨⟨b', cache'⟩, hrun, hb⟩ := map_eq_ok_iff.1 ((hsame b).2 rfl)
  obtain rfl : b' = b := hb
  exact ⟨cache', hrun, hsound _ hrun⟩

theorem related_forgetting {β : Type} {x : Step α β} {y : Except QueryError β}
    (h : (recalling c selectors).Related x y) :
    (recalling c selectors).Related x (Prod.fst <$> (x .empty).outcome) := by
  have hempty := (run_of_related h (SelectorCache.sound_empty c selectors)).1
  intro cache hcache
  have hrun := h cache hcache
  cases hout : (x cache).outcome with
  | error e =>
    rw [hout] at hrun
    obtain ⟨e', rfl⟩ := hrun
    rcases hempty.cases with ⟨b, -, hb⟩ | ⟨herror, -⟩
    · cases hb
    · exact herror
  | ok r =>
    rw [hout] at hrun
    exact ⟨hrun.1, (hempty r.1).2 hrun.2⟩

/-- With or without the cache, a selector gets the series that it asks for itself. -/
theorem related_fetch (hapart : c.TellsApart selectors) {duration : Option Int}
    (hs : (s, duration) ∈ selectors) (t : Int) :
    (recalling c selectors).Related (fetch c t s (c.windowOf duration))
      (c.queryFor t s (c.windowOf duration)) := by
  intro cache hcache
  unfold Context.queryFor
  by_cases hoffset : s.offset = 0
  · rw [if_pos hoffset]
    cases hkey : cache.get? (s.key (c.windowOf duration)) with
    | some series =>
      rw [fetch_of_cached hoffset hkey]
      exact ⟨hcache, hcache _ hs hoffset series hkey⟩
    | none =>
      rw [fetch_of_missing hoffset hkey]
      cases hfetch : c.fetch s (c.windowOf duration) c.frames.first c.frames.last with
      | error e => exact ⟨e, rfl⟩
      | ok series => exact ⟨hcache.insert hapart hs hoffset hfetch, rfl⟩
  · rw [if_neg hoffset, fetch_of_offset hoffset]
    cases Millis.earlier t s.offset >>= fun finish =>
        c.fetch s (c.windowOf duration) finish finish with
    | error e => exact ⟨e, rfl⟩
    | ok series => exact ⟨hcache, rfl⟩

/-- A selector that sees the same part of a series, however much of it was fetched, has the answer
of the store. -/
theorem related_select {β : Type} {store : Store α} {duration : Option Int}
    (hapart : c.TellsApart selectors) (hs : (s, duration) ∈ selectors)
    (hgateway : c.gateway = store.gateway) (hmatchers : s.matchers ≠ [])
    (hfits : c.Fits s (c.windowOf duration)) (hwindow : 0 ≤ c.windowOf duration) {i : Nat}
    (hi : i < c.frames.len)
    {see : Array (Sample α) → Option β} {seen : SortedMap Int α → Option β}
    (hsee : ∀ stored range,
      range.start ≤ (Store.seenFrom s (c.windowOf duration) (c.frames.atIndex i)).start →
      (Store.seenFrom s (c.windowOf duration) (c.frames.atIndex i)).finish ≤ range.finish →
      (Store.fetched? stored range).bind see = seen stored) :
    (recalling c selectors).Related
      (do
        let series ← fetch c (c.frames.atIndex i) s (c.windowOf duration)
        return .ofList (series.filterMap fun x => (see x.samples).map (x.metric, ·)))
      (.ok (store.select s.matchers seen)) := by
  obtain ⟨range, hquery, hstart, hfinish⟩ :=
    Context.queryFor_eq_matching hgateway hmatchers hfits hwindow hi
  have hselect : store.select s.matchers seen = SortedMap.ofList
      ((store.matching s.matchers range).filterMap fun x =>
        (see x.samples).map (x.metric, ·)) := by
    rw [store.ofList_matching]
    exact congrArg _ (funext fun stored => (hsee stored range hstart hfinish).symm)
  have hfetch := related_fetch hapart hs (c.frames.atIndex i)
  rw [hquery] at hfetch
  rw [hselect]
  exact (recalling c selectors).bind hfetch fun series => (recalling c selectors).pure _

variable [SampleValue α]

theorem related_selectLatest {store : Store α} (hapart : c.TellsApart selectors)
    (hs : (s, none) ∈ selectors) (hgateway : c.gateway = store.gateway)
    (hmatchers : s.matchers ≠ []) (hfits : c.Fits s c.lookback) (hlookback : 0 ≤ c.lookback)
    {i : Nat} (hi : i < c.frames.len) :
    (recalling c selectors).Related (selectLatest c (c.frames.atIndex i) s)
      ((store.reading c.lookback (c.frames.atIndex i)).latest s) := by
  let see (samples : Array (Sample α)) : Option α :=
    latest samples (c.frames.atIndex i - s.offset - c.lookback) (c.frames.atIndex i - s.offset)
  have hselect : selectLatest c (c.frames.atIndex i) s = (do
      let series ← fetch c (c.frames.atIndex i) s (c.windowOf none)
      return .ofList (series.filterMap fun x => (see x.samples).map (x.metric, ·))) := by
    unfold selectLatest
    refine bind_congr fun series => ?_
    rw [lift_earlier_bind (hfits.inRange_finish hlookback hi),
      lift_earlier_bind (hfits.inRange_start hlookback hi)]
  rw [hselect]
  refine related_select hapart hs hgateway hmatchers hfits hlookback hi fun stored range hstart
    hfinish => ?_
  refine Store.fetched?_bind (fun hnil => ?_) ?_
  · exact Store.latestIn_eq_none (Store.samplesIn_eq_nil hstart hfinish hnil)
  · have horder : InOrder (Store.samplesIn stored range).toArray.toList :=
      Store.inOrder_samplesIn stored range
    dsimp only [see]
    rw [latest_eq horder]
    exact Store.latestIn_eq hstart hfinish

theorem related_selectWindow {store : Store α} {duration : Int} (hapart : c.TellsApart selectors)
    (hs : (s, some duration) ∈ selectors) (hgateway : c.gateway = store.gateway)
    (hmatchers : s.matchers ≠ []) (hfits : c.Fits s duration) (hduration : 0 ≤ duration)
    {i : Nat} (hi : i < c.frames.len) :
    (recalling c selectors).Related (selectWindow c (c.frames.atIndex i) s duration)
      ((store.reading c.lookback (c.frames.atIndex i)).windows s duration) := by
  let see (samples : Array (Sample α)) : Option (List (Sample α)) :=
    let inside := samplesWithin samples (Store.seenFrom s duration (c.frames.atIndex i))
    if inside.isEmpty then none else some inside
  have hselect : selectWindow c (c.frames.atIndex i) s duration = (do
      let series ← fetch c (c.frames.atIndex i) s (c.windowOf (some duration))
      return .ofList (series.filterMap fun x => (see x.samples).map (x.metric, ·))) := by
    unfold selectWindow
    refine bind_congr fun series => ?_
    rw [lift_earlier_bind (hfits.inRange_finish hduration hi),
      lift_earlier_bind (hfits.inRange_start hduration hi)]
    refine congrArg (fun l => pure (SortedMap.ofList l)) (List.filterMap_congr fun x _ => ?_)
    dsimp only [see, Store.seenFrom]
    split <;> rfl
  rw [hselect]
  refine related_select hapart hs hgateway hmatchers hfits hduration hi fun stored range hstart
    hfinish => ?_
  refine Store.fetched?_bind (fun hnil => ?_) ?_
  · exact Store.windowIn_eq_none (Store.samplesIn_eq_nil hstart hfinish hnil)
  · have hinside : samplesWithin (Store.samplesIn stored range).toArray
        (Store.seenFrom s duration (c.frames.atIndex i)) =
        (Store.samplesIn stored (Store.seenFrom s duration (c.frames.atIndex i))).filter
          (!·.isStale) := by
      rw [← Store.filter_samplesIn (Store.seenFrom s duration _) hstart hfinish,
        List.filter_filter]
      exact List.filter_congr fun sample _ => Bool.and_comm _ _
    dsimp only [see]
    rw [hinside]
    rfl

def evaluateBy (c : Context α) (answer : Int → Reading α (Except QueryError)) (e : Expr α) :
    Except QueryError (QueryResult α) := do
  c.validate e
  let steps ← Vector.ofFnM fun i : Fin c.frames.len =>
    (answer (c.frames.atIndex i)).within "step"
      (eval (answer (c.frames.atIndex i)) c.hash (c.frames.atIndex i) e)
  return { frames := c.frames, steps }

/-- An evaluation that remembers series does the same as one that does not, if at every frame it
answers the selectors alike. -/
theorem evaluate_sameResult {answer : Int → Reading α (Except QueryError)} {e : Expr α}
    (h : c.validate e = .ok () → ∀ i : Fin c.frames.len,
      Answers (recalling c e.selectors) (reading c (c.frames.atIndex i))
        (answer (c.frames.atIndex i)) e.selectors) :
    SameResult (evaluate c e).outcome (evaluateBy c answer e) := by
  rw [outcome_evaluate]
  unfold evaluateBy
  cases hvalid : c.validate e with
  | error err => exact .refl _
  | ok _ =>
    let steps : Step α (Vector (Value α) c.frames.len) :=
      Vector.ofFnM fun i : Fin c.frames.len => evalAt c (c.frames.atIndex i) e
    let values : Except QueryError (Vector (Value α) c.frames.len) :=
      Vector.ofFnM fun i : Fin c.frames.len => (answer (c.frames.atIndex i)).within "step"
        (eval (answer (c.frames.atIndex i)) c.hash (c.frames.atIndex i) e)
    have hsteps : (recalling c e.selectors).Related steps values :=
      (recalling c e.selectors).ofFnM fun i =>
        (h hvalid i).within "step" (related_eval (recalling c e.selectors) _ _ _ (h hvalid i))
    have hrun := (run_of_related hsteps (SelectorCache.sound_empty c e.selectors)).1
    have hresult := hrun.map fun steps => ({ frames := c.frames, steps } : QueryResult α)
    refine SameResult.trans (.of_eq ?_) hresult
    change (steps .empty).outcome >>= _ = _ <$> Prod.fst <$> (steps .empty).outcome
    cases (steps .empty).outcome <;> rfl

end Stepwise

end SeriesQuery
