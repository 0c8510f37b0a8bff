import SeriesQuery.Proofs.Agreement
import SeriesQuery.Proofs.Samples.History

/-!
# Range selectors

The value of a range selector at a timestamp holds the series that satisfy its matchers and have
samples between two times that do not end them, with all these samples in order of time. Both
evaluators yield it, and these are the windows that a function of windows gets.
-/

namespace SeriesQuery

variable {α : Type} [SampleValue α]

/-- Each series that satisfies the matchers is shown with its window at a timestamp, unless this
window is empty, and no other series is shown. -/
def ShowsWindows (history : List (Ingestion α)) (s : Selector) (duration t : Int)
    (shown : SeriesMap (List (Sample α))) : Prop :=
  ∀ m, ∃ samples, LiveWindow history m (Store.seenFrom s duration t) samples ∧
    shown.get? m =
      if LabelMatcher.allAdmit s.matchers m.labels && !samples.isEmpty then some samples else none

namespace Store

def liveIn (s : Store α) (m : Metric) (range : TimeRange) : List (Sample α) :=
  match s.series.get? m with
  | some stored => (samplesIn stored range).filter (!·.isStale)
  | none => []

theorem liveWindow_liveIn (history : List (Ingestion α)) (m : Metric) (range : TimeRange) :
    LiveWindow history m range ((replay history).liveIn m range) := by
  unfold LiveWindow liveIn
  simp only [← bind_get?_replay]
  cases (replay history).series.get? m with
  | none => exact ⟨.nil, fun s => by simp⟩
  | some stored =>
    refine ⟨(inOrder_samplesIn stored range).filter _, fun s => ?_⟩
    dsimp only [Option.bind_some]
    rw [List.mem_filter, mem_samplesIn_iff, Bool.not_eq_true', and_assoc]

theorem get?_select_windowIn (s : Store α) (matchers : List LabelMatcher) (range : TimeRange)
    (m : Metric) :
    (s.select matchers (windowIn · range)).get? m =
      if LabelMatcher.allAdmit matchers m.labels && !(s.liveIn m range).isEmpty then
        some (s.liveIn m range)
      else none := by
  rw [get?_select]
  unfold liveIn windowIn
  cases s.series.get? m with
  | none => simp
  | some stored =>
    dsimp only [Option.bind_some]
    cases LabelMatcher.allAdmit matchers m.labels <;>
      cases ((samplesIn stored range).filter (!·.isStale)).isEmpty <;> rfl

theorem showsWindows_select (history : List (Ingestion α)) (s : Selector) (duration t : Int) :
    ShowsWindows history s duration t
      ((replay history).select s.matchers (windowIn · (seenFrom s duration t))) := by
  intro m
  refine ⟨(replay history).liveIn m (seenFrom s duration t), ?_, ?_⟩
  · exact liveWindow_liveIn history m _
  · exact get?_select_windowIn (replay history) s.matchers _ m

end Store

theorem ShowsWindows.unique {history : List (Ingestion α)} {s : Selector} {duration t : Int}
    {shown shown' : SeriesMap (List (Sample α))} (h : ShowsWindows history s duration t shown)
    (h' : ShowsWindows history s duration t shown') : shown = shown' := by
  apply SortedMap.ext_get?
  intro m
  obtain ⟨samples, hlive, hget⟩ := h m
  obtain ⟨samples', hlive', hget'⟩ := h' m
  obtain rfl := hlive.unique hlive'
  rw [hget, hget']

namespace Columnar

theorem exists_rows_of_selectWindow {c : Context α} {s : Selector} {store : Store α}
    {duration : Int} (hgateway : c.gateway = store.gateway) (hmatchers : s.matchers ≠ [])
    (hfits : c.Fits s duration) (hduration : 0 ≤ duration) :
    ∃ rows, selectWindow c s duration = .ok (.matrix rows duration s.offset) ∧
      (∀ m row, rows.get? m = some row → row.Sound) ∧
      ∀ i : Fin c.frames.len, (Column.matrix rows duration s.offset).atFrame i =
        .matrix (store.select s.matchers
          (Store.windowIn · (Store.seenFrom s duration (c.frames.atIndex i)))) := by
  have hcolumn := selectWindow_eq hgateway hmatchers hfits hduration
  have hframes := framewise_selectWindow hgateway hmatchers hfits hduration
  refine ⟨_, hcolumn, fun m row hrow => ?_, fun i => ?_⟩
  · obtain ⟨samples, hfound⟩ := exists_windowRow_of_selectWindow hcolumn
      (SortedMap.get?_eq_some_iff.1 hrow)
    exact sound_of_windowRow hfound
  · exact (Except.ok.inj (hframes.eq_ok hcolumn i)).symm

omit [SampleValue α] in
theorem window_eq_of_atFrame {n : Nat} {rows : SeriesMap (WindowRow α n)} {range offset : Int}
    {i : Fin n} {shown : SeriesMap (List (Sample α))}
    (h : (Column.matrix rows range offset).atFrame i = .matrix shown) {m : Metric}
    {row : WindowRow α n} (hrow : rows.get? m = some row) :
    row.window i = (shown.get? m).getD [] := by
  have hshown : (rows.filterMap fun _ row =>
      if row.isEmptyAt i then none else some (row.window i)) = shown := Value.matrix.inj h
  rw [← hshown, SortedMap.get?_filterMap, hrow, Option.bind_some]
  by_cases hempty : row.isEmptyAt i = true
  · rw [if_pos hempty, WindowRow.window_eq_nil hempty]
    rfl
  · rw [if_neg hempty]
    rfl

end Columnar

def Function.ofWindows (f : Function) (w : Window) (params : List α)
    (shown : SeriesMap (List (Sample α))) : Except QueryError (Value α) :=
  Value.vector <$> collectComputed .duplicateSeries (shown.toList.map fun e =>
    (f.outputMetric e.1, (f.reduceWindow e.2 w params).mapError .overflow))

omit [SampleValue α] in
theorem bind_scalar?_eq_ok_iff {x : Except QueryError (Value α)} {p : α} :
    x >>= Value.scalar? = .ok p ↔ x = .ok (.scalar p) := by
  rw [bind_eq_ok_iff]
  constructor
  · rintro ⟨v, rfl, hv⟩
    cases v <;> cases hv
    rfl
  · rintro rfl
    exact ⟨_, rfl, rfl⟩

/-- A function of windows has a value at a timestamp if its numbers have, and it is made from the
windows that the store shows. -/
theorem Store.valueAt_call_eq_ok_iff {store : Store α} {lookback : Int} {hash : LabelHash} {t : Int}
    {f : Function} (hkind : f.kind = .window) {args : List (Expr α)} {s : Selector}
    {duration : Int} (hrange : args[f.matrixArg]? = some (.range s duration)) {w : Window}
    (hw : Window.of t duration s.offset = .ok w) {v : Value α} :
    store.valueAt lookback hash t (.call f args) = .ok v ↔
      ∃ params : List α,
        List.Forall₂ (fun a p => store.valueAt lookback hash t a = .ok (.scalar p))
          (args.eraseIdx f.matrixArg) params ∧
        f.checkParams params = .ok () ∧
        f.ofWindows w params
          (store.select s.matchers (windowIn · (seenFrom s duration t))) = .ok v := by
  have hselected : Stepwise.rangeArg f args = .ok (s, duration) := by
    unfold Stepwise.rangeArg
    rw [hrange]
  have hreduce (params : List α) (shown : SeriesMap (List (Sample α))) :
      Stepwise.reduceWindows t f s.offset duration shown params = f.ofWindows w params shown := by
    unfold Stepwise.reduceWindows
    rw [hw]
    rfl
  have hmatrix : Stepwise.argument (args.map (store.valueAt lookback hash t)) f.matrixArg =
      .ok (.matrix (store.select s.matchers (windowIn · (seenFrom s duration t)))) := by
    unfold Stepwise.argument
    rw [List.getElem?_map, hrange]
    rfl
  have hcall : store.valueAt lookback hash t (.call f args) =
      Stepwise.callWindow t f args (args.map (store.valueAt lookback hash t)) := by
    change Stepwise.call t f args (Stepwise.evalArgs _ hash t args) = _
    rw [Stepwise.evalArgs_eq_map]
    unfold Stepwise.call
    rw [hkind]
    rfl
  rw [hcall]
  change (Stepwise.rangeArg f args >>= fun range =>
    ((args.map (store.valueAt lookback hash t)).eraseIdx f.matrixArg).mapM (· >>= Value.scalar?)
      >>= fun params => (f.checkParams params).mapError QueryError.invalidArgument >>= fun _ =>
        Stepwise.argument (args.map (store.valueAt lookback hash t)) f.matrixArg >>= fun x =>
          x.matrix? >>= fun shown =>
            Stepwise.reduceWindows t f range.1.offset range.2 shown params) = .ok v ↔ _
  rw [hselected, hmatrix, List.eraseIdx_map]
  change (((args.eraseIdx f.matrixArg).map (store.valueAt lookback hash t)).mapM
    (· >>= Value.scalar?) >>= fun params =>
      (f.checkParams params).mapError QueryError.invalidArgument >>= fun _ =>
        Stepwise.reduceWindows t f s.offset duration _ params) = .ok v ↔ _
  simp only [hreduce]
  rw [bind_eq_ok_iff]
  refine exists_congr fun params => and_congr ?_ ?_
  · rw [mapM_eq_ok_iff, List.forall₂_map_left_iff]
    simp only [bind_scalar?_eq_ok_iff]
  · rw [bind_eq_ok_iff]
    simp only [mapError_eq_ok_iff]
    exact ⟨fun ⟨_, hparams, hv⟩ => ⟨hparams, hv⟩, fun ⟨hparams, hv⟩ => ⟨(), hparams, hv⟩⟩

/-- The slices of one evaluator and the filtered samples of the other are the same windows, which
are those of the history. They are the value of a range selector, and functions of windows are
applied to them. -/
theorem range_selector_semantics (history : List (Ingestion α)) (c : Context α) (s : Selector)
    (duration : Int) (hgateway : c.gateway = (Store.replay history).gateway)
    (hmatchers : s.matchers ≠ []) (hduration : 0 < duration) (hfits : c.Fits s duration) :
    ∃ shown : Fin c.frames.len → SeriesMap (List (Sample α)),
      (∀ i : Fin c.frames.len,
        ShowsWindows history s duration (c.frames.atIndex i) (shown i)) ∧
      (∃ rows, Columnar.selectWindow c s duration = .ok (.matrix rows duration s.offset) ∧
        (∀ i, (Column.matrix rows duration s.offset).atFrame i = .matrix (shown i)) ∧
        ∀ m row, rows.get? m = some row →
          row.Sound ∧ ∀ i, row.window i = ((shown i).get? m).getD []) ∧
      (∀ selectors, (s, some duration) ∈ selectors → c.TellsApart selectors →
        ∀ cache, SelectorCache.Sound c selectors cache → ∀ i : Fin c.frames.len, ∃ cache',
          (Stepwise.selectWindow c (c.frames.atIndex i) s duration cache).outcome =
            .ok (shown i, cache') ∧ SelectorCache.Sound c selectors cache') ∧
      (c.validate (.range s duration) = .ok () → ∀ strategy : Strategy,
        (strategy.evaluate c (.range s duration)).outcome =
          .ok { frames := c.frames, steps := Vector.ofFn fun i => .matrix (shown i) }) ∧
      ∀ (f : Function) (args : List (Expr α)), f.kind = .window →
        args[f.matrixArg]? = some (.range s duration) →
        c.ReadsFrom (Store.replay history) (.call f args) →
        c.validate (.call f args) = .ok () → ∀ (strategy : Strategy) (r : QueryResult α),
          (strategy.evaluate c (.call f args)).outcome = .ok r ↔
            ∃ steps : Vector (Value α) c.frames.len, r = { frames := c.frames, steps } ∧
              ∀ i : Fin c.frames.len, ∃ params : List α,
                List.Forall₂ (fun a p => (Store.replay history).valueAt c.lookback c.hash
                  (c.frames.atIndex i) a = .ok (.scalar p)) (args.eraseIdx f.matrixArg) params ∧
                f.checkParams params = .ok () ∧
                ∃ w, Window.of (c.frames.atIndex i) duration s.offset = .ok w ∧
                  f.ofWindows w params (shown i) = .ok (steps.get i) := by
  let store : Store α := Store.replay history
  let shown (i : Fin c.frames.len) : SeriesMap (List (Sample α)) :=
    store.select s.matchers (Store.windowIn · (Store.seenFrom s duration (c.frames.atIndex i)))
  have hnonneg : 0 ≤ duration := by omega
  refine ⟨shown, ?_, ?_, ?_, ?_, ?_⟩
  · intro i
    exact Store.showsWindows_select history s duration (c.frames.atIndex i)
  · obtain ⟨rows, hcolumn, hsound, hat⟩ :=
      Columnar.exists_rows_of_selectWindow hgateway hmatchers hfits hnonneg
    refine ⟨rows, hcolumn, hat, fun m row hrow => ⟨hsound m row hrow, fun i => ?_⟩⟩
    exact Columnar.window_eq_of_atFrame (hat i) hrow
  · intro selectors hs hapart cache hcache i
    apply Stepwise.run_eq_ok _ hcache
    exact Stepwise.related_selectWindow hapart hs hgateway hmatchers hfits hnonneg i.2
  · intro hvalid strategy
    have hreads : c.ReadsFrom store (.range s duration) :=
      Context.readsFrom_of_selectors rfl hgateway hnonneg hfits
    rw [hreads.evaluate_eq_ok_iff strategy]
    refine ⟨hvalid, _, rfl, fun i => ?_⟩
    rw [vector_get_ofFn]
    rfl
  · intro f args hkind hrange hreads hvalid strategy r
    rw [hreads.evaluate_eq_ok_iff strategy, hvalid, eq_self_iff_true, true_and]
    refine exists_congr fun steps => and_congr_right fun _ => forall_congr' fun i => ?_
    obtain ⟨w, hw⟩ := hfits.exists_window hnonneg i.2
    rw [Store.valueAt_call_eq_ok_iff hkind hrange hw]
    refine exists_congr fun params => and_congr_right fun _ => and_congr_right fun _ => ?_
    constructor
    · exact fun hvalue => ⟨w, hw, hvalue⟩
    · rintro ⟨w', hw', hvalue⟩
      obtain rfl := Except.ok.inj (hw.symm.trans hw')
      exact hvalue

def Expr.countedRequests : Expr Binary64 := .call .countOverTime [.range (.named "requests") 60000]

theorem ending_requests_counted :
    ∃ (shown : Fin 3 → SeriesMap (List (Sample Binary64))) (steps : Vector (Value Binary64) 3),
      (∀ strategy : Strategy, (strategy.evaluate .endingRequests .countedRequests).outcome =
        .ok { frames := Context.endingRequests.frames, steps }) ∧
      (∀ i : Fin 3, ∃ w, Window.of (Context.endingRequests.frames.atIndex i) 60000 0 = .ok w ∧
        Function.countOverTime.ofWindows w [] (shown i) = .ok (steps.get i)) ∧
      (shown 2).get? .requestsHere = some [⟨60000, Numeric.one⟩] := by
  obtain ⟨shown, hshown, -, -, -, hcall⟩ := range_selector_semantics endingRequests
    .endingRequests (.named "requests") 60000 rfl (by decide) (by decide) (by decide)
  have hreads : Context.endingRequests.ReadsFrom (Store.replay endingRequests)
      .countedRequests :=
    Context.readsFrom_of_selectors rfl rfl (by decide) (by decide)
  have hvalid : Context.endingRequests.validate .countedRequests = .ok () := by
    decide +kernel
  have hcounted := hcall .countOverTime [.range (.named "requests") 60000] rfl rfl hreads hvalid
  have hlast : shown (2 : Fin 3) = (Store.replay endingRequests).select
      (Selector.named "requests").matchers
      (Store.windowIn · (Store.seenFrom (.named "requests") 60000 90000)) :=
    (hshown (2 : Fin 3)).unique
      (Store.showsWindows_select endingRequests (.named "requests") 60000 90000)
  have hok : (Strategy.batch.evaluate .endingRequests .countedRequests).outcome.isOk = true := by
    decide +kernel
  cases hbatch : (Strategy.batch.evaluate .endingRequests .countedRequests).outcome with
  | error e =>
    rw [hbatch] at hok
    cases hok
  | ok r =>
    obtain ⟨steps, rfl, hsteps⟩ := (hcounted .batch r).1 hbatch
    refine ⟨shown, steps, ?_, ?_, ?_⟩
    · intro strategy
      exact (hcounted strategy _).2 ⟨steps, rfl, hsteps⟩
    · intro i
      obtain ⟨params, hparams, -, hvalue⟩ := hsteps i
      obtain rfl : params = [] := List.forall₂_nil_left_iff.1 hparams
      exact hvalue
    · rw [hlast]
      decide +kernel

end SeriesQuery
