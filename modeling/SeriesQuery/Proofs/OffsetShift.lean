import SeriesQuery.Proofs.Agreement
import SeriesQuery.Proofs.Expr.Shifting
import SeriesQuery.Proofs.Samples.History

/-!
# Offsets shift time

An expression whose selectors all look further back by some duration has the values that the
expression itself has that much earlier. Windows end at the same times then, and their functions
use only the distances of samples from these ends, unless they read the clock.
-/

namespace SeriesQuery

variable {α : Type}

theorem Window.of_shifted (d t range offset : Int) :
    Window.of t range (offset + d) =
      (fun w => { w with timestamp := t }) <$> Window.of (t - d) range offset := by
  have hfinish : t - (offset + d) = t - d - offset := by omega
  unfold Window.of Millis.minus
  rw [hfinish]
  by_cases hlatest : Millis.InRange (t - d - offset)
  · rw [if_pos hlatest]
    by_cases hearliest : Millis.InRange (t - d - offset - range)
    · simp only [bind, Except.bind, if_pos hearliest]
      rfl
    · simp only [bind, Except.bind, if_neg hearliest]
      rfl
  · rw [if_neg hlatest]
    rfl

theorem Store.seenFrom_shifted (d : Int) (s : Selector) (window t : Int) :
    seenFrom (s.shifted d) window t = seenFrom s window (t - d) := by
  have hfinish : t - (s.offset + d) = t - d - s.offset := by omega
  simp only [seenFrom, Selector.shifted, hfinish]

section Values

variable [SampleValue α]

/-- Only predictions ask when a window is evaluated. -/
theorem Function.reduceWindow_timestamp {f : Function} (hf : f ≠ .predictLinear)
    (samples : List (Sample α)) (w : Window) (t : Int) (params : List α) :
    f.reduceWindow samples { w with timestamp := t } params = f.reduceWindow samples w params := by
  cases f with
  | predictLinear => exact absurd rfl hf
  | _ => rfl

namespace Stepwise

variable {d t : Int}

omit [SampleValue α] in
theorem rangeArg_shifted (f : Function) (args : List (Expr α)) :
    rangeArg f (args.map (Expr.shifted d)) =
      (fun range => (range.1.shifted d, range.2)) <$> rangeArg f args := by
  unfold rangeArg
  rw [List.getElem?_map]
  cases args[f.matrixArg]? with
  | none => rfl
  | some e => cases e <;> rfl

theorem reduceWindows_shifted {f : Function} (hf : f ≠ .predictLinear) (offset duration : Int)
    (series : SeriesMap (List (Sample α))) (params : List α) :
    reduceWindows t f (offset + d) duration series params =
      reduceWindows (t - d) f offset duration series params := by
  unfold reduceWindows
  rw [Window.of_shifted]
  cases Window.of (t - d) duration offset with
  | error overflow => rfl
  | ok w =>
    have hreduce := fun (samples : List (Sample α)) =>
      Function.reduceWindow_timestamp hf samples w t params
    change Value.vector <$> collectComputed _ (series.toList.map fun e => (_,
      (f.reduceWindow e.2 { w with timestamp := t } params).mapError _)) = _
    simp only [hreduce]
    rfl

theorem callWindow_shifted {f : Function} (hf : f ≠ .predictLinear) (args : List (Expr α))
    (values : List (Except QueryError (Value α))) :
    callWindow t f (args.map (Expr.shifted d)) values = callWindow (t - d) f args values := by
  unfold callWindow
  rw [rangeArg_shifted]
  cases rangeArg f args with
  | error e => rfl
  | ok range =>
    obtain ⟨s, duration⟩ := range
    change ((values.eraseIdx f.matrixArg).mapM _ >>= _ : Except QueryError (Value α)) = _ >>= _
    refine bind_congr fun params => bind_congr fun _ => bind_congr fun x => ?_
    exact bind_congr fun series => reduceWindows_shifted hf s.offset duration series params

theorem callSpecial_shifted {f : Function} (hkind : f.kind = .special) (args : List (Expr α))
    (hclock : f.readsClock args.isEmpty = false) (values : List (Except QueryError (Value α))) :
    callSpecial t f (args.map (Expr.shifted d)) values = callSpecial (t - d) f args values := by
  cases f with
  | time | timestamp => cases hclock
  | absent =>
    unfold callSpecial
    rw [Expr.absentArgument_shifted]
  | labelReplace | labelJoin =>
    unfold callSpecial
    rw [Expr.relabeling_shifted]
  | vector | scalar | histogramQuantile => rfl
  | _ => cases hkind

/-- A call that does not read the clock asks for nothing but its arguments. -/
theorem call_shifted {f : Function} (args : List (Expr α))
    (hclock : f.readsClock args.isEmpty = false) {values : List (Except QueryError (Value α))}
    (hvalues : values.isEmpty = args.isEmpty) :
    call t f (args.map (Expr.shifted d)) values = call (t - d) f args values := by
  unfold call
  cases hkind : f.kind with
  | window =>
    refine callWindow_shifted (fun hpredict => ?_) args values
    subst hpredict
    cases hclock
  | math => rfl
  | date =>
    have hsome : values.isEmpty = false := by
      rw [hvalues, ← Function.readsClock_date hkind args.isEmpty, hclock]
    simp only [hsome]
    rfl
  | special => exact callSpecial_shifted hkind args hclock values

end Stepwise

/-- The value of an expression that looks back further by some duration is its value that much
earlier. -/
theorem Store.valueAt_shifted (store : Store α) (lookback : Int) (hash : LabelHash) (d t : Int)
    {e : Expr α} (hclock : e.readsClock = false) :
    store.valueAt lookback hash t (e.shifted d) = store.valueAt lookback hash (t - d) e := by
  induction e with
  | number v => rfl
  | string text => rfl
  | selector s =>
    exact congrArg (fun range => Except.ok (Value.vector (store.select s.matchers
      (latestIn · range)))) (seenFrom_shifted d s lookback t)
  | range s duration =>
    exact congrArg (fun range => Except.ok (Value.matrix (store.select s.matchers
      (windowIn · range)))) (seenFrom_shifted d s duration t)
  | negate e ih => exact congrArg (· >>= Value.negate) (ih hclock)
  | binary op l r matching toBool ihl ihr =>
    rw [Expr.readsClock, Bool.or_eq_false_iff] at hclock
    change (store.valueAt lookback hash t (l.shifted d) >>= fun x =>
      store.valueAt lookback hash t (r.shifted d) >>= fun y => _) = _
    rw [ihl hclock.1, ihr hclock.2]
    rfl
  | aggregate op e param grouping ih ihp =>
    rw [Expr.readsClock, Bool.or_eq_false_iff] at hclock
    have hparam : Stepwise.evalParam (store.reading lookback t) hash t
        (Expr.shiftedParam d param) =
          Stepwise.evalParam (store.reading lookback (t - d)) hash (t - d) param := by
      cases param with
      | none => rfl
      | some p => exact congrArg (some <$> ·) (ihp p rfl hclock.1)
    change (Stepwise.evalParam (store.reading lookback t) hash t (Expr.shiftedParam d param) >>=
      fun p => store.valueAt lookback hash t (e.shifted d) >>= fun x => _) = _
    rw [hparam, ih hclock.2]
    rfl
  | call f args ih =>
    rw [Expr.readsClock, Bool.or_eq_false_iff, Expr.readsClockArgs_eq_any,
      List.any_eq_false] at hclock
    have hvalues : Stepwise.evalArgs (store.reading lookback t) hash t (Expr.shiftedArgs d args) =
        Stepwise.evalArgs (store.reading lookback (t - d)) hash (t - d) args := by
      rw [Expr.shiftedArgs_eq_map, Stepwise.evalArgs_eq_map, Stepwise.evalArgs_eq_map,
        List.map_map]
      exact List.map_congr_left fun a ha => ih a ha (Bool.eq_false_iff.2 (hclock.2 a ha))
    change Stepwise.call t f (Expr.shiftedArgs d args)
      (Stepwise.evalArgs (store.reading lookback t) hash t (Expr.shiftedArgs d args)) = _
    rw [hvalues, Expr.shiftedArgs_eq_map]
    refine Stepwise.call_shifted args hclock.1 ?_
    rw [Stepwise.evalArgs_eq_map, List.isEmpty_map]

end Values

def TimeFrames.movedBack (f : TimeFrames) (d : Int) : TimeFrames := { f with start := f.start - d }

theorem TimeFrames.atIndex_movedBack (f : TimeFrames) (d : Int) (i : Nat) :
    (f.movedBack d).atIndex i = f.atIndex i - d := by
  unfold atIndex movedBack
  dsimp only
  omega

def Context.movedBack (c : Context α) (d : Int) : Context α :=
  { c with frames := c.frames.movedBack d }

/-- The same values at timestamps that are some duration earlier. -/
def QueryResult.movedBack (r : QueryResult α) (d : Int) : QueryResult α :=
  { frames := r.frames.movedBack d, steps := r.steps }

section Serving

variable {c : Context α} {store : Store α} {e : Expr α} {d : Int}

/-- The times that a shifted selector looks at are those of the selector from earlier frames. -/
theorem Context.fits_shifted_iff {s : Selector} {window : Int} :
    c.Fits (s.shifted d) window ↔ (c.movedBack d).Fits s window := by
  have hfirst : c.frames.first - (s.offset + d) = (c.frames.movedBack d).first - s.offset := by
    change c.frames.start - (s.offset + d) = c.frames.start - d - s.offset
    omega
  have hlast : c.frames.last - (s.offset + d) = (c.frames.movedBack d).last - s.offset := by
    change _ = (c.frames.movedBack d).atIndex (c.frames.len - 1) - s.offset
    rw [TimeFrames.atIndex_movedBack, TimeFrames.last]
    omega
  constructor
  · rintro ⟨hearliest, hlatest⟩
    exact ⟨hfirst ▸ hearliest, hlast ▸ hlatest⟩
  · rintro ⟨hearliest, hlatest⟩
    exact ⟨hfirst.symm ▸ hearliest, hlast.symm ▸ hlatest⟩

theorem Context.allFit_shifted_iff : c.AllFit (e.shifted d) ↔ (c.movedBack d).AllFit e := by
  unfold AllFit
  rw [Expr.selectors_shifted, List.forall_mem_map]
  exact forall₂_congr fun q _ => fits_shifted_iff

theorem Context.validate_shifted [SampleValue α] :
    c.validate (e.shifted d) = (c.movedBack d).validate e := by
  unfold validate
  rw [Expr.check_shifted]
  rfl

end Serving

/-- An expression whose selectors all look further back by some duration evaluates like the
expression itself at frames that are that much earlier, with both evaluators. -/
theorem offset_shifts_time [SampleValue α] (strategy : Strategy) (c : Context α) (store : Store α)
    (e : Expr α) (d : Int) (hgateway : c.gateway = store.gateway) (hlookback : 0 ≤ c.lookback)
    (hfits : c.AllFit (e.shifted d)) (hnames : ∀ q ∈ e.selectors, q.1.NamesLabels)
    (hclock : e.readsClock = false) :
    SameResult ((·.movedBack d) <$> (strategy.evaluate c (e.shifted d)).outcome)
      (strategy.evaluate (c.movedBack d) e).outcome := by
  have hshifted : c.Serves store (e.shifted d) := by
    refine ⟨hgateway, hlookback, hfits, ?_⟩
    rw [Expr.selectors_shifted, List.forall_mem_map]
    exact hnames
  have hmoved : (c.movedBack d).Serves store e :=
    ⟨hgateway, hlookback, Context.allFit_shifted_iff.1 hfits, hnames⟩
  have hvalue (i : Fin c.frames.len) :
      store.valueAt c.lookback c.hash (c.frames.atIndex i) (e.shifted d) =
        store.valueAt c.lookback c.hash ((c.frames.movedBack d).atIndex i) e := by
    rw [store.valueAt_shifted _ _ _ _ hclock, TimeFrames.atIndex_movedBack]
  intro r
  rw [map_eq_ok_iff, evaluate_eq_ok_iff strategy hmoved]
  constructor
  · rintro ⟨r', hr', rfl⟩
    obtain ⟨hvalid, steps, rfl, hsteps⟩ := (evaluate_eq_ok_iff strategy hshifted).1 hr'
    refine ⟨Context.validate_shifted.symm.trans hvalid, steps, rfl, fun i => ?_⟩
    exact (hvalue i).symm.trans (hsteps i)
  · rintro ⟨hvalid, steps, rfl, hsteps⟩
    refine ⟨{ frames := c.frames, steps }, (evaluate_eq_ok_iff strategy hshifted).2 ?_, rfl⟩
    refine ⟨Context.validate_shifted.trans hvalid, steps, rfl, fun i => ?_⟩
    exact (hvalue i).trans (hsteps i)

def Expr.summedRequests : Expr Binary64 :=
  .binaryDefault .union (.call .sumOverTime [.range (.named "requests") 60000]) .requests

/-- Half a minute back, every frame queries the store on its own. Half a minute earlier, the same
series come from the cache. -/
theorem summed_requests_shifted :
    ∃ r, (Strategy.interpreter.evaluate .endingRequests
        (Expr.summedRequests.shifted 30000)).outcome = .ok r ∧
      (Strategy.interpreter.evaluate (Context.endingRequests.movedBack 30000)
        .summedRequests).outcome = .ok (r.movedBack 30000) := by
  have hshift := offset_shifts_time .interpreter .endingRequests (.replay endingRequests)
    .summedRequests 30000 rfl (by decide) (by decide) (by decide) (by decide)
  obtain ⟨r, hr⟩ : ∃ r, (Strategy.interpreter.evaluate .endingRequests
      (Expr.summedRequests.shifted 30000)).outcome = .ok r := exists_of_isOk (by decide +kernel)
  exact ⟨r, hr, (hshift _).1 (map_eq_ok_iff.2 ⟨r, hr, rfl⟩)⟩

end SeriesQuery
