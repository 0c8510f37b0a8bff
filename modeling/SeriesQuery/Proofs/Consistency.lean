import SeriesQuery.Proofs.Agreement

/-!
# Ranges and instants

The value of an expression at a timestamp does not depend on the other frames. An evaluation over
a range succeeds exactly if it does at every timestamp of the range, with the same values, so that
evaluations over overlapping frames agree where both have a value.
-/

namespace SeriesQuery

variable {α : Type}

theorem QueryResult.at?_eq_some_iff {frames : TimeFrames} {steps : Vector (Value α) frames.len}
    {t : Int} {v : Value α} :
    ({ frames, steps } : QueryResult α).at? t = some v ↔
      ∃ i : Fin frames.len, frames.atIndex i = t ∧ steps.get i = v := by
  unfold at?
  rw [Option.bind_eq_some_iff]
  constructor
  · rintro ⟨i, hindex, hget⟩
    obtain ⟨hi, ht⟩ := frames.indexOf?_eq_some_iff.1 hindex
    refine ⟨⟨i, hi⟩, ht, ?_⟩
    have hsteps : steps.toArray[i]? = some steps[i] := by simp [hi]
    exact Option.some.inj (hsteps.symm.trans hget)
  · rintro ⟨i, ht, rfl⟩
    refine ⟨i, frames.indexOf?_eq_some_iff.2 ⟨i.2, ht⟩, ?_⟩
    rw [vector_get _ i.2]
    simp

theorem toList_of_one {β : Type} (v : Vector β 1) : v.toList = [v.get ⟨0, Nat.one_pos⟩] := by
  obtain ⟨x, hx⟩ := List.length_eq_one_iff.1 v.length_toList
  have hget : v.toList[0]? = some (v.get ⟨0, Nat.one_pos⟩) := by
    rw [vector_get _ Nat.one_pos]
    simp
  rw [hx] at hget ⊢
  exact congrArg (fun y => [y]) (Option.some.inj hget)

theorem QueryResult.toList_instant {t : Int}
    (steps : Vector (Value α) (TimeFrames.instant t).len) :
    ({ frames := .instant t, steps } : QueryResult α).toList =
      [(t, steps.get ⟨0, Nat.one_pos⟩)] := by
  have hfirst : (TimeFrames.instant t).toVector.get ⟨0, Nat.one_pos⟩ = t := by
    rw [TimeFrames.get_toVector]
    exact TimeFrames.atIndex_instant t _
  have htimes : (TimeFrames.instant t).toList =
      [(TimeFrames.instant t).toVector.get ⟨0, Nat.one_pos⟩] := toList_of_one _
  have hsteps : steps.toList = [steps.get ⟨0, Nat.one_pos⟩] := toList_of_one _
  unfold toList
  dsimp only
  rw [htimes, hfirst, hsteps]
  rfl

section Frames

variable {c : Context α} {store : Store α} {e : Expr α} {t : ValueType}

theorem Context.Serves.at_frame (hserves : c.Serves store e) (h : e.check = .ok t) {i : Nat}
    (hi : i < c.frames.len) :
    Serves { c with frames := .instant (c.frames.atIndex i) } store e where
  gateway := hserves.gateway
  lookback := hserves.lookback
  names := hserves.names
  fits q hq := by
    obtain ⟨⟨hearliest, -⟩, -, hlatest⟩ := hserves.fits q hq
    have hwindow : 0 ≤ c.windowOf q.2 := hserves.readsFrom.window_nonneg h hq
    have hfirst := c.frames.first_le_atIndex hi
    have hlast := c.frames.atIndex_le_last hi
    have hinstant : (TimeFrames.instant (c.frames.atIndex i)).last = c.frames.atIndex i :=
      TimeFrames.atIndex_instant _ ⟨0, Nat.one_pos⟩
    have hsame : windowOf { c with frames := .instant (c.frames.atIndex i) } q.2 =
        c.windowOf q.2 := rfl
    refine ⟨?_, ?_⟩
    · rw [hsame]
      change Millis.InRange (c.frames.atIndex i - q.1.offset - c.windowOf q.2)
      exact ⟨by omega, by omega⟩
    · dsimp only
      rw [hinstant]
      exact ⟨by omega, by omega⟩

theorem Context.Serves.at_time (hserves : c.Serves store e) (h : e.check = .ok t) {time : Int}
    (htime : time ∈ c.frames.toList) :
    Serves { c with frames := .instant time } store e := by
  obtain ⟨i, rfl⟩ := c.frames.mem_toList_iff.1 htime
  exact hserves.at_frame h i.2

variable [SampleValue α]

/-- Unless an expression is a range vector, its validity does not depend on the frames. -/
theorem validate_frames (h : e.check = .ok t) (ht : t ≠ .matrix) (frames : TimeFrames) :
    Context.validate { c with frames } e = c.validate e := by
  have hnot (f : TimeFrames) : ¬(t = .matrix ∧ (!f.isInstant) = true) := fun hand => ht hand.1
  unfold Context.validate
  rw [h]
  change (if t = .matrix ∧ (!frames.isInstant) = true then _ else _ : Except QueryError Unit) =
    if t = .matrix ∧ (!c.frames.isInstant) = true then _ else _
  rw [if_neg (hnot _), if_neg (hnot _)]

theorem evaluate_isOk_iff (strategy : Strategy) (hserves : c.Serves store e) :
    (∃ r, (strategy.evaluate c e).outcome = .ok r) ↔ c.validate e = .ok () ∧
      ∀ i : Fin c.frames.len, ∃ v,
        store.valueAt c.lookback c.hash (c.frames.atIndex i) e = .ok v := by
  simp only [evaluate_eq_ok_iff strategy hserves]
  constructor
  · rintro ⟨r, hvalid, steps, -, hsteps⟩
    exact ⟨hvalid, fun i => ⟨_, hsteps i⟩⟩
  · rintro ⟨hvalid, hvalues⟩
    choose v hv using hvalues
    refine ⟨_, hvalid, Vector.ofFn v, rfl, fun i => ?_⟩
    rw [vector_get_ofFn]
    exact hv i

theorem at?_of_evaluate {strategy : Strategy} (hserves : c.Serves store e) {r : QueryResult α}
    (hok : (strategy.evaluate c e).outcome = .ok r) {time : Int} (htime : time ∈ c.frames.toList) :
    ∃ v, r.at? time = some v ∧ store.valueAt c.lookback c.hash time e = .ok v := by
  obtain ⟨-, steps, rfl, hsteps⟩ := (evaluate_eq_ok_iff strategy hserves).1 hok
  obtain ⟨i, rfl⟩ := c.frames.mem_toList_iff.1 htime
  exact ⟨steps.get i, QueryResult.at?_eq_some_iff.2 ⟨i, rfl, rfl⟩, hsteps i⟩

/-- An evaluation succeeds exactly if it does at every timestamp alone. -/
theorem evaluate_isOk_iff_instants (strategy : Strategy) (hserves : c.Serves store e)
    (h : e.check = .ok t) (ht : t ≠ .matrix) :
    (∃ r, (strategy.evaluate c e).outcome = .ok r) ↔ ∀ time ∈ c.frames.toList, ∃ r,
      (strategy.evaluate { c with frames := .instant time } e).outcome = .ok r := by
  rw [evaluate_isOk_iff strategy hserves]
  constructor
  · rintro ⟨hvalid, hvalues⟩ time htime
    rw [evaluate_isOk_iff strategy (hserves.at_time h htime), validate_frames h ht]
    refine ⟨hvalid, fun j => ?_⟩
    obtain ⟨i, rfl⟩ := c.frames.mem_toList_iff.1 htime
    rw [TimeFrames.atIndex_instant]
    exact hvalues i
  · intro hall
    have hvalue (i : Fin c.frames.len) : c.validate e = .ok () ∧
        ∃ v, store.valueAt c.lookback c.hash (c.frames.atIndex i) e = .ok v := by
      have htime : c.frames.atIndex i ∈ c.frames.toList := c.frames.mem_toList_iff.2 ⟨i, rfl⟩
      obtain ⟨hvalid, hvalues⟩ :=
        (evaluate_isOk_iff strategy (hserves.at_time h htime)).1 (hall _ htime)
      rw [validate_frames h ht] at hvalid
      have hfirst := hvalues ⟨0, Nat.one_pos⟩
      rw [TimeFrames.atIndex_instant] at hfirst
      exact ⟨hvalid, hfirst⟩
    exact ⟨(hvalue ⟨0, c.frames.len_pos⟩).1, fun i => (hvalue i).2⟩

/-- What a result holds at a timestamp is what an evaluation yields there alone. -/
theorem at?_eq_of_instant {strategy : Strategy} (hserves : c.Serves store e) (h : e.check = .ok t)
    {r single : QueryResult α} (hok : (strategy.evaluate c e).outcome = .ok r) {time : Int}
    (htime : time ∈ c.frames.toList)
    (hsingle : (strategy.evaluate { c with frames := .instant time } e).outcome = .ok single) :
    ∃ v, single.toList = [(time, v)] ∧ r.at? time = some v := by
  obtain ⟨v, hat, hv⟩ := at?_of_evaluate hserves hok htime
  obtain ⟨-, alone, rfl, halone⟩ :=
    (evaluate_eq_ok_iff strategy (hserves.at_time h htime)).1 hsingle
  have hvalue := halone ⟨0, Nat.one_pos⟩
  rw [TimeFrames.atIndex_instant] at hvalue
  obtain rfl : alone.get ⟨0, Nat.one_pos⟩ = v := Except.ok.inj (hvalue.symm.trans hv)
  exact ⟨_, QueryResult.toList_instant alone, hat⟩

/-- Results over two frames agree where both have a value. -/
theorem at?_eq_at? {strategy : Strategy} {frames : TimeFrames} (hserves : c.Serves store e)
    (hserves' : Context.Serves { c with frames } store e) {r r' : QueryResult α}
    (hok : (strategy.evaluate c e).outcome = .ok r)
    (hok' : (strategy.evaluate { c with frames } e).outcome = .ok r') {time : Int}
    (htime : time ∈ c.frames.toList) (htime' : time ∈ frames.toList) :
    (r.at? time).isSome ∧ r.at? time = r'.at? time := by
  obtain ⟨v, hat, hv⟩ := at?_of_evaluate hserves hok htime
  obtain ⟨v', hat', hv'⟩ := at?_of_evaluate hserves' hok' htime'
  obtain rfl : v = v' := Except.ok.inj (hv.symm.trans hv')
  rw [hat, hat']
  exact ⟨rfl, rfl⟩

end Frames

variable [SampleValue α]

/-- An evaluation over a range consists of the evaluations at its timestamps, for each evaluator
and every expression that is not a range vector. -/
theorem range_instant_consistent (strategy : Strategy) (c : Context α) (store : Store α)
    (e : Expr α) {t : ValueType} (hcheck : e.check = .ok t) (ht : t ≠ .matrix)
    (hgateway : c.gateway = store.gateway) (hlookback : 0 ≤ c.lookback) (hfits : c.AllFit e)
    (hnames : ∀ q ∈ e.selectors, q.1.NamesLabels) :
    ((∃ r, (strategy.evaluate c e).outcome = .ok r) ↔
      ∀ time ∈ c.frames.toList, ∃ r,
        (strategy.evaluate { c with frames := .instant time } e).outcome = .ok r) ∧
    (∀ r, (strategy.evaluate c e).outcome = .ok r →
      r.frames = c.frames ∧ ∀ time ∈ c.frames.toList, ∀ single,
        (strategy.evaluate { c with frames := .instant time } e).outcome = .ok single →
          ∃ v, single.toList = [(time, v)] ∧ r.at? time = some v) ∧
    ∀ frames : TimeFrames, Context.AllFit { c with frames } e → ∀ r r',
      (strategy.evaluate c e).outcome = .ok r →
      (strategy.evaluate { c with frames } e).outcome = .ok r' →
        ∀ time ∈ c.frames.toList, time ∈ frames.toList →
          (r.at? time).isSome ∧ r.at? time = r'.at? time := by
  have hserves : c.Serves store e := ⟨hgateway, hlookback, hfits, hnames⟩
  refine ⟨evaluate_isOk_iff_instants strategy hserves hcheck ht, ?_, ?_⟩
  · intro r hok
    refine ⟨?_, fun time htime single hsingle => ?_⟩
    · obtain ⟨-, steps, rfl, -⟩ := (evaluate_eq_ok_iff strategy hserves).1 hok
      rfl
    · exact at?_eq_of_instant hserves hcheck hok htime hsingle
  · intro frames hfits' r r' hok hok' time htime htime'
    have hserves' : Context.Serves { c with frames } store e :=
      ⟨hgateway, hlookback, hfits', hnames⟩
    exact at?_eq_at? hserves hserves' hok hok' htime htime'

theorem requests_at_instant :
    ∃ (r single : QueryResult Binary64) (v : Value Binary64),
      (Strategy.batch.evaluate .requests .mostRequests).outcome = .ok r ∧
        (Strategy.batch.evaluate { Context.requests with frames := .instant 60000 }
          .mostRequests).outcome = .ok single ∧
        single.toList = [(60000, v)] ∧ r.at? 60000 = some v := by
  obtain ⟨hsucceeds, hvalues, -⟩ := range_instant_consistent .batch .requests .requests
    .mostRequests rfl nofun rfl (by decide) (by decide) (by decide)
  have hok : (Strategy.batch.evaluate .requests .mostRequests).outcome.isOk = true := by
    decide +kernel
  have htime : (60000 : Int) ∈ Context.requests.frames.toList := by decide
  obtain ⟨r, hr⟩ : ∃ r, (Strategy.batch.evaluate .requests .mostRequests).outcome = .ok r := by
    cases hout : (Strategy.batch.evaluate .requests .mostRequests).outcome with
    | error e =>
      rw [hout] at hok
      cases hok
    | ok r => exact ⟨r, rfl⟩
  obtain ⟨single, hsingle⟩ := hsucceeds.1 ⟨r, hr⟩ 60000 htime
  obtain ⟨v, hlist, hat⟩ := (hvalues r hr).2 60000 htime single hsingle
  exact ⟨r, single, v, hr, hsingle, hlist, hat⟩

end SeriesQuery
