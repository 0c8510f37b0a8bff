import SeriesQuery.Proofs.Consistency
import SeriesQuery.Proofs.MetricRecords
import SeriesQuery.Proofs.Samples.History
import SeriesQuery.Proofs.ScalarsAsVectors

/-!
# Absence

The absence of a vector has an element exactly at the frames where the vector has none. Its labels
are those that the equality matchers of a selector give, each under a name of which no other
equality matcher speaks.
-/

namespace SeriesQuery

open Numeric

namespace LabelMatcher

def equalValues (matchers : List LabelMatcher) (name : String) : List String :=
  (matchers.filter fun m => m.name = name ∧ m.op = .equal).map value

/-- The label that a list of values leaves: the only value, unless it is empty. -/
def onlyValue? : List String → Option String
  | [v] => if v.isEmpty then none else some v
  | _ => none

theorem equalValues_concat (matchers : List LabelMatcher) (m : LabelMatcher) (name : String) :
    equalValues (matchers ++ [m]) name =
      equalValues matchers name ++ if m.name = name ∧ m.op = .equal then [m.value] else [] := by
  unfold equalValues
  rw [List.filter_append, List.map_append, List.filter_singleton]
  by_cases h : m.name = name ∧ m.op = .equal <;> simp [h]

/-- What is known after some matchers: the names for which a value has been asked, and a label
where it was one value. -/
structure Wanted.After (matchers : List LabelMatcher) (w : Wanted) : Prop where
  seen : ∀ name, name ∈ w.seen ↔ name ≠ metricName ∧ equalValues matchers name ≠ []
  label : ∀ name, w.builder.build.labels.get? name =
    if name = metricName then none else onlyValue? (equalValues matchers name)

namespace Wanted.After

variable {matchers : List LabelMatcher} {w : Wanted} {m : LabelMatcher}

theorem start : After [] ⟨[], .new⟩ where
  seen name := by simp [equalValues]
  label name := by
    split <;> rfl

/-- A matcher that asks for no value, or for that of the metric name, is passed over. -/
theorem skip (h : After matchers w) (hm : m.name = metricName ∨ m.op ≠ .equal) :
    After (matchers ++ [m]) w := by
  have hsame : ∀ name, name ≠ metricName →
      equalValues (matchers ++ [m]) name = equalValues matchers name := by
    intro name hname
    have hnot : ¬(m.name = name ∧ m.op = .equal) := by
      rintro ⟨rfl, hop⟩
      exact hm.elim hname fun hne => hne hop
    rw [equalValues_concat, if_neg hnot, List.append_nil]
  constructor
  · intro name
    rw [h.seen]
    exact and_congr_right fun hname => by rw [hsame name hname]
  · intro name
    rw [h.label]
    by_cases hname : name = metricName
    · rw [if_pos hname, if_pos hname]
    · rw [if_neg hname, if_neg hname, hsame name hname]

theorem equalValues_of_ne {name : String} (hname : name ≠ m.name) :
    equalValues (matchers ++ [m]) name = equalValues matchers name := by
  rw [equalValues_concat, if_neg fun h => hname h.1.symm, List.append_nil]

theorem equalValues_self (hop : m.op = .equal) :
    equalValues (matchers ++ [m]) m.name = equalValues matchers m.name ++ [m.value] := by
  rw [equalValues_concat, if_pos ⟨rfl, hop⟩]

/-- A second value for a name takes the label away, and so does each one after it. -/
theorem conflict (h : After matchers w) (hname : m.name ≠ metricName) (hop : m.op = .equal)
    (hseen : m.name ∈ w.seen) :
    After (matchers ++ [m]) { w with builder := w.builder.remove m.name } := by
  have hasked : equalValues matchers m.name ≠ [] := ((h.seen m.name).1 hseen).2
  constructor
  · intro name
    rw [h.seen]
    refine and_congr_right fun _ => ?_
    by_cases hm : name = m.name
    · subst hm
      rw [equalValues_self hop]
      exact iff_of_true hasked (List.append_ne_nil_of_right_ne_nil _ (List.cons_ne_nil _ _))
    · rw [equalValues_of_ne hm]
  · intro name
    change (w.builder.remove m.name).build.labels.get? name = _
    rw [Metric.Builder.get?_build_remove, h.label]
    by_cases hm : name = m.name
    · subst hm
      obtain ⟨v, rest, hvalues⟩ := List.exists_cons_of_ne_nil hasked
      rw [if_pos rfl, if_neg hname, equalValues_self hop, hvalues]
      cases rest <;> rfl
    · rw [if_neg hm, equalValues_of_ne hm]

/-- The first value for a name makes a label, unless it is empty. -/
theorem fresh (h : After matchers w) (hname : m.name ≠ metricName) (hop : m.op = .equal)
    (hseen : m.name ∉ w.seen) :
    After (matchers ++ [m]) ⟨m.name :: w.seen, w.builder.label m.name m.value⟩ := by
  have hnone : equalValues matchers m.name = [] := by
    by_contra hasked
    exact hseen ((h.seen m.name).2 ⟨hname, hasked⟩)
  constructor
  · intro name
    rw [List.mem_cons, h.seen]
    by_cases hm : name = m.name
    · subst hm
      rw [equalValues_self hop]
      exact iff_of_true (.inl rfl)
        ⟨hname, List.append_ne_nil_of_right_ne_nil _ (List.cons_ne_nil _ _)⟩
    · rw [equalValues_of_ne hm, or_iff_right hm]
  · intro name
    have hchange : (w.builder.label m.name m.value).build.labels.get? name =
        if name = m.name then if m.value.isEmpty then none else some m.value
        else w.builder.build.labels.get? name :=
      w.builder.get?_build_change (.label m.name m.value) name
    refine hchange.trans ?_
    by_cases hm : name = m.name
    · subst hm
      rw [if_pos rfl, if_neg hname, equalValues_self hop, hnone]
      rfl
    · rw [if_neg hm, h.label, equalValues_of_ne hm]

theorem push (h : After matchers w) (m : LabelMatcher) : After (matchers ++ [m]) (w.push m) := by
  unfold Wanted.push
  by_cases hskip : m.name = metricName ∨ m.op ≠ .equal
  · rw [if_pos hskip]
    exact h.skip hskip
  · rw [if_neg hskip]
    obtain ⟨hname, hop⟩ := not_or.1 hskip
    rw [not_not] at hop
    by_cases hseen : m.name ∈ w.seen
    · rw [if_pos (List.contains_iff_mem.2 hseen)]
      exact h.conflict hname hop hseen
    · rw [if_neg (mt List.contains_iff_mem.1 hseen)]
      exact h.fresh hname hop hseen

theorem foldl_push (h : After matchers w) (more : List LabelMatcher) :
    After (matchers ++ more) (more.foldl Wanted.push w) := by
  induction more generalizing matchers w with
  | nil => rwa [List.append_nil]
  | cons m rest ih =>
    rw [List.append_cons]
    exact ih (h.push m)

end Wanted.After

theorem get?_wanted (matchers : List LabelMatcher) (name : String) :
    (wanted matchers).labels.get? name =
      if name = metricName then none else onlyValue? (equalValues matchers name) :=
  (Wanted.After.start.foldl_push matchers).label name

theorem get?_wanted_eq_some_iff {matchers : List LabelMatcher} {name v : String} :
    (wanted matchers).labels.get? name = some v ↔
      name ≠ metricName ∧ v ≠ "" ∧ equalValues matchers name = [v] := by
  rw [get?_wanted, Option.ite_none_left_eq_some]
  refine and_congr_right fun _ => ?_
  unfold onlyValue?
  split
  · next u hu =>
    rw [Option.ite_none_left_eq_some, Option.some.injEq, String.isEmpty_iff, hu]
    constructor
    · rintro ⟨hne, rfl⟩
      exact ⟨hne, rfl⟩
    · rintro ⟨hne, h⟩
      obtain rfl := List.singleton_inj.1 h
      exact ⟨hne, rfl⟩
  · next hnot => exact iff_of_false nofun fun h => hnot v h.2

/-- A third value does not bring a label back. -/
example : (wanted [.of "host" .equal "a", .of "job" .equal "api", .of "host" .equal "b",
    .of "zone" .equal "", .of "host" .equal "a"]).labels.toList = [("job", "api")] := by decide

end LabelMatcher

theorem Expr.absentMetric_of_not_selector {α : Type} {e : Expr α} (h : ∀ s, e ≠ .selector s) :
    e.absentMetric = .empty := by
  cases e with
  | selector s => exact absurd rfl (h s)
  | _ => rfl

variable {α : Type} [SampleValue α]

def absence (labels : Metric) (v : SeriesMap α) : SeriesMap α :=
  if v.isEmpty then SortedMap.empty.insert labels one else .empty

/-- Of two vectors exactly one is empty, and the second has no element but one with the value one
and the given labels. -/
structure Complementary (labels : Metric) (v w : SeriesMap α) : Prop where
  isEmpty_iff : w.isEmpty = true ↔ v.isEmpty = false
  toList_eq : v.isEmpty = true → w.toList = [(labels, one)]

theorem complementary_absence (labels : Metric) (v : SeriesMap α) :
    Complementary labels v (absence labels v) := by
  unfold absence
  cases hv : v.isEmpty with
  | true =>
    refine ⟨?_, fun _ => rfl⟩
    rw [hv]
    exact iff_of_false nofun nofun
  | false =>
    refine ⟨?_, ?_⟩
    · rw [hv]
      exact iff_of_true rfl rfl
    · rw [hv]
      exact nofun

variable {c : Context α} {e : Expr α}

namespace Stepwise

theorem alikeSteps_absent {time : Int} (h : e.check = .ok .vector) :
    AlikeSteps (fun x x' => ∃ v, x = .vector v ∧ x' = .vector (absence e.absentMetric v))
      (valueAt c time e) (valueAt c time (.call .absent [e])) := by
  intro cache
  have hcall : (valueAt c time (.call .absent [e]) cache).outcome =
      (valueAt c time e cache).outcome >>= fun found =>
        (fun v => (.vector (absence e.absentMetric v), found.2)) <$> found.1.vector? := by
    change (Traced.withSpan "call" (((valueAt c time e >>= fun x => liftM x.vector?) >>=
      fun v => if v.isEmpty then liftM (Expr.absentArgument [e]) >>= fun labels =>
        pure (single labels one) else pure (Value.vector .empty)) cache)).outcome = _
    rw [Traced.outcome_withSpan, bind_assoc, Step.outcome_bind]
    refine congrArg (_ >>= ·) (funext fun found => ?_)
    rw [Step.outcome_bind, Step.outcome_lift]
    cases found.1.vector? with
    | error err => rfl
    | ok v =>
      change ((if v.isEmpty then liftM (Expr.absentArgument [e]) >>= fun labels =>
        pure (single labels one) else pure (.vector .empty) : Step α (Value α)) found.2).outcome =
          .ok (.vector (absence e.absentMetric v), found.2)
      unfold absence
      cases v.isEmpty <;> rfl
  have htype := yields_valueAt c time h cache
  rw [hcall]
  cases hfound : (valueAt c time e cache).outcome with
  | error err => trivial
  | ok found =>
    obtain ⟨x, cache'⟩ := found
    obtain ⟨v, rfl⟩ := Value.eq_vector_of_valueType (htype _ hfound)
    exact ⟨⟨v, rfl, rfl⟩, rfl⟩

omit [SampleValue α] in
theorem AlikeSteps.ofFnM {R : Value α → Value α → Prop} {n : Nat}
    {x y : Fin n → Step α (Value α)} (h : ∀ i, AlikeSteps R (x i) (y i))
    (cache : SelectorCache α) :
    Alike (fun a b => (∀ i, R (a.1.get i) (b.1.get i)) ∧ a.2 = b.2)
      (Vector.ofFnM x cache).outcome (Vector.ofFnM y cache).outcome := by
  induction n with
  | zero =>
    rw [Vector.ofFnM_zero, Vector.ofFnM_zero]
    exact ⟨nofun, rfl⟩
  | succ n ih =>
    rw [Vector.ofFnM_succ, Vector.ofFnM_succ, Step.outcome_bind, Step.outcome_bind]
    refine (ih fun i => h i.castSucc).bind ?_
    rintro ⟨init, cache₁⟩ ⟨init', _⟩ ⟨hinit, rfl⟩
    rw [Step.outcome_bind, Step.outcome_bind]
    refine (h (Fin.last n) cache₁).bind ?_
    rintro ⟨last, cache₂⟩ ⟨last', _⟩ ⟨hlast, rfl⟩
    refine ⟨fun i => ?_, rfl⟩
    cases i using Fin.lastCases with
    | last => simpa using hlast
    | cast i => simpa using hinit i

end Stepwise

namespace Columnar

theorem alike_absent (h : e.check = .ok .vector) :
    Alike (fun x x' => ∀ i, ∃ v, x.atFrame i = .vector v ∧
        x'.atFrame i = .vector (absence e.absentMetric v))
      (eval c e).outcome (eval c (.call .absent [e])).outcome := by
  have hcall : (eval c (.call .absent [e])).outcome =
      (eval c e).outcome >>= fun x => callSpecial c.frames .absent [e] [x] := by
    rw [eval, Traced.outcome_withSpan, outcome_call c.frames (by decide)]
    change [eval c e].mapM (·.outcome) >>= _ = _
    rw [List.mapM_cons, List.mapM_nil, bind_assoc]
    rfl
  rw [hcall]
  cases hfound : (eval c e).outcome with
  | error err => trivial
  | ok x =>
    obtain ⟨rows, rfl⟩ := eq_vector_of_valueType (yields_eval c h x hfound)
    have hvalue (i : Fin c.frames.len) : (do
        if (← Stepwise.vectorArg (valuesAt [Column.vector rows] i) 0).isEmpty then
          return Stepwise.single (← Expr.absentArgument [e]) one
        else return .vector .empty) =
          Except.ok (Value.vector (absence e.absentMetric (rows.atFrame i))) := by
      change (if (rows.atFrame i).isEmpty then _ else _ : Except QueryError (Value α)) = _
      unfold absence
      cases (rows.atFrame i).isEmpty <;> rfl
    have hframes := framewise_absent [e] [Column.vector rows]
    obtain ⟨y, hy⟩ := hframes.exists_ok fun i => ⟨_, hvalue i⟩
    have hy' : callSpecial c.frames .absent [e] [Column.vector rows] = .ok y := hy
    change Alike _ (.ok (Column.vector rows))
      (callSpecial c.frames .absent [e] [Column.vector rows])
    rw [hy']
    intro i
    exact ⟨_, rfl, Except.ok.inj ((hframes.eq_ok hy i).symm.trans (hvalue i))⟩

end Columnar

omit [SampleValue α] in
theorem check_absent (h : e.valueType = .vector) :
    Alike (fun x x' => x = .vector ∧ x' = .vector) e.check (Expr.call .absent [e]).check := by
  have hcall : (Expr.call .absent [e]).check = e.check >>= fun t =>
      (if t = .vector then .ok () else .error (.argumentType .absent .vector t)) >>=
        fun _ => .ok .vector := by
    rw [Expr.check]
    change (Expr.checkArgs .absent 0 [e] >>= fun _ => .ok ValueType.vector) = _
    rw [Expr.checkArgs, bind_assoc]
    rfl
  rw [hcall]
  cases hcheck : e.check with
  | error fault => trivial
  | ok t =>
    obtain rfl : t = .vector := (Expr.valueType_eq_of_check hcheck).symm.trans h
    exact ⟨rfl, rfl⟩

structure AbsentWhereEmpty (c : Context α) (labels : Metric) (r r' : QueryResult α) : Prop where
  frames : r.frames = c.frames
  frames' : r'.frames = c.frames
  complementary : ∀ time ∈ c.frames.toList, ∃ v w, r.at? time = some (.vector v) ∧
    r'.at? time = some (.vector w) ∧ Complementary labels v w

theorem absentWhereEmpty_of_steps {labels : Metric} {steps steps' : Vector (Value α) c.frames.len}
    (h : ∀ i, ∃ v, steps.get i = .vector v ∧ steps'.get i = .vector (absence labels v)) :
    AbsentWhereEmpty c labels { frames := c.frames, steps }
      { frames := c.frames, steps := steps' } where
  frames := rfl
  frames' := rfl
  complementary time htime := by
    obtain ⟨i, hi⟩ := c.frames.mem_toList_iff.1 htime
    obtain ⟨v, hv, hw⟩ := h i
    exact ⟨v, absence labels v, QueryResult.at?_eq_some_iff.2 ⟨i, hi, hv⟩,
      QueryResult.at?_eq_some_iff.2 ⟨i, hi, hw⟩, complementary_absence labels v⟩

theorem alike_validate_absent (c : Context α) (h : e.valueType = .vector) :
    Alike (fun _ _ => e.check = .ok .vector) (c.validate e) (c.validate (.call .absent [e])) := by
  have hcheck := check_absent h
  unfold Context.validate
  cases he : e.check with
  | error fault =>
    rw [he] at hcheck
    cases ha : (Expr.call .absent [e]).check with
    | error fault' => trivial
    | ok t' =>
      rw [ha] at hcheck
      exact hcheck.elim
  | ok t =>
    rw [he] at hcheck
    cases ha : (Expr.call .absent [e]).check with
    | error fault' =>
      rw [ha] at hcheck
      exact hcheck.elim
    | ok t' =>
      rw [ha] at hcheck
      obtain ⟨rfl, rfl⟩ := hcheck
      change Alike _ (if c.expired then _ else _) (if c.expired then _ else _)
      cases c.expired with
      | true => trivial
      | false => exact rfl

theorem alike_evaluate_absent (strategy : Strategy) (c : Context α) (h : e.valueType = .vector) :
    Alike (AbsentWhereEmpty c e.absentMetric) (strategy.evaluate c e).outcome
      (strategy.evaluate c (.call .absent [e])).outcome := by
  have hvalidate := alike_validate_absent c h
  cases strategy with
  | interpreter =>
    change Alike _ (Stepwise.evaluate c e).outcome (Stepwise.evaluate c _).outcome
    rw [Stepwise.outcome_evaluate, Stepwise.outcome_evaluate]
    refine hvalidate.bind fun _ _ hcheck => ?_
    have hstep (i : Fin c.frames.len) : Stepwise.AlikeSteps
        (fun x x' => ∃ v, x = .vector v ∧ x' = .vector (absence e.absentMetric v))
        (Stepwise.evalAt c (c.frames.atIndex i) e)
        (Stepwise.evalAt c (c.frames.atIndex i) (.call .absent [e])) :=
      fun cache => Stepwise.alikeSteps_absent hcheck cache
    refine (Stepwise.AlikeSteps.ofFnM hstep SortedMap.empty).bind ?_
    rintro ⟨steps, cache⟩ ⟨steps', _⟩ ⟨hsteps, rfl⟩
    exact absentWhereEmpty_of_steps hsteps
  | batch =>
    change Alike _ (Columnar.evaluate c e).outcome (Columnar.evaluate c _).outcome
    rw [Columnar.outcome_evaluate, Columnar.outcome_evaluate]
    refine hvalidate.bind fun _ _ hcheck => (Columnar.alike_absent hcheck).bind fun x x' hx => ?_
    exact absentWhereEmpty_of_steps fun i => by simpa using hx i

/-- A vector and its absence fail together, and otherwise exactly one of them is empty at each
frame. The absence has one element then, with no labels if the vector is not a selector. The labels
of a selector are those for which one equality matcher asks, and no more than one. -/
theorem absent_complements (strategy : Strategy) (c : Context α) (h : e.valueType = .vector) :
    Alike (AbsentWhereEmpty c e.absentMetric) (strategy.evaluate c e).outcome
        (strategy.evaluate c (.call .absent [e])).outcome ∧
      ((∀ s, e ≠ .selector s) → e.absentMetric = .empty) ∧
      ∀ s, e = .selector s → ∀ name v, e.absentMetric.labels.get? name = some v ↔
        name ≠ metricName ∧ v ≠ "" ∧ LabelMatcher.equalValues s.matchers name = [v] := by
  refine ⟨alike_evaluate_absent strategy c h, Expr.absentMetric_of_not_selector, ?_⟩
  rintro s rfl name v
  exact LabelMatcher.get?_wanted_eq_some_iff

/-- The requests of the host at which they end. -/
def Expr.requestsEndingHere : Expr Binary64 :=
  .selector (.named "requests" [.of "host" .equal "a", .of "zone" .equal ""])

theorem requests_missing_once_ended :
    Expr.requestsEndingHere.valueType = .vector ∧ ∃ r r',
      (Strategy.batch.evaluate .endingRequests .requestsEndingHere).outcome = .ok r ∧
      (Strategy.batch.evaluate .endingRequests (.call .absent [.requestsEndingHere])).outcome =
        .ok r' ∧
      (∃ v w, r.at? 30000 = some (.vector v) ∧ r'.at? 30000 = some (.vector w) ∧
        v.isEmpty = false ∧ w.isEmpty = true) ∧
      ∃ w, r'.at? 90000 = some (.vector w) ∧ w.toList = [(.ofPairs [("host", "a")], one)] := by
  have hvector : Expr.requestsEndingHere.valueType = .vector := rfl
  obtain ⟨halike, -, -⟩ := absent_complements .batch .endingRequests hvector
  have hevaluated : (Strategy.batch.evaluate .endingRequests
      .requestsEndingHere).outcome.toOption.any (fun r =>
        r.steps.toArray[0]?.any (·.vector?.toOption.any (!·.isEmpty)) &&
        r.steps.toArray[2]?.any (·.vector?.toOption.any (·.isEmpty))) = true := by
    decide +kernel
  have hmetric : Expr.requestsEndingHere.absentMetric = .ofPairs [("host", "a")] := by
    decide +kernel
  obtain ⟨r, hr, hshown⟩ := exists_of_any hevaluated
  obtain ⟨hbefore, hafter⟩ := Bool.and_eq_true_iff.1 hshown
  rw [hr] at halike
  cases hr' : (Strategy.batch.evaluate .endingRequests
      (.call .absent [.requestsEndingHere])).outcome with
  | error err =>
    rw [hr'] at halike
    exact halike.elim
  | ok r' =>
    rw [hr', hmetric] at halike
    have hfirst : Context.endingRequests.frames.indexOf? 30000 = some 0 := by decide
    have hlast : Context.endingRequests.frames.indexOf? 90000 = some 2 := by decide
    have hat {time : Int} {k : Nat} (hk : Context.endingRequests.frames.indexOf? time = some k) :
        r.at? time = r.steps.toArray[k]? := by
      rw [← halike.frames] at hk
      unfold QueryResult.at?
      rw [hk]
      rfl
    refine ⟨hvector, r, r', hr, rfl, ?_, ?_⟩
    · obtain ⟨v, w, hv, hw, hexactly⟩ := halike.complementary 30000 (by decide)
      rw [← hat hfirst, hv] at hbefore
      have hsome : v.isEmpty = false := Bool.not_eq_true' v.isEmpty |>.mp hbefore
      exact ⟨v, w, hv, hw, hsome, hexactly.isEmpty_iff.2 hsome⟩
    · obtain ⟨v, w, hv, hw, hexactly⟩ := halike.complementary 90000 (by decide)
      rw [← hat hlast, hv] at hafter
      exact ⟨w, hw, hexactly.toList_eq hafter⟩

end SeriesQuery
