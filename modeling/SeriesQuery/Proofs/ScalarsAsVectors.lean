import SeriesQuery.Proofs.ResultMetrics
import SeriesQuery.Proofs.SameValues
import SeriesQuery.Proofs.Soundness.Results
import SeriesQuery.Proofs.VectorMatching

/-!
# Scalars as vectors

A vector is combined with a scalar as it is with the vector that the scalar makes: this has one
element without labels, with which each element of the other side is matched. Only a comparison
that filters tells the sides apart, since it keeps the value on its left.
-/

namespace SeriesQuery

/-- Each element of one side is matched with the only element of the other. -/
def VectorMatching.withSingle (singleOnLeft : Bool) : VectorMatching :=
  ⟨if singleOnLeft then .oneToMany else .manyToOne, some (.on []), []⟩

variable {α : Type} [SampleValue α]

section Check

theorem isSet_of_checkBinary {op : BinaryOp} {matching : VectorMatching} {toBool : Bool}
    {l r t : ValueType} (hsides : ¬(l = .vector ∧ r = .vector))
    (h : checkBinary op matching toBool l r = .ok t) : op.isSet = false := by
  rw [Bool.eq_false_iff]
  intro hset
  unfold checkBinary at h
  dsimp only at h
  rw [if_pos (show op.isSet = true ∧ ¬(l = .vector ∧ r = .vector) from ⟨hset, hsides⟩)] at h
  split_ifs at h

variable (op : BinaryOp) (toBool : Bool)

theorem checkBinary_withSingle (singleOnLeft : Bool) :
    SameResult
      (checkBinary op (.default op) toBool (if singleOnLeft then .scalar else .vector)
        (if singleOnLeft then .vector else .scalar))
      (checkBinary op (.withSingle singleOnLeft) toBool .vector .vector) := by
  refine .of_toOption ?_
  cases singleOnLeft <;> cases toBool <;> cases op <;> rfl

end Check

section Values

theorem restrict_withSingle (singleOnLeft : Bool) (labels : Labels) :
    labels.restrict (VectorMatching.withSingle singleOnLeft).filter = .empty :=
  SortedMap.ext_toList (List.filter_eq_nil_iff.2 fun e _ => by simp [VectorMatching.withSingle,
    VectorMatching.filter, LabelFilter.admits])

theorem outputMetric_eq (op : BinaryOp) (toBool : Bool) (m : Metric) :
    op.outputMetric toBool m =
      .ofLabels (m.labels.filter fun name _ =>
        !(op.dropsMetricName toBool && name == metricName)) := by
  unfold BinaryOp.outputMetric
  cases op.dropsMetricName toBool with
  | true => rfl
  | false => exact Metric.ext_labels (SortedMap.filter_true m.labels).symm

theorem resultMetric_withSingle (op : BinaryOp) (toBool singleOnLeft : Bool) (many one : Metric) :
    resultMetric op (.withSingle singleOnLeft) toBool many one = op.outputMetric toBool many := by
  rw [resultMetric_eq rfl, outputMetric_eq]
  refine congrArg (fun p => Metric.ofLabels (many.labels.filter p)) (funext fun name => ?_)
  cases singleOnLeft <;> simp [VectorMatching.keeps, VectorMatching.withSingle]

/-- The value of an element that is combined with a scalar, read off the values of both sides. A
filtering comparison keeps the left one of these, so an element has to stand there. -/
theorem combineScalar_eq {op : BinaryOp} {toBool scalarOnLeft : Bool}
    (h : scalarOnLeft = true → op.isComparison = true → toBool = true) (x y : α) :
    op.combineScalar toBool scalarOnLeft x y =
      op.combine toBool (if scalarOnLeft then y else x) (if scalarOnLeft then x else y) := by
  unfold BinaryOp.combineScalar BinaryOp.combine
  cases scalarOnLeft with
  | false =>
    by_cases hfilters : (op.isComparison && !toBool) = true
    · by_cases hkept : op.compare x y = true <;> simp [hfilters, hkept]
    · simp [hfilters]
  | true =>
    have hkeeps : ¬(op.isComparison && !toBool) = true := by
      rw [Bool.and_eq_true, Bool.not_eq_true']
      rintro ⟨hcomparison, hbool⟩
      cases hbool.symm.trans (h rfl hcomparison)
    simp only [if_neg hkeeps, if_true]

omit [SampleValue α] in
/-- All elements are paired with the only one of the other side, whose key labels are theirs. -/
theorem pairsWith_only {ι : Type} (join : Keyed ι α → Keyed ι α → Option (Joined ι α))
    {many : List (Keyed ι α)} {only : Keyed ι α}
    (h : ∀ e ∈ many, e.key.labels = only.key.labels) :
    pairsWith (partnerOf [only]) join many = many.filterMap (join · only) := by
  unfold pairsWith
  rw [List.filterMap_eq_flatMap_toList]
  refine List.flatMap_congr fun e he => ?_
  have hfound : partnerOf [only] e.key.labels = some only :=
    List.find?_cons_of_pos (by rw [h e he, beq_self_eq_true])
  rw [hfound, Option.bind_some]

section Joined

variable {ι : Type} {op : BinaryOp} {matching : VectorMatching} {toBool : Bool} {hash : LabelHash}

theorem joinStep_only {left right many : List (Keyed ι α)} {only : Keyed ι α}
    (hcardinality : matching.cardinality ≠ .oneToOne)
    (hmany : matching.cardinality.many left right = many)
    (hone : matching.cardinality.one left right = [only])
    (hashed : ∀ e ∈ many, e.Hashed hash) (honly : only.Hashed hash)
    (hkeys : ∀ e ∈ many, e.key.labels = only.key.labels) :
    joinStep op matching toBool left right =
      .ok (many.filterMap (joinPartner op matching.cardinality toBool · only)) := by
  by_cases hempty : left = [] ∨ right = []
  · have hnone : many = [] := by
      unfold Cardinality.many Cardinality.one at *
      split at hmany <;> simp_all
    unfold joinStep
    rw [if_pos (by simpa using hempty), hnone]
    rfl
  · rw [not_or] at hempty
    rw [joinStep_eq_bind op matching toBool hempty.1 hempty.2, hmany, hone,
      ← pairsWith_only (joinPartner op matching.cardinality toBool) hkeys]
    refine (pairUp_uniqueByKey_eq_ok_iff _ _ _ hashed (by simpa using honly)).2 ⟨?_, rfl⟩
    exact ⟨List.nodup_singleton _, fun hsingle => absurd (of_decide_eq_true hsingle) hcardinality⟩

end Joined

section Elements

variable (hash : LabelHash) {op : BinaryOp} {toBool singleOnLeft : Bool}

def scalarElements (op : BinaryOp) (toBool scalarOnLeft : Bool) (v : SeriesMap α) (y : α) :
    List (Metric × α) :=
  v.toList.filterMap fun e =>
    (op.combineScalar toBool scalarOnLeft e.2 y).map fun z => (op.outputMetric toBool e.1, z)

def unlabelled (y : α) : SeriesMap α := SortedMap.empty.insert Metric.empty y

theorem combineVectors_withSingle (hset : op.isSet = false)
    (hvalue : singleOnLeft = true → op.isComparison = true → toBool = true)
    (v : SeriesMap α) (y : α) :
    combineVectors op (.withSingle singleOnLeft) toBool
        (keyed hash (VectorMatching.withSingle singleOnLeft).filter
          (if singleOnLeft then unlabelled y else v).toList)
        (keyed hash (VectorMatching.withSingle singleOnLeft).filter
          (if singleOnLeft then v else unlabelled y).toList) =
      collect .notUnique (scalarElements op toBool singleOnLeft v y) := by
  let filter := (VectorMatching.withSingle singleOnLeft).filter
  let only : Keyed Metric α := ⟨Metric.empty, .of hash filter Metric.empty, y⟩
  have honly : only.Hashed hash := rfl
  have hkeys : ∀ e ∈ keyed hash filter v.toList, e.key.labels = only.key.labels := by
    intro e he
    obtain ⟨⟨m, x⟩, -, rfl⟩ := List.mem_map.1 he
    exact (restrict_withSingle _ m.labels).trans (restrict_withSingle _ _).symm
  have hjoined : joinStep op (.withSingle singleOnLeft) toBool
      (keyed hash filter (if singleOnLeft then unlabelled y else v).toList)
      (keyed hash filter (if singleOnLeft then v else unlabelled y).toList) = _ :=
    joinStep_only
      (by cases singleOnLeft <;> decide)
      (by cases singleOnLeft <;> rfl) (by cases singleOnLeft <;> rfl)
      (fun _ => hashed_of_mem_keyed) honly hkeys
  unfold combineVectors
  rw [hset, hjoined]
  change collect .notUnique (List.map _ _) = _
  refine congrArg (collect .notUnique) ?_
  unfold scalarElements keyed
  rw [List.filterMap_map, List.map_filterMap]
  refine List.filterMap_congr fun e _ => ?_
  rw [combineScalar_eq hvalue]
  simp only [Function.comp_apply, joinPartner, joinPair, Option.map_map, resultMetric_withSingle]
  cases singleOnLeft <;> rfl

end Elements

theorem Value.binary_withSingle (hash : LabelHash) {op : BinaryOp} (hset : op.isSet = false)
    (matching : VectorMatching) {toBool : Bool} (singleOnLeft : Bool)
    (hvalue : singleOnLeft = true → op.isComparison = true → toBool = true)
    (v : SeriesMap α) (y : α) :
    SameResult
      (Value.binary hash op matching toBool (if singleOnLeft then .scalar y else .vector v)
        (if singleOnLeft then .vector v else .scalar y))
      (Value.binary hash op (.withSingle singleOnLeft) toBool
        (.vector (if singleOnLeft then unlabelled y else v))
        (.vector (if singleOnLeft then v else unlabelled y))) := by
  have hscalar : Value.binary hash op matching toBool
      (if singleOnLeft then .scalar y else .vector v)
      (if singleOnLeft then .vector v else .scalar y) =
        Value.vector <$> collect .duplicateSeries (scalarElements op toBool singleOnLeft v y) := by
    cases singleOnLeft <;> rfl
  have hvector : Value.binary hash op (.withSingle singleOnLeft) toBool
      (.vector (if singleOnLeft then unlabelled y else v))
      (.vector (if singleOnLeft then v else unlabelled y)) =
        Value.vector <$> collect .notUnique (scalarElements op toBool singleOnLeft v y) :=
    congrArg (Value.vector <$> ·) (combineVectors_withSingle hash hset hvalue v y)
  rw [hscalar, hvector]
  refine SameResult.map _ fun m => ?_
  rw [collect_eq_ok_iff, collect_eq_ok_iff]

end Values

/-- A computation is like itself, where its results are known to have a property. -/
theorem Alike.of_yields {β : Type} {P : β → Prop} {x : Except QueryError β} (h : Yields P x) :
    Alike (fun b b' => b = b' ∧ P b) x x := by
  cases x with
  | error e => trivial
  | ok b => exact ⟨rfl, h b rfl⟩

theorem Alike.mono {ε ε' β γ : Type} {R S : β → γ → Prop} {x : Except ε β} {y : Except ε' γ}
    (h : Alike R x y) (hRS : ∀ b c, R b c → S b c) : Alike S x y := by
  have hbind := h.bind (S := S) (f := Except.ok) (g := Except.ok) hRS
  cases x <;> cases y <;> exact hbind

section Evaluators

variable {c : Context α} {op : BinaryOp} {matching matching' : VectorMatching} {toBool : Bool}
  {l l' r r' e e' : Expr α}

namespace Stepwise

variable {time : Int}

/-- Steps that both fail or yield related values and remember the same series. -/
def AlikeSteps (R : Value α → Value α → Prop) (x y : Step α (Value α)) : Prop :=
  ∀ cache, Alike (fun a b => R a.1 b.1 ∧ a.2 = b.2) (x cache).outcome (y cache).outcome

theorem alikeSteps_self {t : ValueType} (h : e.check = .ok t) :
    AlikeSteps (fun x x' => x = x' ∧ x.valueType = t) (valueAt c time e) (valueAt c time e) :=
  fun cache => (Alike.of_yields (yields_valueAt c time h cache)).mono
    fun _ _ ⟨hsame, htype⟩ => ⟨⟨congrArg Prod.fst hsame, htype⟩, congrArg Prod.snd hsame⟩

theorem alikeSteps_vector (h : e.check = .ok .scalar) :
    AlikeSteps (fun x x' => ∃ y, x = .scalar y ∧ x' = .vector (unlabelled y)) (valueAt c time e)
      (valueAt c time (.call .vector [e])) := by
  intro cache
  have hcall : (valueAt c time (.call .vector [e]) cache).outcome =
      (valueAt c time e cache).outcome >>= fun found =>
        (fun y => (.vector (unlabelled y), found.2)) <$> found.1.scalar? := by
    change (Traced.withSpan "call" (((valueAt c time e >>= fun x => liftM x.scalar?) >>=
      fun y => pure (Value.vector (unlabelled y))) cache)).outcome = _
    rw [Traced.outcome_withSpan, bind_assoc, Step.outcome_bind]
    refine congrArg (_ >>= ·) (funext fun found => ?_)
    rw [Step.outcome_bind, Step.outcome_lift]
    cases found.1.scalar? <;> rfl
  have htype := yields_valueAt c time h cache
  rw [hcall]
  cases hfound : (valueAt c time e cache).outcome with
  | error err => trivial
  | ok found =>
    obtain ⟨x, cache'⟩ := found
    have hscalar : x.valueType = .scalar := htype _ hfound
    cases x with
    | scalar y => exact ⟨⟨y, rfl, rfl⟩, rfl⟩
    | _ => cases hscalar

theorem sameResult_binary {L R : Value α → Value α → Prop}
    (hl : AlikeSteps L (valueAt c time l) (valueAt c time l'))
    (hr : AlikeSteps R (valueAt c time r) (valueAt c time r'))
    (h : ∀ x x' y y', L x x' → R y y' →
      SameResult (Value.binary c.hash op matching toBool x y)
        (Value.binary c.hash op matching' toBool x' y')) (cache : SelectorCache α) :
    SameResult (valueAt c time (.binary op l r matching toBool) cache).outcome
      (valueAt c time (.binary op l' r' matching' toBool) cache).outcome := by
  change SameResult (Traced.withSpan "binary" ((valueAt c time l >>= fun x =>
      valueAt c time r >>= fun y =>
        liftM (Value.binary c.hash op matching toBool x y)) cache)).outcome
    (Traced.withSpan "binary" ((valueAt c time l' >>= fun x => valueAt c time r' >>= fun y =>
      liftM (Value.binary c.hash op matching' toBool x y)) cache)).outcome
  rw [Traced.outcome_withSpan, Traced.outcome_withSpan, Step.outcome_bind, Step.outcome_bind,
    ← Alike.eq_iff]
  refine (hl cache).bind ?_
  rintro ⟨x, cache₁⟩ ⟨x', _⟩ ⟨hx, rfl⟩
  rw [Step.outcome_bind, Step.outcome_bind]
  refine (hr cache₁).bind ?_
  rintro ⟨y, cache₂⟩ ⟨y', _⟩ ⟨hy, rfl⟩
  rw [Step.outcome_lift, Step.outcome_lift, Alike.eq_iff]
  exact (h x x' y y' hx hy).map _

end Stepwise

namespace Columnar

theorem alike_self {t : ValueType} (h : e.check = .ok t) :
    Alike (fun x x' => x = x' ∧ x.valueType = t) (eval c e).outcome (eval c e).outcome :=
  .of_yields (yields_eval c h)

theorem alike_vector (h : e.check = .ok .scalar) :
    Alike (fun x x' => ∃ y, x = .scalar y ∧ ∀ i, x'.atFrame i = .vector (unlabelled (y.get i)))
      (eval c e).outcome (eval c (.call .vector [e])).outcome := by
  have hcall : (eval c (.call .vector [e])).outcome =
      (eval c e).outcome >>= fun x => callValues c.frames .vector [e] [x] := by
    rw [eval, Traced.outcome_withSpan, outcome_call c.frames (by decide)]
    change [eval c e].mapM (·.outcome) >>= _ = _
    rw [List.mapM_cons, List.mapM_nil, bind_assoc]
    rfl
  rw [hcall]
  cases hfound : (eval c e).outcome with
  | error err => trivial
  | ok x =>
    obtain ⟨y, rfl⟩ := eq_scalar_of_valueType (yields_eval c h x hfound)
    exact ⟨y, rfl, fun i => atFrame_single _ (vector_get_map ..)⟩

theorem alike_binary {L R : Column α c.frames.len → Column α c.frames.len → Prop}
    (hl : Alike L (eval c l).outcome (eval c l').outcome)
    (hr : Alike R (eval c r).outcome (eval c r').outcome)
    (h : ∀ x x' y y', L x x' → R y y' → ∀ i,
      SameResult (Value.binary c.hash op matching toBool (x.atFrame i) (y.atFrame i))
        (Value.binary c.hash op matching' toBool (x'.atFrame i) (y'.atFrame i))) :
    Alike (fun z z' => ∀ i, z.atFrame i = z'.atFrame i)
      (eval c (.binary op l r matching toBool)).outcome
      (eval c (.binary op l' r' matching' toBool)).outcome := by
  simp only [eval, Traced.outcome_withSpan, Traced.outcome_bind]
  refine hl.bind fun x x' hx => hr.bind fun y y' hy => ?_
  exact (framewise_binary c.hash op matching toBool x y).alike
    (framewise_binary c.hash op matching' toBool x' y') (h x x' y y' hx hy)

end Columnar

end Evaluators

section Operands

variable {op : BinaryOp} {toBool : Bool} {v s : Expr α}

omit [SampleValue α] in
/-- The check finds the type of an expression, if it finds any. -/
theorem alike_check_self {t : ValueType} {e : Expr α} (h : e.valueType = t) :
    Alike (fun x x' => x = t ∧ x' = t) e.check e.check := by
  cases hcheck : e.check with
  | error fault => trivial
  | ok t' =>
    have htype := (Expr.valueType_eq_of_check hcheck).symm.trans h
    exact ⟨htype, htype⟩

omit [SampleValue α] in
theorem alike_check_vector (h : s.valueType = .scalar) :
    Alike (fun x x' => x = .scalar ∧ x' = .vector) s.check (Expr.call .vector [s]).check := by
  have hcall : (Expr.call .vector [s]).check = s.check >>= fun t =>
      (if t = .scalar then .ok () else .error (.argumentType .vector .scalar t)) >>=
        fun _ => .ok .vector := by
    rw [Expr.check]
    change (Expr.checkArgs .vector 0 [s] >>= fun _ => .ok ValueType.vector) = _
    rw [Expr.checkArgs, bind_assoc]
    rfl
  rw [hcall]
  cases hcheck : s.check with
  | error fault => trivial
  | ok t =>
    obtain rfl : t = .scalar := (Expr.valueType_eq_of_check hcheck).symm.trans h
    exact ⟨rfl, rfl⟩

omit [SampleValue α] in
theorem check_scalar_right (op : BinaryOp) (toBool : Bool) (hv : v.valueType = .vector)
    (hs : s.valueType = .scalar) :
    SameResult (Expr.binary op v s (.default op) toBool).check
      (Expr.binary op v (.call .vector [s]) (.withSingle false) toBool).check := by
  rw [Expr.check, Expr.check, ← Alike.eq_iff]
  refine (alike_check_self hv).bind ?_
  rintro _ _ ⟨rfl, rfl⟩
  refine (alike_check_vector hs).bind ?_
  rintro _ _ ⟨rfl, rfl⟩
  exact Alike.eq_iff.2 (checkBinary_withSingle op toBool false)

omit [SampleValue α] in
theorem check_scalar_left (op : BinaryOp) (toBool : Bool) (hv : v.valueType = .vector)
    (hs : s.valueType = .scalar) :
    SameResult (Expr.binary op s v (.default op) toBool).check
      (Expr.binary op (.call .vector [s]) v (.withSingle true) toBool).check := by
  rw [Expr.check, Expr.check, ← Alike.eq_iff]
  refine (alike_check_vector hs).bind ?_
  rintro _ _ ⟨rfl, rfl⟩
  refine (alike_check_self hv).bind ?_
  rintro _ _ ⟨rfl, rfl⟩
  exact Alike.eq_iff.2 (checkBinary_withSingle op toBool true)

omit [SampleValue α] in
theorem operands_of_check {l r : Expr α} {t : ValueType}
    (h : (Expr.binary op l r (.default op) toBool).check = .ok t)
    (hsides : ¬(l.valueType = .vector ∧ r.valueType = .vector)) :
    l.check = .ok l.valueType ∧ r.check = .ok r.valueType ∧ op.isSet = false := by
  rw [Expr.check, bind_eq_ok_iff] at h
  obtain ⟨lt, hl, h⟩ := h
  obtain ⟨rt, hr, h⟩ := bind_eq_ok_iff.1 h
  obtain rfl := Expr.valueType_eq_of_check hl
  obtain rfl := Expr.valueType_eq_of_check hr
  refine ⟨hl, hr, ?_⟩
  exact isSet_of_checkBinary hsides h

/-- A vector and a scalar are combined as the vector and the one that the scalar makes, in both
evaluators and whatever the gateway answers. So are a scalar and a vector, unless the operator is a
comparison that filters. -/
theorem scalar_operand_as_vector (strategy : Strategy) (c : Context α)
    (hv : v.valueType = .vector) (hs : s.valueType = .scalar) (op : BinaryOp) (toBool : Bool) :
    SameResult (strategy.evaluate c (.binary op v s (.default op) toBool)).outcome
        (strategy.evaluate c
          (.binary op v (.call .vector [s]) (.withSingle false) toBool)).outcome ∧
      ((op.isComparison = true → toBool = true) →
        SameResult (strategy.evaluate c (.binary op s v (.default op) toBool)).outcome
          (strategy.evaluate c
            (.binary op (.call .vector [s]) v (.withSingle true) toBool)).outcome) := by
  constructor
  · have hcheck := check_scalar_right op toBool hv hs
    have hparts {t : ValueType} (h : (Expr.binary op v s (.default op) toBool).check = .ok t) :=
      operands_of_check h (by simp [hs])
    rw [hv, hs] at hparts
    cases strategy with
    | interpreter =>
      refine Stepwise.sameResult_evaluate hcheck fun t ht time cache => ?_
      obtain ⟨hvector, hscalar, hset⟩ := hparts ht
      refine Stepwise.sameResult_binary (Stepwise.alikeSteps_self hvector)
        (Stepwise.alikeSteps_vector hscalar) ?_ cache
      rintro x _ _ _ ⟨rfl, hx⟩ ⟨y, rfl, rfl⟩
      obtain ⟨w, rfl⟩ := Value.eq_vector_of_valueType hx
      exact Value.binary_withSingle c.hash hset _ false nofun w y
    | batch =>
      refine Columnar.sameResult_evaluate hcheck fun t ht => ?_
      obtain ⟨hvector, hscalar, hset⟩ := hparts ht
      refine Columnar.alike_binary (Columnar.alike_self hvector) (Columnar.alike_vector hscalar) ?_
      rintro x _ _ y' ⟨rfl, hx⟩ ⟨y, rfl, hy⟩ i
      obtain ⟨rows, rfl⟩ := Columnar.eq_vector_of_valueType hx
      rw [hy]
      exact Value.binary_withSingle c.hash hset _ false nofun (rows.atFrame i)
        (y.get i)
  · intro hvalue
    have hcheck := check_scalar_left op toBool hv hs
    have hparts {t : ValueType} (h : (Expr.binary op s v (.default op) toBool).check = .ok t) :=
      operands_of_check h (by simp [hs])
    rw [hv, hs] at hparts
    cases strategy with
    | interpreter =>
      refine Stepwise.sameResult_evaluate hcheck fun t ht time cache => ?_
      obtain ⟨hscalar, hvector, hset⟩ := hparts ht
      refine Stepwise.sameResult_binary (Stepwise.alikeSteps_vector hscalar)
        (Stepwise.alikeSteps_self hvector) ?_ cache
      rintro _ _ x _ ⟨y, rfl, rfl⟩ ⟨rfl, hx⟩
      obtain ⟨w, rfl⟩ := Value.eq_vector_of_valueType hx
      exact Value.binary_withSingle c.hash hset _ true (fun _ => hvalue) w y
    | batch =>
      refine Columnar.sameResult_evaluate hcheck fun t ht => ?_
      obtain ⟨hscalar, hvector, hset⟩ := hparts ht
      refine Columnar.alike_binary (Columnar.alike_vector hscalar) (Columnar.alike_self hvector) ?_
      rintro _ y' x _ ⟨y, rfl, hy⟩ ⟨rfl, hx⟩ i
      obtain ⟨rows, rfl⟩ := Columnar.eq_vector_of_valueType hx
      rw [hy]
      exact Value.binary_withSingle c.hash hset _ true (fun _ => hvalue)
        (rows.atFrame i) (y.get i)

end Operands

def Expr.now : Expr Binary64 := .call .time []

theorem requests_beside_time :
    Expr.requests.valueType = .vector ∧ Expr.now.valueType = .scalar ∧
    (∃ r, (Strategy.batch.evaluate .requests
        (.binary .lt .requests .now (.default .lt) false)).outcome = .ok r ∧
      (Strategy.batch.evaluate .requests
        (.binary .lt .requests (.call .vector [.now]) (.withSingle false) false)).outcome =
          .ok r) ∧
    ∃ r, (Strategy.batch.evaluate .requests
        (.binary .sub .now .requests (.default .sub) false)).outcome = .ok r ∧
      (Strategy.batch.evaluate .requests
        (.binary .sub (.call .vector [.now]) .requests (.withSingle true) false)).outcome =
          .ok r := by
  have hvector : Expr.requests.valueType = .vector := rfl
  have hscalar : Expr.now.valueType = .scalar := rfl
  have hright := (scalar_operand_as_vector .batch .requests hvector hscalar .lt false).1
  have hleft := (scalar_operand_as_vector .batch .requests hvector hscalar .sub false).2 nofun
  have hlt : (Strategy.batch.evaluate .requests
      (.binary .lt .requests .now (.default .lt) false)).outcome.isOk = true := by
    decide +kernel
  have hsub : (Strategy.batch.evaluate .requests
      (.binary .sub .now .requests (.default .sub) false)).outcome.isOk = true := by
    decide +kernel
  obtain ⟨r, hr⟩ := exists_of_isOk hlt
  obtain ⟨r', hr'⟩ := exists_of_isOk hsub
  exact ⟨hvector, hscalar, ⟨r, hr, (hright r).1 hr⟩, r', hr', (hleft r').1 hr'⟩

end SeriesQuery
