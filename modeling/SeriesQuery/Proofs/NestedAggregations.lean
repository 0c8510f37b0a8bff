import SeriesQuery.Proofs.Aggregation
import SeriesQuery.Proofs.ExactFolds
import SeriesQuery.Proofs.SameValues

/-!
# Nested aggregations

Groups of groups are groups: a vector that was grouped by some labels and is grouped again by fewer
of them falls into the groups that the fewer labels make at once. So an operator that can reduce a
group by parts may be applied in two steps. In exact numbers sums, extremes and counts can.
-/

namespace SeriesQuery

open Numeric

variable {α : Type}

/-- One filter admits nothing that the other leaves out. -/
def LabelFilter.Coarser (coarse fine : LabelFilter) : Prop :=
  ∀ name, coarse.admits name = true → fine.admits name = true

theorem Labels.restrict_restrict_of_coarser {coarse fine : LabelFilter}
    (h : coarse.Coarser fine) (labels : Labels) :
    (labels.restrict fine).restrict coarse = labels.restrict coarse := by
  apply SortedMap.ext_toList
  change (labels.toList.filter _).filter _ = labels.toList.filter _
  rw [List.filter_filter]
  refine List.filter_congr fun e _ => ?_
  rw [Bool.and_eq_left_iff_imp]
  exact h e.1

theorem Grouping.coarser_keeping {names more : List String} (h : names ⊆ more) :
    (keeping names).filter.Coarser (keeping more).filter := by
  intro name hname
  simp only [filter, LabelFilter.admits, Bool.false_and, Bool.or_false, List.contains_iff_mem]
    at hname ⊢
  exact h hname

/-- A vector with one element for each group of the elements of another one: the labels of the
group and what a function makes of its values in order. -/
def ReducesTo (f : List α → α) (filter : LabelFilter) (v out : SeriesMap α) : Prop :=
  ∀ m x, out.get? m = some x ↔ ∃ labels, m = .ofLabels labels ∧
    members filter v.toList labels ≠ [] ∧ f ((members filter v.toList labels).map Prod.snd) = x

namespace ReducesTo

variable {inner outer whole : List α → α} {coarse fine : LabelFilter} {v mid out : SeriesMap α}

theorem unique (h : ReducesTo whole coarse v mid) (h' : ReducesTo whole coarse v out) :
    mid = out :=
  SortedMap.ext_get? fun m => Option.ext fun x => (h m x).trans (h' m x).symm

theorem eq_of_mem (h : ReducesTo inner fine v mid) {e : Metric × α} (he : e ∈ mid.toList) :
    members fine v.toList e.1.labels ≠ [] ∧
      e.2 = inner ((members fine v.toList e.1.labels).map Prod.snd) := by
  obtain ⟨labels, hlabels, hne, hvalue⟩ := (h e.1 e.2).1 (SortedMap.get?_eq_some_iff.2 he)
  rw [hlabels]
  exact ⟨hne, hvalue.symm⟩

theorem exists_mem (h : ReducesTo inner fine v mid) {e : Metric × α} (he : e ∈ v.toList) :
    ∃ e' ∈ mid.toList, e'.1.labels = e.1.labels.restrict fine := by
  have hmem : e ∈ members fine v.toList (e.1.labels.restrict fine) := mem_members_iff.2 ⟨he, rfl⟩
  have hget := (h (.ofLabels (e.1.labels.restrict fine)) _).2
    ⟨_, rfl, List.ne_nil_of_mem hmem, rfl⟩
  exact ⟨_, SortedMap.get?_eq_some_iff.1 hget, rfl⟩

/-- The members of a coarse group are those of the fine groups that are in it. -/
theorem members_perm (h : ReducesTo inner fine v mid) (hcoarser : coarse.Coarser fine)
    (labels : Labels) :
    ((members coarse mid.toList labels).flatMap fun e => members fine v.toList e.1.labels).Perm
      (members coarse v.toList labels) := by
  have hnodup : v.toList.Nodup := v.nodup_keys.of_map
  have hdistinct : (members coarse mid.toList labels).Pairwise fun e e' => e.1 ≠ e'.1 :=
    List.pairwise_map.1 (mid.nodup_keys.sublist (List.filter_sublist.map Prod.fst))
  have hparts : ((members coarse mid.toList labels).flatMap
      fun e => members fine v.toList e.1.labels).Nodup := by
    rw [List.nodup_flatMap]
    refine ⟨fun e _ => hnodup.filter _, hdistinct.imp fun hne x hx hx' => hne ?_⟩
    apply Metric.ext_labels
    exact (mem_members_iff.1 hx).2.symm.trans (mem_members_iff.1 hx').2
  have hall : (members coarse v.toList labels).Nodup := hnodup.filter _
  refine (List.perm_ext_iff_of_nodup hparts hall).2 fun x => ?_
  rw [List.mem_flatMap, mem_members_iff]
  constructor
  · rintro ⟨e, he, hx⟩
    obtain ⟨hmem, hfine⟩ := mem_members_iff.1 hx
    refine ⟨hmem, ?_⟩
    rw [← Labels.restrict_restrict_of_coarser hcoarser, hfine, (mem_members_iff.1 he).2]
  · rintro ⟨hmem, hlabels⟩
    obtain ⟨e, he, hfine⟩ := h.exists_mem hmem
    refine ⟨e, mem_members_iff.2 ⟨he, ?_⟩, mem_members_iff.2 ⟨hmem, hfine.symm⟩⟩
    rw [hfine, Labels.restrict_restrict_of_coarser hcoarser, hlabels]

end ReducesTo

/-- What reductions of parts are reduced to does not depend on the parts. -/
structure ReducesByParts (inner outer whole : List α → α) : Prop where
  perm : ∀ {values values' : List α}, values.Perm values' → whole values = whole values'
  flatten : ∀ parts : List (List α), outer (parts.map inner) = whole parts.flatten

theorem reducesByParts_foldl {f : α → α → α} {e : α} [Std.Associative f] [Std.Commutative f]
    [Std.LawfulIdentity f e] :
    ReducesByParts (List.foldl f e) (List.foldl f e) (List.foldl f e) where
  perm h := h.foldl_op_eq
  flatten := foldl_map_foldl

theorem reducesByParts_leastBy {κ : Type} [LinearOrder κ] {key : α → κ}
    (hkey : Function.Injective key) {top : α} (htop : ∀ x, key x ≤ key top) :
    ReducesByParts (List.foldl (leastBy key) top) (List.foldl (leastBy key) top)
      (List.foldl (leastBy key) top) := by
  have := leastBy_assoc hkey
  have := leastBy_comm hkey
  have := leastBy_identity hkey htop
  exact reducesByParts_foldl

theorem ReducesTo.regroup {inner outer whole : List α → α} {coarse fine : LabelFilter}
    {v mid out : SeriesMap α} (hparts : ReducesByParts inner outer whole)
    (hcoarser : coarse.Coarser fine) (hinner : ReducesTo inner fine v mid)
    (houter : ReducesTo outer coarse mid out) : ReducesTo whole coarse v out := by
  intro m x
  rw [houter m x]
  refine exists_congr fun labels => and_congr_right fun _ => ?_
  have hperm := hinner.members_perm hcoarser labels
  have hmid (e : Metric × α) (he : e ∈ members coarse mid.toList labels) :=
    hinner.eq_of_mem (mem_members_iff.1 he).1
  have hvalues : (members coarse mid.toList labels).map Prod.snd =
      ((members coarse mid.toList labels).map fun e =>
        (members fine v.toList e.1.labels).map Prod.snd).map inner := by
    rw [List.map_map]
    exact List.map_congr_left fun e he => (hmid e he).2
  have hwhole : outer ((members coarse mid.toList labels).map Prod.snd) =
      whole ((members coarse v.toList labels).map Prod.snd) := by
    rw [hvalues, hparts.flatten, ← List.flatMap_def, ← List.map_flatMap]
    exact hparts.perm (hperm.map Prod.snd)
  have hempty : members coarse mid.toList labels = [] ↔ members coarse v.toList labels = [] := by
    constructor
    · intro hnil
      rw [hnil] at hperm
      exact hperm.nil_eq.symm
    · intro hnil
      rw [hnil, List.perm_nil, List.flatMap_eq_nil_iff] at hperm
      exact List.eq_nil_iff_forall_not_mem.2 fun e he => (hmid e he).1 (hperm e he)
  rw [hwhole, ne_eq, hempty]

section Operators

variable [SampleValue α] {inner outer whole : AggregateOp} {coarse fine : Grouping}

/-- An operator makes one value of the values of a group and takes no parameter for it. -/
structure AggregateOp.Reduces (op : AggregateOp) (f : List α → α) : Prop where
  parameterType : op.parameterType = none
  reduce : ∀ values p, op.reduce values p = .value (f values)

/-- Two operators, one after the other, reduce a group by parts as a third one reduces it. -/
def AggregateOp.Collapse (α : Type) [SampleValue α] (inner outer whole : AggregateOp) : Prop :=
  ∃ f g h : List α → α, inner.Reduces f ∧ outer.Reduces g ∧ whole.Reduces h ∧ ReducesByParts f g h

theorem AggregateOp.Reduces.yieldsValue {op : AggregateOp} {f : List α → α} (h : op.Reduces f) :
    op.yieldsValue = true := by
  cases op
  case topk => cases h.parameterType
  case bottomk => cases h.parameterType
  case countValues => cases h.parameterType
  all_goals rfl

theorem Value.exists_reducesTo (hash : LabelHash) {op : AggregateOp} {f : List α → α}
    (h : op.Reduces f) (grouping : Grouping) (v : SeriesMap α) :
    ∃ out, Value.aggregate hash op grouping none (.vector v) = .ok (.vector out) ∧
      ReducesTo f grouping.filter v out := by
  have hvalue := h.yieldsValue
  refine ⟨_, (Value.aggregate_eq_ok_iff rfl).2 ⟨nodup_aggregated_of_yieldsValue hvalue, rfl⟩, ?_⟩
  intro m x
  rw [(aggregatesTo_ofList (nodup_aggregated_of_yieldsValue hvalue)).reduced hvalue]
  refine exists_congr fun labels => and_congr_right fun _ => and_congr_right fun _ => ?_
  rw [h.reduce, Reduction.value.injEq]

theorem Value.aggregate_aggregate (hash : LabelHash) (h : AggregateOp.Collapse α inner outer whole)
    (hcoarser : coarse.filter.Coarser fine.filter) (x : Value α) :
    (Value.aggregate hash inner fine none x >>= Value.aggregate hash outer coarse none) =
      Value.aggregate hash whole coarse none x := by
  obtain ⟨_, _, _, hinner, houter, hwhole, hparts⟩ := h
  cases x with
  | vector v =>
    obtain ⟨mid, hmid, hfine⟩ := Value.exists_reducesTo hash hinner fine v
    obtain ⟨out, hout, hcoarse⟩ := Value.exists_reducesTo hash houter coarse mid
    obtain ⟨out', hout', hdirect⟩ := Value.exists_reducesTo hash hwhole coarse v
    have hsame : out = out' := (hfine.regroup hparts hcoarser hcoarse).unique hdirect
    rw [hmid, hout', ← hsame]
    exact hout
  | _ => rfl

end Operators

section Evaluations

variable {e : Expr α}

def Expr.aggregateBy (op : AggregateOp) (names : List String) (e : Expr α) : Expr α :=
  .aggregate op e none (.keeping names)

theorem Expr.check_aggregateBy {op : AggregateOp} (h : op.parameterType = none)
    (names : List String) :
    (e.aggregateBy op names).check =
      e.check >>= fun t => if t = .vector then .ok .vector else .error (.aggregated t) := by
  rw [aggregateBy, check]
  refine congrArg (e.check >>= ·) (funext fun t => ?_)
  rw [checkParam, h]
  rfl

variable [SampleValue α] {c : Context α}

theorem Stepwise.outcome_aggregateBy (op : AggregateOp) (names : List String) (time : Int)
    (cache : SelectorCache α) :
    (valueAt c time (e.aggregateBy op names) cache).outcome =
      (valueAt c time e cache).outcome >>= fun found =>
        (·, found.2) <$> Value.aggregate c.hash op (.keeping names) none found.1 := by
  change (Traced.withSpan "aggregate" (((pure none : Step α (Option (Value α))) >>= fun p =>
    valueAt c time e >>= fun x =>
      liftM (Value.aggregate c.hash op (.keeping names) p x)) cache)).outcome = _
  rw [Traced.outcome_withSpan, pure_bind, Step.outcome_bind]
  exact congrArg (_ >>= ·) (funext fun found => Step.outcome_lift _ _)

theorem Columnar.outcome_aggregateBy (op : AggregateOp) (names : List String) :
    (eval c (e.aggregateBy op names)).outcome =
      (eval c e).outcome >>= Columnar.aggregate c.hash op (.keeping names) none := by
  rw [Expr.aggregateBy, eval, Traced.outcome_withSpan, evalParam, pure_bind, Traced.outcome_bind]
  rfl

variable {inner outer whole : AggregateOp} {names more : List String}

/-- Where two operators collapse, both evaluators find the same vectors by one step and by two. -/
theorem AggregateOp.Collapse.sameResult (h : Collapse α inner outer whole) (strategy : Strategy)
    (c : Context α) (e : Expr α) (hnames : names ⊆ more) :
    SameResult (strategy.evaluate c ((e.aggregateBy inner more).aggregateBy outer names)).outcome
      (strategy.evaluate c (e.aggregateBy whole names)).outcome := by
  have hvalue := Value.aggregate_aggregate c.hash h (Grouping.coarser_keeping hnames)
  obtain ⟨_, _, _, hinner, houter, hwhole, -⟩ := h
  have hcheck : ((e.aggregateBy inner more).aggregateBy outer names).check =
      (e.aggregateBy whole names).check := by
    rw [Expr.check_aggregateBy houter.parameterType, Expr.check_aggregateBy hinner.parameterType,
      Expr.check_aggregateBy hwhole.parameterType]
    cases e.check with
    | error fault => rfl
    | ok t => cases t <;> rfl
  cases strategy with
  | interpreter =>
    refine Stepwise.sameResult_evaluate (.of_eq hcheck) fun t _ time cache => .of_eq ?_
    rw [Stepwise.outcome_aggregateBy, Stepwise.outcome_aggregateBy, Stepwise.outcome_aggregateBy,
      bind_assoc]
    refine congrArg (_ >>= ·) (funext fun found => ?_)
    rw [← hvalue]
    cases Value.aggregate c.hash inner (.keeping more) none found.1 <;> rfl
  | batch =>
    refine Columnar.sameResult_evaluate (.of_eq hcheck) fun t _ => ?_
    rw [Columnar.outcome_aggregateBy, Columnar.outcome_aggregateBy, Columnar.outcome_aggregateBy,
      bind_assoc]
    cases (Columnar.eval c e).outcome with
    | error err => trivial
    | ok x =>
      have htwice := (Columnar.framewise_aggregate c.hash inner (.keeping more) none x).bind
        fun y _ => Columnar.framewise_aggregate c.hash outer (.keeping names) none y
      have honce := Columnar.framewise_aggregate c.hash whole (.keeping names) none x
      exact htwice.alike honce fun i => .of_eq (hvalue (x.atFrame i))

end Evaluations

namespace Exact

variable [Functions]

theorem reduces_sum : AggregateOp.Reduces .sum (List.foldl (· + ·) (zero : Exact)) where
  parameterType := rfl
  reduce values _ := congrArg Reduction.value (sum_eq_foldl values)

theorem reduces_min : AggregateOp.Reduces .min (List.foldl (leastBy key) nan) where
  parameterType := rfl
  reduce values _ := congrArg Reduction.value (extremum_lt values)

theorem reduces_max : AggregateOp.Reduces .max (List.foldl (leastBy reversedKey) nan) where
  parameterType := rfl
  reduce values _ := congrArg Reduction.value (extremum_gt values)

theorem reduces_group : AggregateOp.Reduces .group fun _ : List Exact => one where
  parameterType := rfl
  reduce _ _ := rfl

theorem reduces_count :
    AggregateOp.Reduces .count fun values : List Exact => ofNat values.length where
  parameterType := rfl
  reduce _ _ := rfl

omit [Functions] in
theorem reducesByParts_length :
    ReducesByParts (fun values : List Exact => ofNat values.length)
      (List.foldl (· + ·) (zero : Exact)) (fun values => ofNat values.length) where
  perm h := congrArg ofNat h.length_eq
  flatten parts := by
    have hstep (count : ℕ) : (parts.map fun values => (ofNat values.length : Exact)).foldl (· + ·)
        (ofNat count) = ofNat (count + parts.flatten.length) := by
      induction parts generalizing count with
      | nil => rfl
      | cons part rest ih =>
        have hadd : (ofNat count + ofNat part.length : Exact) = ofNat (count + part.length) := by
          simp [ofNat, ofInt_eq, finite_add]
        rw [List.map_cons, List.foldl_cons, hadd, ih, List.flatten_cons, List.length_append,
          Nat.add_assoc]
    rw [← Nat.zero_add parts.flatten.length]
    exact hstep 0

theorem collapse_of_mem {op : AggregateOp} (h : op ∈ [AggregateOp.sum, .min, .max, .group]) :
    AggregateOp.Collapse Exact op op op := by
  simp only [List.mem_cons, List.not_mem_nil, or_false] at h
  rcases h with rfl | rfl | rfl | rfl
  · exact ⟨_, _, _, reduces_sum, reduces_sum, reduces_sum, reducesByParts_foldl⟩
  · exact ⟨_, _, _, reduces_min, reduces_min, reduces_min,
      reducesByParts_leastBy (fun _ _ => key_injective) key_le_nan⟩
  · exact ⟨_, _, _, reduces_max, reduces_max, reduces_max,
      reducesByParts_leastBy reversedKey_injective fun x => key_le_nan x.neg⟩
  · exact ⟨_, _, _, reduces_group, reduces_group, reduces_group, fun _ => rfl, fun _ => rfl⟩

theorem collapse_count : AggregateOp.Collapse Exact .count .sum .count :=
  ⟨_, _, _, reduces_count, reduces_sum, reduces_count, reducesByParts_length⟩

end Exact

/-- In exact numbers a sum, an extreme or a group of parts that were aggregated by more labels is
that of all elements, and counts add up. -/
theorem nested_aggregations_collapse [Exact.Functions] (strategy : Strategy) (c : Context Exact)
    (v : Expr Exact) {names more : List String} (h : names ⊆ more) :
    (∀ op ∈ [AggregateOp.sum, .min, .max, .group],
      SameResult (strategy.evaluate c ((v.aggregateBy op more).aggregateBy op names)).outcome
        (strategy.evaluate c (v.aggregateBy op names)).outcome) ∧
    SameResult (strategy.evaluate c ((v.aggregateBy .count more).aggregateBy .sum names)).outcome
      (strategy.evaluate c (v.aggregateBy .count names)).outcome :=
  ⟨fun _ hop => (Exact.collapse_of_mem hop).sameResult strategy c v h,
    Exact.collapse_count.sameResult strategy c v h⟩

section Requests

local instance : Exact.Functions := Exact.arithmetic

/-- Requests of two hosts by the code of their answers; of some nothing is known. -/
def Context.answers : Context Exact where
  gateway := (Store.empty.ingest 0
    [(.ofPairs [(metricName, "requests"), ("host", "a"), ("code", "200")], .finite (1 / 3)),
      (.ofPairs [(metricName, "requests"), ("host", "a"), ("code", "500")], .finite (1 / 6)),
      (.ofPairs [(metricName, "requests"), ("host", "b"), ("code", "200")], .nan)]).gateway
  frames := .instant 0
  lookback := 300000
  hash := Fingerprint.fnv

def Expr.answers : Expr Exact := .selector (.named "requests")

theorem answers_collapse : ["host"] ⊆ ["code", "host"] ∧
    (∃ r, (Strategy.batch.evaluate .answers
        ((Expr.answers.aggregateBy .sum ["code", "host"]).aggregateBy .sum ["host"])).outcome =
          .ok r ∧
      (Strategy.batch.evaluate .answers (Expr.answers.aggregateBy .sum ["host"])).outcome =
        .ok r) ∧
    ∃ r, (Strategy.interpreter.evaluate .answers
        ((Expr.answers.aggregateBy .count ["code", "host"]).aggregateBy .sum ["host"])).outcome =
          .ok r ∧
      (Strategy.interpreter.evaluate .answers (Expr.answers.aggregateBy .count ["host"])).outcome =
        .ok r := by
  have hnames : ["host"] ⊆ ["code", "host"] := by decide
  obtain ⟨hsame, -⟩ := nested_aggregations_collapse .batch .answers .answers hnames
  obtain ⟨-, hcount⟩ := nested_aggregations_collapse .interpreter .answers .answers hnames
  have hsum := hsame .sum (.head _)
  have hbatch : (Strategy.batch.evaluate .answers
      (Expr.answers.aggregateBy .sum ["host"])).outcome.isOk = true := by
    decide +kernel
  have hinterpreter : (Strategy.interpreter.evaluate .answers
      (Expr.answers.aggregateBy .count ["host"])).outcome.isOk = true := by
    decide +kernel
  obtain ⟨r, hr⟩ := exists_of_isOk hbatch
  obtain ⟨r', hr'⟩ := exists_of_isOk hinterpreter
  exact ⟨hnames, ⟨r, (hsum r).2 hr, hr⟩, r', (hcount r').2 hr', hr'⟩

end Requests

end SeriesQuery
