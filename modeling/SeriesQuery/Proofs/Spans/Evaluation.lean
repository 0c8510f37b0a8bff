import SeriesQuery.Proofs.Fetching
import SeriesQuery.Proofs.Soundness.Evaluation
import SeriesQuery.Proofs.Spans.Following

/-!
# Spans of evaluations

Both evaluators follow the outline of a checked expression: they go through one span for each node
that is not a literal and evaluate no node twice. An expression that is refused leaves the
outermost span alone.
-/

namespace SeriesQuery

variable {α : Type}

theorem SpanTree.sizeAll_append (ts us : List SpanTree) :
    sizeAll (ts ++ us) = sizeAll ts + sizeAll us := by
  induction ts with
  | nil => exact (Nat.zero_add _).symm
  | cons t rest ih => rw [List.cons_append, sizeAll, sizeAll, ih, Nat.add_assoc]

theorem SpanTree.sizeAll_replicate (n : Nat) (t : SpanTree) :
    sizeAll (List.replicate n t) = n * t.size := by
  induction n with
  | zero => rw [Nat.zero_mul]; rfl
  | succ n ih => rw [List.replicate_succ, sizeAll, ih, Nat.succ_mul, Nat.add_comm]

namespace Expr

theorem spanTreesArgs_eq_flatMap (args : List (Expr α)) :
    spanTreesArgs args = args.flatMap spanTrees := by
  induction args with
  | nil => rfl
  | cons a rest ih => rw [spanTreesArgs, ih, List.flatMap_cons]

theorem sizeAll_spanTrees (e : Expr α) : SpanTree.sizeAll e.spanTrees = e.operationCount := by
  induction e with
  | number v => rfl
  | string text => rfl
  | selector s => rfl
  | range s duration => rfl
  | negate e ih =>
    simp only [spanTrees, SpanTree.sizeAll, SpanTree.size, ih, operationCount, Nat.add_zero]
  | binary op l r matching toBool ihl ihr =>
    simp only [spanTrees, SpanTree.sizeAll, SpanTree.size, SpanTree.sizeAll_append, ihl, ihr,
      operationCount, Nat.add_zero]
  | aggregate op e param grouping ih ihp =>
    have hparam : SpanTree.sizeAll (spanTreesParam param) = operationCountParam param := by
      cases param with
      | none => rfl
      | some p => exact ihp p rfl
    simp only [spanTrees, SpanTree.sizeAll, SpanTree.size, SpanTree.sizeAll_append, hparam, ih,
      operationCount, Nat.add_zero]
  | call f args ih =>
    have hargs : SpanTree.sizeAll (spanTreesArgs args) = operationCountArgs args := by
      induction args with
      | nil => rfl
      | cons a rest ihrest =>
        rw [spanTreesArgs, SpanTree.sizeAll_append, operationCountArgs, ih a (.head _),
          ihrest fun b hb => ih b (.tail _ hb)]
    simp only [spanTrees, SpanTree.sizeAll, SpanTree.size, hargs, operationCount, Nat.add_zero]

/-- Relabelling functions evaluate their vector only, and their other arguments are texts. -/
theorem spanTreesArgs_of_relabel {f : Function} (hf : f = .labelReplace ∨ f = .labelJoin)
    {args : List (Expr α)} (hargs : ArgsFit f args) :
    ∃ a rest, args = a :: rest ∧ spanTreesArgs args = a.spanTrees := by
  obtain ⟨hrequired, -, -, htexts⟩ := Function.relabel_signature hf
  cases args with
  | nil =>
    have hnone : f.signature.required ≤ 0 := hargs.required
    omega
  | cons a rest =>
    have hrest : rest.flatMap spanTrees = [] := by
      refine List.flatMap_eq_nil_iff.2 fun b hb => ?_
      obtain ⟨k, hk⟩ := List.mem_iff_getElem?.1 hb
      have htext := hargs.types (k := k + 1) hk
      rw [htexts k] at htext
      obtain ⟨text, rfl⟩ := eq_string_of_check htext
      rfl
    refine ⟨a, rest, rfl, ?_⟩
    rw [spanTreesArgs, spanTreesArgs_eq_flatMap, hrest, List.append_nil]

theorem exists_singleton {args : List (Expr α)} (hleast : 1 ≤ args.length)
    (hmost : args.length ≤ 1) : ∃ a, args = [a] ∧ spanTreesArgs args = a.spanTrees := by
  obtain ⟨a, rfl⟩ := List.length_eq_one_iff.1 (Nat.le_antisymm hmost hleast)
  exact ⟨a, rfl, List.append_nil _⟩

end Expr

theorem Strategy.size_outline (strategy : Strategy) (c : Context α) (e : Expr α) :
    (strategy.outline c e).size = strategy.spanCount c e := by
  cases strategy with
  | batch => rw [outline, SpanTree.size, Expr.sizeAll_spanTrees, spanCount]
  | interpreter =>
    rw [outline, SpanTree.size, SpanTree.sizeAll_replicate, SpanTree.size, Expr.sizeAll_spanTrees,
      spanCount]

namespace Columnar

variable [SampleValue α]

theorem follows_call (frames : TimeFrames) {f : Function} {args : List (Expr α)}
    (hargs : Expr.ArgsFit f args) {column : Expr α → Traced (Column α frames.len)}
    (h : ∀ a ∈ args, (column a).Follows a.spanTrees) :
    (call frames f args (args.map column)).Follows (Expr.spanTreesArgs args) := by
  unfold call
  by_cases hrelabel : f = .labelReplace ∨ f = .labelJoin
  · obtain ⟨a, rest, rfl, hplan⟩ := Expr.spanTreesArgs_of_relabel hrelabel hargs
    rw [if_pos hrelabel, hplan]
    refine (Traced.follows_ofExcept (Expr.relabeling f _)).bind fun change => ?_
    refine Traced.itinerary.bind_end (h a (.head _)) fun x => ?_
    refine (Traced.follows_ofExcept (rowsOf x)).bind fun rows => ?_
    exact Traced.follows_ofExcept _
  · rw [if_neg hrelabel, Expr.spanTreesArgs_eq_flatMap, List.mapM_map]
    exact Traced.itinerary.bind_end (Traced.itinerary.mapM h) fun values =>
      Traced.follows_ofExcept _

theorem follows_eval (c : Context α) {e : Expr α} {t : ValueType} (h : e.check = .ok t) :
    (eval c e).Follows e.spanTrees := by
  induction e generalizing t with
  | number v => exact Traced.follows_ofExcept (.ok _)
  | string text => exact Traced.follows_ofExcept (.ok _)
  | selector s => exact (Traced.follows_ofExcept (selectLatest c s)).withSpan _
  | range s duration => exact (Traced.follows_ofExcept (selectWindow c s duration)).withSpan _
  | negate e ih =>
    refine Traced.Follows.withSpan (Traced.itinerary.bind_end ?_ fun x => ?_) "unary"
    · exact ih (Expr.check_negate_ok h).1
    · exact Traced.follows_ofExcept _
  | binary op l r matching toBool ihl ihr =>
    obtain ⟨lt, rt, hl, hr, -⟩ := Expr.check_binary_ok h
    refine Traced.Follows.withSpan ((ihl hl).bind fun x => ?_) "binary"
    exact Traced.itinerary.bind_end (ihr hr) fun y => Traced.follows_ofExcept _
  | aggregate op e param grouping ih ihp =>
    obtain ⟨he, hparam, -⟩ := Expr.check_aggregate_ok h
    refine Traced.Follows.withSpan (Traced.Follows.bind ?_ fun p => ?_) "aggregate"
    · cases param with
      | none => exact Traced.follows_ofExcept (.ok _)
      | some p =>
        obtain ⟨expected, -, hp⟩ := hparam
        exact Traced.itinerary.map some (ihp p rfl hp)
    · exact Traced.itinerary.bind_end (ih he) fun x => Traced.follows_ofExcept _
  | call f args ih =>
    obtain ⟨hargs, -⟩ := Expr.check_call_ok h
    unfold eval
    rw [evalArgs_eq_map]
    refine Traced.Follows.withSpan (follows_call c.frames hargs fun a ha => ?_) "call"
    obtain ⟨k, hk⟩ := List.mem_iff_getElem?.1 ha
    exact ih a ha (hargs.types hk)

end Columnar

namespace Stepwise

variable {m : Type → Type} [Monad m] [MonadLiftT (Except QueryError) m] (I : Itinerary m)

section Arguments

variable {args : List (Expr α)} {value : Expr α → m (Value α)} {k : Nat} {a : Expr α}

theorem follows_argument (ha : args[k]? = some a) (h : I.Follows (value a) a.spanTrees) :
    I.Follows (argument (args.map value) k) a.spanTrees := by
  unfold argument
  rw [List.getElem?_map, ha]
  exact h

theorem follows_scalarArg (ha : args[k]? = some a) (h : I.Follows (value a) a.spanTrees) :
    I.Follows (scalarArg (args.map value) k) a.spanTrees :=
  I.bind_end (follows_argument I ha h) fun x => I.lift x.scalar?

theorem follows_vectorArg (ha : args[k]? = some a) (h : I.Follows (value a) a.spanTrees) :
    I.Follows (vectorArg (args.map value) k) a.spanTrees :=
  I.bind_end (follows_argument I ha h) fun x => I.lift x.vector?

theorem follows_mapArg (f : Function) (change : α → α) (ha : args[0]? = some a)
    (h : I.Follows (value a) a.spanTrees) :
    I.Follows (mapArg f change (args.map value)) a.spanTrees :=
  I.bind_end (follows_vectorArg I ha h) fun _ => I.lift _

end Arguments

section Calls

variable {f : Function} {args : List (Expr α)} {value : Expr α → m (Value α)}

/-- A window function takes its numbers before the range vector. -/
theorem follows_callWindow [LawfulMonad m] [SampleValue α] (t : Int) (hkind : f.kind = .window)
    (hargs : Expr.ArgsFit f args) (h : ∀ a ∈ args, I.Follows (value a) a.spanTrees) :
    I.Follows (callWindow t f args (args.map value)) (Expr.spanTreesArgs args) := by
  have hlen : f.matrixArg < args.length :=
    Nat.lt_of_lt_of_le (Function.window_signature hkind).1 hargs.required
  have hget : args[f.matrixArg]? = some args[f.matrixArg] := List.getElem?_eq_getElem hlen
  have hperm : ((args.eraseIdx f.matrixArg).flatMap Expr.spanTrees ++
      args[f.matrixArg].spanTrees).Perm (Expr.spanTreesArgs args) := by
    rw [Expr.spanTreesArgs_eq_flatMap]
    exact List.perm_append_comm.trans
      ((List.getElem_cons_eraseIdx_perm hlen).flatMap_right Expr.spanTrees)
  refine I.perm ?_ hperm
  unfold callWindow
  rw [List.eraseIdx_map, List.mapM_map]
  refine I.lift_bind _ fun window => ?_
  refine I.bind (I.mapM fun a ha => ?_) fun params => ?_
  · exact I.bind_end (h a (List.mem_of_mem_eraseIdx ha)) fun x => I.lift x.scalar?
  · refine I.lift_bind _ fun _ => ?_
    refine I.bind_end (follows_argument I hget (h _ (List.getElem_mem hlen))) fun x => ?_
    exact I.lift_bind x.matrix? fun series => I.lift _

theorem follows_callMath [LawfulMonad m] [SampleValue α] (hkind : f.kind = .math)
    (hargs : Expr.ArgsFit f args) (h : ∀ a ∈ args, I.Follows (value a) a.spanTrees) :
    I.Follows (callMath f (args.map value)) (Expr.spanTreesArgs args) := by
  obtain ⟨hrequired, hcount, hvariadic, -⟩ := Function.math_signature hkind
  have hleast := hargs.required
  have hmost := hargs.atMost hvariadic
  unfold callMath
  match args, hleast, hmost, h with
  | [], hleast, _, _ =>
    have hnone : f.signature.required ≤ 0 := hleast
    omega
  | [a], _, _, h =>
    refine I.bind (follows_vectorArg I rfl (h a (.head _))) fun v => ?_
    rw [if_neg (by simp)]
    exact I.bind_end (I.pure none) fun param => I.lift _
  | [a, b], _, _, h =>
    refine I.bind (follows_vectorArg I rfl (h a (.head _))) fun v => ?_
    rw [if_pos (by simp), Expr.spanTreesArgs, Expr.spanTreesArgs, List.append_nil]
    have hparam : b ∈ [a, b] := .tail _ (.head _)
    refine I.bind_end (I.map some (follows_scalarArg I rfl (h b hparam))) fun param => I.lift _
  | _ :: _ :: _ :: rest, _, hmost, _ =>
    simp only [List.length_cons] at hmost
    omega

theorem follows_callDate [SampleValue α] (t : Int) (hkind : f.kind = .date)
    (hargs : Expr.ArgsFit f args) (h : ∀ a ∈ args, I.Follows (value a) a.spanTrees) :
    I.Follows (if (args.map value).isEmpty
      then pure (single .empty (f.applyDate (Numeric.ofMillis t)))
      else mapArg f f.applyDate (args.map value)) (Expr.spanTreesArgs args) := by
  obtain ⟨hcount, hvariadic, -⟩ := Function.date_signature hkind
  have hmost := hargs.atMost hvariadic
  cases args with
  | nil => exact I.pure _
  | cons a rest =>
    have hleast : 1 ≤ (a :: rest).length := Nat.succ_pos _
    obtain ⟨b, hsingle, hplan⟩ := Expr.exists_singleton hleast (hmost.trans hcount)
    cases hsingle
    rw [hplan]
    exact follows_mapArg I f f.applyDate rfl (h a (.head _))

theorem follows_callRelabel [SampleValue α] (hf : f = .labelReplace ∨ f = .labelJoin)
    (hargs : Expr.ArgsFit f args) (h : ∀ a ∈ args, I.Follows (value a) a.spanTrees) :
    I.Follows (do
      let relabel ← liftM (Expr.relabeling f args)
      let v ← vectorArg (args.map value) 0
      liftM (Value.mapElements relabel some v) : m (Value α)) (Expr.spanTreesArgs args) := by
  obtain ⟨a, rest, rfl, hplan⟩ := Expr.spanTreesArgs_of_relabel hf hargs
  rw [hplan]
  refine I.lift_bind _ fun relabel => ?_
  exact I.bind_end (follows_vectorArg I rfl (h a (.head _))) fun v => I.lift _

theorem follows_callSpecial [SampleValue α] (t : Int) (hkind : f.kind = .special)
    (hargs : Expr.ArgsFit f args) (h : ∀ a ∈ args, I.Follows (value a) a.spanTrees) :
    I.Follows (callSpecial t f args (args.map value)) (Expr.spanTreesArgs args) := by
  have hleast := hargs.required
  have hmost := hargs.atMost
  cases f with
  | time =>
    obtain rfl : args = [] := List.length_eq_zero_iff.1 (Nat.le_zero.1 (hmost rfl))
    exact I.pure _
  | vector =>
    obtain ⟨a, rfl, hplan⟩ := Expr.exists_singleton hleast (hmost rfl)
    rw [hplan]
    exact I.bind_end (follows_scalarArg I rfl (h a (.head _))) fun v => I.pure _
  | scalar =>
    obtain ⟨a, rfl, hplan⟩ := Expr.exists_singleton hleast (hmost rfl)
    rw [hplan]
    refine I.bind_end (follows_vectorArg I rfl (h a (.head _))) fun v => ?_
    split <;> exact I.pure _
  | absent =>
    obtain ⟨a, rfl, hplan⟩ := Expr.exists_singleton hleast (hmost rfl)
    rw [hplan]
    refine I.bind_end (follows_vectorArg I rfl (h a (.head _))) fun v => ?_
    split
    · exact I.lift_bind _ fun metric => I.pure _
    · exact I.pure _
  | timestamp =>
    obtain ⟨a, rfl, hplan⟩ := Expr.exists_singleton hleast (hmost rfl)
    rw [hplan]
    exact follows_mapArg I .timestamp _ rfl (h a (.head _))
  | histogramQuantile =>
    obtain ⟨a, b, rfl⟩ := List.length_eq_two.1 (Nat.le_antisymm (hmost rfl) hleast)
    refine I.bind (follows_scalarArg I rfl (h a (.head _))) fun q => ?_
    rw [Expr.spanTreesArgs, Expr.spanTreesArgs, List.append_nil]
    exact I.bind_end (follows_vectorArg I rfl (h b (.tail _ (.head _)))) fun v => I.pure _
  | labelReplace => exact follows_callRelabel I (.inl rfl) hargs h
  | labelJoin => exact follows_callRelabel I (.inr rfl) hargs h
  | _ => exact absurd hkind (by decide)

theorem follows_call [LawfulMonad m] [SampleValue α] (t : Int) (hargs : Expr.ArgsFit f args)
    (h : ∀ a ∈ args, I.Follows (value a) a.spanTrees) :
    I.Follows (call t f args (args.map value)) (Expr.spanTreesArgs args) := by
  unfold call
  cases hkind : f.kind with
  | window => exact follows_callWindow I t hkind hargs h
  | math => exact follows_callMath I hkind hargs h
  | date => exact follows_callDate I t hkind hargs h
  | special => exact follows_callSpecial I t hkind hargs h

end Calls

/-- A reading answers a selector without a span and adds those that are asked for. -/
structure Charted {I : Itinerary m} (r : Reading α m) : Prop where
  latest : ∀ s, I.Follows (r.latest s) []
  windows : ∀ s duration, I.Follows (r.windows s duration) []
  within : ∀ {β : Type} {x : m β} {plan : List SpanTree} (name : String), I.Follows x plan →
    I.Follows (r.within name x) [.node name plan]

variable {I}

theorem follows_eval [LawfulMonad m] [SampleValue α] {r : Reading α m} (hr : Charted (I := I) r)
    (hash : LabelHash) (time : Int) {e : Expr α} {t : ValueType} (h : e.check = .ok t) :
    I.Follows (eval r hash time e) e.spanTrees := by
  induction e generalizing t with
  | number v => exact I.pure _
  | string text => exact I.pure _
  | selector s => exact hr.within _ (I.map _ (hr.latest s))
  | range s duration => exact hr.within _ (I.map _ (hr.windows s duration))
  | negate e ih =>
    exact hr.within _ (I.bind_end (ih (Expr.check_negate_ok h).1) fun x => I.lift x.negate)
  | binary op l r matching toBool ihl ihr =>
    obtain ⟨lt, rt, hl, hr', -⟩ := Expr.check_binary_ok h
    exact hr.within _ (I.bind (ihl hl) fun x => I.bind_end (ihr hr') fun y => I.lift _)
  | aggregate op e param grouping ih ihp =>
    obtain ⟨he, hparam, -⟩ := Expr.check_aggregate_ok h
    refine hr.within _ (I.bind ?_ fun p => I.bind_end (ih he) fun x => I.lift _)
    cases param with
    | none => exact I.pure none
    | some p =>
      obtain ⟨expected, -, hp⟩ := hparam
      exact I.map some (ihp p rfl hp)
  | call f args ih =>
    obtain ⟨hargs, -⟩ := Expr.check_call_ok h
    unfold eval
    rw [evalArgs_eq_map]
    refine hr.within _ (follows_call I time hargs fun a ha => ?_)
    obtain ⟨k, hk⟩ := List.mem_iff_getElem?.1 ha
    exact ih a ha (hargs.types hk)

theorem follows_fetch (c : Context α) (t : Int) (s : Selector) (window : Int) :
    (Step.itinerary α).Follows (fetch c t s window) [] := by
  have hcache {β : Type} (f : SelectorCache α → β × SelectorCache α) :
      (Step.itinerary α).Follows (fun cache => pure (f cache)) [] :=
    fun cache => Traced.itinerary.pure (f cache)
  unfold fetch
  by_cases hoffset : s.offset ≠ 0
  · rw [if_pos hoffset]
    exact (Step.itinerary α).lift_bind _ fun finish => (Step.itinerary α).lift _
  · rw [if_neg hoffset]
    refine (Step.itinerary α).bind_end (hcache fun cache => (cache, cache)) fun cache => ?_
    cases cache.get? (s.key window) with
    | some series => exact (Step.itinerary α).pure _
    | none =>
      refine (Step.itinerary α).lift_bind _ fun series => ?_
      exact (Step.itinerary α).bind_end (hcache fun cache => ((), cache.insert _ series)) fun _ =>
        (Step.itinerary α).pure _

theorem charted_reading [SampleValue α] (c : Context α) (t : Int) :
    Charted (I := Step.itinerary α) (reading c t) where
  latest s := by
    refine (Step.itinerary α).bind_end (follows_fetch c t s c.lookback) fun _ => ?_
    refine (Step.itinerary α).lift_bind _ fun finish => ?_
    exact (Step.itinerary α).lift_bind _ fun start => (Step.itinerary α).pure _
  windows s duration := by
    refine (Step.itinerary α).bind_end (follows_fetch c t s duration) fun _ => ?_
    refine (Step.itinerary α).lift_bind _ fun finish => ?_
    exact (Step.itinerary α).lift_bind _ fun start => (Step.itinerary α).pure _
  within name h cache := (h cache).withSpan name

end Stepwise

/-- What is evaluated after an expression has passed the check follows its plan. -/
theorem Traced.follows_validated {β : Type} [SampleValue α] (c : Context α) (e : Expr α)
    {plan : List SpanTree} {x : Traced β} (h : ∀ t, e.check = .ok t → x.Follows plan) :
    (ofExcept (c.validate e) >>= fun _ => x).Follows plan := by
  cases hcheck : e.check with
  | error fault =>
    rw [validate_eq_error hcheck]
    exact .stop nofun
  | ok t => exact (follows_ofExcept (c.validate e)).bind fun _ => h t hcheck

/-- An evaluation puts what follows the plan of an outline into its outermost span. -/
theorem Strategy.exists_follows [SampleValue α] (strategy : Strategy) (c : Context α)
    (e : Expr α) : ∃ (name : String) (plan : List SpanTree) (x : Traced (QueryResult α)),
      strategy.outline c e = .node name plan ∧ strategy.evaluate c e = x.withSpan name ∧
      x.Follows plan := by
  cases strategy with
  | batch =>
    refine ⟨_, _, _, rfl, rfl, Traced.follows_validated c e fun t h => ?_⟩
    exact Traced.itinerary.bind_end (Columnar.follows_eval c h) fun column =>
      Traced.itinerary.pure _
  | interpreter =>
    refine ⟨_, _, _, rfl, rfl, Traced.follows_validated c e fun t h => ?_⟩
    refine Traced.itinerary.bind_end ?_ fun p => Traced.itinerary.pure _
    refine (Step.itinerary α).ofFnM (fun i => ?_) .empty
    exact fun cache => Traced.Follows.withSpan
      (Stepwise.follows_eval (Stepwise.charted_reading c _) c.hash _ h cache) "step"

/-- For every expression, with either evaluator and whatever the gateway answers, every span ends,
one is without a parent and the parents of the others start before them. An evaluation with a
result has gone through one span for each node that is not a literal, once for all frames or once
for each, and its spans lie inside each other as the nodes do. The same holds of all evaluations
in which independent operands take turns and are given up when one fails. -/
theorem span_accounting [SampleValue α] (strategy : Strategy) (c : Context α) (e : Expr α) :
    (Recorder.ofTraced (strategy.evaluate c e)).Accounted ∧
    (∀ result, (strategy.evaluate c e).outcome = .ok result →
      (Recorder.ofTraced (strategy.evaluate c e)).Mirrors (strategy.outline c e) ∧
      (Recorder.ofTraced (strategy.evaluate c e)).spans.length = strategy.spanCount c e) ∧
    (strategy.outline c e).Leaves (strategy.evaluate c e).outcome.isOk
      (Recorder.ofTraced (strategy.evaluate c e)) ∧
    ∀ (ok : Bool) (r : Recorder), (strategy.outline c e).Leaves ok r →
      r.Accounted ∧ (ok = true →
        r.Mirrors (strategy.outline c e) ∧ r.spans.length = strategy.spanCount c e) := by
  have hleaves : (strategy.outline c e).Leaves (strategy.evaluate c e).outcome.isOk
      (Recorder.ofTraced (strategy.evaluate c e)) := by
    obtain ⟨name, plan, x, houtline, hevaluate, hfollows⟩ := strategy.exists_follows c e
    rw [houtline, hevaluate]
    exact hfollows.leaves name
  have hall (ok : Bool) (r : Recorder) (h : (strategy.outline c e).Leaves ok r) :
      r.Accounted ∧ (ok = true →
        r.Mirrors (strategy.outline c e) ∧ r.spans.length = strategy.spanCount c e) := by
    obtain ⟨haccounted, hmirrors⟩ := h.accounted
    refine ⟨haccounted, fun hok => ⟨hmirrors hok, ?_⟩⟩
    rw [(hmirrors hok).length_eq, strategy.size_outline]
  obtain ⟨haccounted, hcomplete⟩ := hall _ _ hleaves
  exact ⟨haccounted, fun result hresult => hcomplete (by rw [hresult]; rfl), hleaves, hall⟩

def Expr.minusOne : Expr Binary64 := .negate (.number Numeric.one)

theorem spans_of_requests :
    (Recorder.ofTraced (Strategy.batch.evaluate .requests .mostRequests)).spans.length = 3 ∧
    (Recorder.ofTraced (Strategy.interpreter.evaluate .requests .minusOne)).spans.length = 5 ∧
    ∃ r, (Strategy.interpreter.outline .requests .minusOne).Leaves true r ∧ r.Accounted ∧
      r.Mirrors (Strategy.interpreter.outline .requests .minusOne) := by
  have hbatch : (Strategy.batch.evaluate .requests .mostRequests).outcome.isOk = true := by
    decide +kernel
  have hinterpreter :
      (Strategy.interpreter.evaluate .requests .minusOne).outcome.isOk = true := by
    decide +kernel
  obtain ⟨-, hspans, -⟩ := span_accounting .batch .requests .mostRequests
  obtain ⟨-, hspans', hleaves, hall⟩ := span_accounting .interpreter .requests .minusOne
  rw [hinterpreter] at hleaves
  obtain ⟨haccounted, hcomplete⟩ := hall _ _ hleaves
  obtain ⟨result, hresult⟩ := exists_of_isOk hbatch
  obtain ⟨result', hresult'⟩ := exists_of_isOk hinterpreter
  exact ⟨(hspans result hresult).2, (hspans' result' hresult').2, _, hleaves, haccounted,
    (hcomplete rfl).1⟩

end SeriesQuery
