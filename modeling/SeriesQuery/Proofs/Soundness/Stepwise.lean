import SeriesQuery.Evaluation.Stepwise
import SeriesQuery.Proofs.Soundness.Settles
import SeriesQuery.Proofs.Soundness.Windows

/-!
# Types of values

If the selectors of a checked expression are answered, then its evaluation at a timestamp yields a
value of the type that was found, or fails with an error that depends on the data. An evaluation
never meets a value of another type and never lacks an argument.
-/

namespace SeriesQuery

variable {α : Type}

namespace Value

theorem settles_scalar? {x : Value α} (h : x.valueType = .scalar) :
    Settles (fun _ => True) x.scalar? := by
  cases x with
  | scalar v => trivial
  | _ => cases h

theorem settles_vector? {x : Value α} (h : x.valueType = .vector) :
    Settles (fun _ => True) x.vector? := by
  cases x with
  | vector v => trivial
  | _ => cases h

theorem settles_param? {param : Option (Value α)}
    (h : ∀ x ∈ param, x.valueType = .scalar ∨ x.valueType = .string) :
    Settles (fun _ => True) (param? param) := by
  cases param with
  | none => trivial
  | some x =>
    have hx := h x rfl
    cases x with
    | scalar v => trivial
    | string text =>
      exact (Settles.mapError_invalidArgument _).bind fun _ _ => trivial
    | vector v => rcases hx with hx | hx <;> cases hx
    | matrix series => rcases hx with hx | hx <;> cases hx

theorem settles_mapElements (metric : Metric → Metric) (value : α → Option α)
    (v : SeriesMap α) :
    Settles (fun y : Value α => y.valueType = .vector) (mapElements metric value v) :=
  (settles_collect (fun _ => rfl) _).map fun _ _ => rfl

variable [SampleValue α]

theorem settles_negate {x : Value α} {t : ValueType} (h : x.valueType = t)
    (ht : t = .scalar ∨ t = .vector) :
    Settles (fun y : Value α => y.valueType = t) x.negate := by
  cases x with
  | scalar v => exact h
  | vector v =>
    cases h
    exact settles_mapElements Metric.withoutName (fun x => some (-x)) v
  | string text =>
    cases h
    rcases ht with ht | ht <;> cases ht
  | matrix series =>
    cases h
    rcases ht with ht | ht <;> cases ht

theorem settles_binary (hash : LabelHash) (op : BinaryOp) (matching : VectorMatching)
    (toBool : Bool) {x y : Value α} (hx : x.valueType = .scalar ∨ x.valueType = .vector)
    (hy : y.valueType = .scalar ∨ y.valueType = .vector) :
    Settles (fun z : Value α => z.valueType =
      if x.valueType = .scalar ∧ y.valueType = .scalar then .scalar else .vector)
      (binary hash op matching toBool x y) := by
  cases x with
  | scalar l =>
    cases y with
    | scalar r => rfl
    | vector r =>
      exact (settles_mapElements (op.outputMetric toBool)
        (fun x => op.combineScalar toBool true x l) r).mono fun _ hz => hz
    | _ => rcases hy with hy | hy <;> cases hy
  | vector l =>
    cases y with
    | scalar r =>
      exact (settles_mapElements (op.outputMetric toBool)
        (fun x => op.combineScalar toBool false x r) l).mono fun _ hz => hz
    | vector r => exact (settles_combineVectors op matching toBool _ _).map fun _ _ => rfl
    | _ => rcases hy with hy | hy <;> cases hy
  | _ => rcases hx with hx | hx <;> cases hx

theorem settles_aggregate (hash : LabelHash) (op : AggregateOp) (grouping : Grouping)
    {param : Option (Value α)}
    (hparam : ∀ x ∈ param, x.valueType = .scalar ∨ x.valueType = .string) {operand : Value α}
    (h : operand.valueType = .vector) :
    Settles (fun y : Value α => y.valueType = .vector)
      (aggregate hash op grouping param operand) := by
  refine (settles_vector? h).bind fun v _ => ?_
  refine (settles_param? hparam).bind fun p _ => ?_
  exact (settles_collect (fun _ => rfl) _).map fun _ _ => rfl

end Value

namespace Stepwise

/-- All samples of some series lie in the window of a selector at a timestamp. -/
def Seen (t : Int) (s : Selector) (duration : Int) (series : SeriesMap (List (Sample α))) : Prop :=
  ∃ w, Window.of t duration s.offset = .ok w ∧ ∀ e ∈ series.toList, w.Covers e.2

theorem settles_reduceWindows [SampleValue α] {t : Int} {f : Function} {s : Selector}
    {duration : Int} (hfit : f.DifferencesFit duration s.offset)
    {series : SeriesMap (List (Sample α))} (hseen : Seen t s duration series) (params : List α) :
    Settles (fun y => y.valueType = .vector)
      (reduceWindows t f s.offset duration series params) := by
  obtain ⟨w, hw, hcovers⟩ := hseen
  unfold reduceWindows
  rw [hw]
  refine (settles_collectComputed (fun _ => rfl) fun e he => ?_).map fun _ _ => rfl
  obtain ⟨e, hmem, rfl⟩ := List.mem_map.1 he
  obtain ⟨v, hv⟩ := Function.exists_reduceWindow hw hfit (hcovers e hmem) params
  exact ⟨v, congrArg (Except.mapError QueryError.overflow) hv⟩

end Stepwise

/-- A property of computations, relative to properties of their results, that composition
respects and that holds of what settles. -/
structure Guarantee (m : Type → Type) [Monad m] [MonadLiftT (Except QueryError) m] where
  Holds : {β : Type} → (β → Prop) → m β → Prop
  pure : ∀ {β : Type} {P : β → Prop} {b : β}, P b → Holds P (pure b)
  bind : ∀ {β γ : Type} {P : β → Prop} {Q : γ → Prop} {x : m β} {f : β → m γ}, Holds P x →
    (∀ b, P b → Holds Q (f b)) → Holds Q (x >>= f)
  lift : ∀ {β : Type} {P : β → Prop} {x : Except QueryError β}, Settles P x →
    Holds P (liftM x : m β)

variable {m : Type → Type} [Monad m] [MonadLiftT (Except QueryError) m]

namespace Guarantee

variable (G : Guarantee m) {β γ : Type} {P : β → Prop} {Q : γ → Prop}

theorem map [LawfulMonad m] {x : m β} {f : β → γ} (h : G.Holds P x) (hf : ∀ b, P b → Q (f b)) :
    G.Holds Q (f <$> x) := by
  rw [map_eq_pure_bind]
  exact G.bind h fun b hb => G.pure (hf b hb)

theorem mapM [LawfulMonad m] {ι : Type} {f : ι → m β} {l : List ι}
    (h : ∀ a ∈ l, G.Holds (fun _ => True) (f a)) : G.Holds (fun _ => True) (l.mapM f) := by
  induction l with
  | nil =>
    rw [List.mapM_nil]
    exact G.pure trivial
  | cons a rest ih =>
    rw [List.mapM_cons]
    refine G.bind (h a (.head _)) fun b _ => ?_
    refine G.bind (ih fun c hc => h c (.tail _ hc)) fun bs _ => ?_
    exact G.pure trivial

theorem ofFnM [LawfulMonad m] {n : Nat} {step : Fin n → m β} (h : ∀ i, G.Holds P (step i)) :
    G.Holds (fun v : Vector β n => ∀ i, P (v.get i)) (Vector.ofFnM step) := by
  induction n with
  | zero =>
    rw [Vector.ofFnM_zero]
    exact G.pure fun i => i.elim0
  | succ n ih =>
    rw [Vector.ofFnM_succ]
    refine G.bind (ih fun i => h i.castSucc) fun v hv => ?_
    refine G.bind (h (Fin.last n)) fun b hb => G.pure fun i => ?_
    refine Fin.lastCases ?_ (fun j => ?_) i
    · simpa using hb
    · simpa using hv j

/-- A window function does what is guaranteed of it with the windows that a selector sees. -/
def Reduces [SampleValue α] (t : Int) (f : Function) (s : Selector) (duration : Int)
    (seen : SeriesMap (List (Sample α)) → Prop) : Prop :=
  ∀ series params, seen series → G.Holds (fun y => y.valueType = .vector)
    (liftM (Stepwise.reduceWindows t f s.offset duration series params) : m (Value α))

end Guarantee

namespace Stepwise

variable (G : Guarantee m)

structure ValuesFit (f : Function) (values : List (m (Value α))) : Prop where
  required : f.signature.required ≤ values.length
  atMost : f.signature.variadic = false → values.length ≤ f.signature.args.length
  types : ∀ {k : Nat} {x : m (Value α)}, values[k]? = some x →
    G.Holds (fun y => y.valueType = f.signature.argType k) x

section Arguments

variable {G} {f : Function} {values : List (m (Value α))}

theorem holds_argument (h : ValuesFit G f values) {k : Nat} (hk : k < values.length)
    {t : ValueType} (ht : f.signature.argType k = t) :
    G.Holds (fun y => y.valueType = t) (argument values k) := by
  have hget : values[k]? = some values[k] := List.getElem?_eq_getElem hk
  unfold argument
  simp only [hget]
  exact ht ▸ h.types hget

theorem holds_scalarArg (h : ValuesFit G f values) {k : Nat} (hk : k < values.length)
    (ht : f.signature.argType k = .scalar) : G.Holds (fun _ => True) (scalarArg values k) :=
  G.bind (holds_argument h hk ht) fun _ hy => G.lift (Value.settles_scalar? hy)

theorem holds_vectorArg (h : ValuesFit G f values) {k : Nat} (hk : k < values.length)
    (ht : f.signature.argType k = .vector) : G.Holds (fun _ => True) (vectorArg values k) :=
  G.bind (holds_argument h hk ht) fun _ hy => G.lift (Value.settles_vector? hy)

theorem holds_mapArg (h : ValuesFit G f values) (hlen : 0 < values.length)
    (ht : f.signature.argType 0 = .vector) (value : α → α) :
    G.Holds (fun y => y.valueType = .vector) (mapArg f value values) :=
  G.bind (holds_vectorArg h hlen ht) fun v _ => G.lift (Value.settles_mapElements _ _ v)

variable {args : List (Expr α)}

theorem holds_callRelabel (hf : f = .labelReplace ∨ f = .labelJoin)
    (hargs : Expr.ArgsFit f args) (h : ValuesFit G f values) :
    G.Holds (fun y => y.valueType = .vector) (do
      let relabel ← liftM (Expr.relabeling f args)
      let v ← vectorArg values 0
      liftM (Value.mapElements relabel some v) : m (Value α)) := by
  obtain ⟨hrequired, -, hvector, -⟩ := Function.relabel_signature hf
  refine G.bind (G.lift (Expr.settles_relabeling hf hargs)) fun relabel _ => ?_
  refine G.bind (holds_vectorArg h (Nat.lt_of_lt_of_le hrequired h.required) hvector) fun v _ => ?_
  exact G.lift (Value.settles_mapElements _ _ v)

variable [SampleValue α]

theorem holds_callDate (t : Int) (hkind : f.kind = .date) (h : ValuesFit G f values) :
    G.Holds (fun y => y.valueType = .vector)
      (if values.isEmpty then pure (single .empty (f.applyDate (Numeric.ofMillis t)))
        else mapArg f f.applyDate values) := by
  obtain ⟨-, -, -, hvector⟩ := Function.date_signature hkind
  cases values with
  | nil => exact G.pure rfl
  | cons x rest => exact holds_mapArg h (Nat.succ_pos _) hvector _

theorem holds_callSpecial (t : Int) (hkind : f.kind = .special) (hargs : Expr.ArgsFit f args)
    (h : ValuesFit G f values) :
    G.Holds (fun y => y.valueType = f.signature.result) (callSpecial t f args values) := by
  have hlen : f.signature.required ≤ values.length := h.required
  cases f with
  | time => exact G.pure rfl
  | vector => exact G.bind (holds_scalarArg h hlen rfl) fun v _ => G.pure rfl
  | scalar =>
    refine G.bind (holds_vectorArg h hlen rfl) fun v _ => ?_
    split <;> exact G.pure rfl
  | absent =>
    refine G.bind (holds_vectorArg h hlen rfl) fun v _ => ?_
    split
    · exact G.bind (G.lift (Expr.settles_absentArgument hargs)) fun m _ => G.pure rfl
    · exact G.pure rfl
  | timestamp => exact holds_mapArg h hlen rfl _
  | histogramQuantile =>
    refine G.bind (holds_scalarArg h (Nat.lt_of_succ_lt hlen) rfl) fun q _ => ?_
    exact G.bind (holds_vectorArg h hlen rfl) fun v _ => G.pure rfl
  | labelReplace => exact holds_callRelabel (.inl rfl) hargs h
  | labelJoin => exact holds_callRelabel (.inr rfl) hargs h
  | _ => exact absurd hkind (by decide)

variable [LawfulMonad m]

theorem holds_callWindow {seen : Selector → Int → SeriesMap (List (Sample α)) → Prop} {t : Int}
    (hkind : f.kind = .window) (hargs : Expr.ArgsFit f args) (h : ValuesFit G f values)
    (hmatrix : ∀ s duration x, args[f.matrixArg]? = some (.range s duration) →
      values[f.matrixArg]? = some x →
        G.Holds (fun y => ∃ series, y = .matrix series ∧ seen s duration series) x)
    (hreduce : ∀ s duration, args[f.matrixArg]? = some (.range s duration) →
      G.Reduces t f s duration (seen s duration)) :
    G.Holds (fun y => y.valueType = .vector) (callWindow t f args values) := by
  obtain ⟨hrequired, hvariadic, -, htype, hscalar⟩ := Function.window_signature hkind
  obtain ⟨s, duration, hget⟩ := hargs.exists_range hkind
  have hrange : rangeArg f args = .ok (s, duration) := by
    unfold rangeArg
    rw [hget]
  unfold callWindow
  refine G.bind (P := fun range => range = (s, duration)) (G.lift (hrange ▸ rfl)) ?_
  rintro _ rfl
  refine G.bind (G.mapM fun x hx => ?_) fun params _ => ?_
  · -- every value but the range vector is a number
    obtain ⟨k, hne, hget⟩ := List.mem_eraseIdx_iff_getElem?.1 hx
    have hlt : k < values.length := (List.getElem?_eq_some_iff.1 hget).1
    have hcount : k < f.signature.args.length := Nat.lt_of_lt_of_le hlt (h.atMost hvariadic)
    have hvalue : G.Holds (fun y => y.valueType = .scalar) x :=
      hscalar k hcount hne ▸ h.types hget
    exact G.bind hvalue fun y hy => G.lift (Value.settles_scalar? hy)
  · refine G.bind (G.lift (Settles.mapError_invalidArgument _)) fun _ _ => ?_
    have hlen : f.matrixArg < values.length := Nat.lt_of_lt_of_le hrequired h.required
    have hvalue : values[f.matrixArg]? = some values[f.matrixArg] := List.getElem?_eq_getElem hlen
    unfold argument
    simp only [hvalue]
    refine G.bind (hmatrix s duration _ hget hvalue) ?_
    rintro _ ⟨series, rfl, hseen⟩
    refine G.bind (P := seen s duration) (G.lift hseen) fun series hseen => ?_
    exact hreduce s duration hget series params hseen

theorem holds_callMath (hkind : f.kind = .math) (h : ValuesFit G f values) :
    G.Holds (fun y => y.valueType = .vector) (callMath f values) := by
  obtain ⟨hrequired, -, hvariadic, -, hvector, hscalar⟩ := Function.math_signature hkind
  unfold callMath
  refine G.bind (holds_vectorArg h (Nat.lt_of_lt_of_le hrequired h.required) hvector) fun v _ => ?_
  by_cases hlen : 1 < values.length
  · have hcount : 1 < f.signature.args.length := Nat.lt_of_lt_of_le hlen (h.atMost hvariadic)
    simp only [hlen, if_true]
    refine G.bind (P := fun _ => True) ?_ fun param _ => G.lift (Value.settles_mapElements _ _ v)
    exact G.map (holds_scalarArg h hlen (hscalar hcount)) fun _ _ => trivial
  · simp only [hlen, if_false]
    exact G.bind (P := fun _ => True) (G.pure trivial) fun param _ =>
      G.lift (Value.settles_mapElements _ _ v)

theorem holds_call {seen : Selector → Int → SeriesMap (List (Sample α)) → Prop} {t : Int}
    (hargs : Expr.ArgsFit f args) (h : ValuesFit G f values)
    (hmatrix : ∀ s duration x, args[f.matrixArg]? = some (.range s duration) →
      values[f.matrixArg]? = some x →
        G.Holds (fun y => ∃ series, y = .matrix series ∧ seen s duration series) x)
    (hreduce : f.kind = .window → ∀ s duration, args[f.matrixArg]? = some (.range s duration) →
      G.Reduces t f s duration (seen s duration)) :
    G.Holds (fun y => y.valueType = f.signature.result) (call t f args values) := by
  unfold call
  cases hkind : f.kind with
  | window =>
    rw [(Function.window_signature hkind).2.2.1]
    exact holds_callWindow hkind hargs h hmatrix (hreduce hkind)
  | math =>
    rw [(Function.math_signature hkind).2.2.2.1]
    exact holds_callMath hkind h
  | date =>
    rw [(Function.date_signature hkind).2.2.1]
    exact holds_callDate t hkind h
  | special => exact holds_callSpecial t hkind hargs h

end Arguments

/-- Selectors that the type check lets pass are answered, by windows with some property. -/
structure Answered (r : Reading α m) (seen : Selector → Int → SeriesMap (List (Sample α)) → Prop)
    (selectors : List (Selector × Option Int)) : Prop where
  latest : ∀ s, (s, none) ∈ selectors → s.matchers ≠ [] → G.Holds (fun _ => True) (r.latest s)
  windows : ∀ s duration, (s, some duration) ∈ selectors → s.matchers ≠ [] → 0 < duration →
    G.Holds (seen s duration) (r.windows s duration)
  within : ∀ {β : Type} {P : β → Prop} (name : String) {x : m β}, G.Holds P x →
    G.Holds P (r.within name x)

/-- Every window function of an expression does what is guaranteed of it. -/
def AllReduce [SampleValue α] (t : Int)
    (seen : Selector → Int → SeriesMap (List (Sample α)) → Prop) (e : Expr α) : Prop :=
  ∀ f args s duration, Expr.Within (.call f args) e → f.kind = .window →
    args[f.matrixArg]? = some (.range s duration) → G.Reduces t f s duration (seen s duration)

variable {G} {seen : Selector → Int → SeriesMap (List (Sample α)) → Prop}

theorem Answered.subset {r : Reading α m} {selectors selectors' : List (Selector × Option Int)}
    (h : Answered G r seen selectors) (hsub : selectors' ⊆ selectors) :
    Answered G r seen selectors' :=
  ⟨fun s hs => h.latest s (hsub hs), fun s d hs => h.windows s d (hsub hs), h.within⟩

theorem AllReduce.of_within [SampleValue α] {t : Int} {e e' : Expr α}
    (h : AllReduce G t seen e) (hwithin : Expr.Within e' e) : AllReduce G t seen e' :=
  fun f args s duration hcall => h f args s duration (hcall.trans hwithin)

/-- A checked expression has values of the type that was found. -/
theorem holds_eval [LawfulMonad m] [SampleValue α] {r : Reading α m} (hash : LabelHash) {time : Int}
    {e : Expr α} {t : ValueType} (hr : Answered G r seen e.selectors)
    (hreduce : AllReduce G time seen e) (h : e.check = .ok t) :
    G.Holds (fun y => y.valueType = t) (eval r hash time e) := by
  induction e generalizing t with
  | number v =>
    cases h
    exact G.pure rfl
  | string text =>
    cases h
    exact G.pure rfl
  | selector s =>
    obtain ⟨hmatchers, rfl⟩ := Expr.check_selector_ok h
    refine hr.within _ (G.map (hr.latest s ?_ hmatchers) fun _ _ => rfl)
    simp [Expr.selectors]
  | range s duration =>
    obtain ⟨hmatchers, hduration, rfl⟩ := Expr.check_range_ok h
    refine hr.within _ (G.map (hr.windows s duration ?_ hmatchers hduration) fun _ _ => rfl)
    simp [Expr.selectors]
  | negate e ih =>
    obtain ⟨he, ht⟩ := Expr.check_negate_ok h
    refine hr.within _ (G.bind (ih hr (hreduce.of_within (.negate .self)) he) fun y hy => ?_)
    exact G.lift (Value.settles_negate hy ht)
  | binary op left right matching toBool ihl ihr =>
    rw [Expr.selectors] at hr
    obtain ⟨lt, rt, hl, hr', hlt, hrt, rfl⟩ := Expr.check_binary_ok h
    have hleft := ihl (hr.subset (List.subset_append_left _ _)) (hreduce.of_within (.left .self)) hl
    have hright :=
      ihr (hr.subset (List.subset_append_right _ _)) (hreduce.of_within (.right .self)) hr'
    refine hr.within _ (G.bind hleft fun x hx => G.bind hright fun y hy => ?_)
    subst hx hy
    exact G.lift (Value.settles_binary hash op matching toBool hlt hrt)
  | aggregate op e param grouping ih ihp =>
    rw [Expr.selectors] at hr
    obtain ⟨he, hparam, rfl⟩ := Expr.check_aggregate_ok h
    have hoperand :=
      ih (hr.subset (List.subset_append_right _ _)) (hreduce.of_within (.operand .self)) he
    refine hr.within _ (G.bind (P := fun p : Option (Value α) =>
      ∀ x ∈ p, x.valueType = .scalar ∨ x.valueType = .string) ?_ fun p hp => ?_)
    · cases param with
      | none => exact G.pure fun x hx => absurd hx (Option.not_mem_none x)
      | some p =>
        obtain ⟨expected, hop, hp⟩ := hparam
        have hsub : p.selectors ⊆ Expr.selectorsParam (some p) ++ e.selectors :=
          fun q hq => List.mem_append_left _ (Expr.mem_selectorsParam rfl hq)
        refine G.map (ihp p rfl (hr.subset hsub) (hreduce.of_within (.param .self)) hp) ?_
        intro x hx y hy
        cases hy
        rw [hx]
        cases op <;> cases hop <;> simp
    · exact G.bind hoperand fun x hx => G.lift (Value.settles_aggregate hash op grouping hp hx)
  | call f args ih =>
    rw [Expr.selectors] at hr
    obtain ⟨hargs, rfl⟩ := Expr.check_call_ok h
    have hsub {a : Expr α} (ha : a ∈ args) : a.selectors ⊆ Expr.selectorsArgs args :=
      fun q hq => Expr.mem_selectorsArgs ha hq
    refine hr.within _ (holds_call hargs ?_ ?_ fun hkind s duration hget =>
      hreduce f args s duration .self hkind hget)
    · rw [evalArgs_eq_map]
      refine ⟨?_, fun hvariadic => ?_, fun {k x} hx => ?_⟩
      · rw [List.length_map]
        exact hargs.required
      · rw [List.length_map]
        exact hargs.atMost hvariadic
      · rw [List.getElem?_map, Option.map_eq_some_iff] at hx
        obtain ⟨a, ha, rfl⟩ := hx
        have hmem : a ∈ args := List.mem_of_getElem? ha
        exact ih a hmem (hr.subset (hsub hmem)) (hreduce.of_within (.arg hmem .self))
          (hargs.types ha)
    · intro s duration x hget hx
      rw [evalArgs_eq_map, List.getElem?_map, hget] at hx
      obtain rfl := Option.some.inj hx
      have hmem := List.mem_of_getElem? hget
      obtain ⟨hmatchers, hduration, -⟩ := Expr.check_range_ok (hargs.types hget)
      refine hr.within _ (G.map (hr.windows s duration (hsub hmem ?_) hmatchers hduration)
        fun series hseen => ⟨series, rfl, hseen⟩)
      simp [Expr.selectors]

end Stepwise

end SeriesQuery
