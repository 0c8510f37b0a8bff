import SeriesQuery.Proofs.Expr.Typing
import SeriesQuery.Proofs.HashIndependence.Operators

/-!
# Simulations

An evaluation at a timestamp does the same in every kind of computation that may fail. A
simulation relates two such kinds; if it relates how they answer the selectors of an expression,
then it relates the evaluations of the expression. The hashes of the two may differ.
-/

namespace SeriesQuery

variable {m m' : Type → Type} [Monad m] [Monad m']
  [MonadLiftT (Except QueryError) m] [MonadLiftT (Except QueryError) m']

/-- A relation between computations that their composition respects. Failures are related to
failures, whatever the errors are. -/
structure Simulation (m m' : Type → Type) [Monad m] [Monad m']
    [MonadLiftT (Except QueryError) m] [MonadLiftT (Except QueryError) m'] where
  Related : {β : Type} → m β → m' β → Prop
  pure : ∀ {β : Type} (b : β), Related (pure b) (pure b)
  bind : ∀ {β γ : Type} {x : m β} {y : m' β} {f : β → m γ} {g : β → m' γ}, Related x y →
    (∀ b, Related (f b) (g b)) → Related (x >>= f) (y >>= g)
  lift : ∀ {β : Type} {x y : Except QueryError β}, SameResult x y →
    Related (liftM x : m β) (liftM y : m' β)

namespace Simulation

variable (S : Simulation m m') {α β γ : Type}

theorem lift_self (x : Except QueryError β) : S.Related (liftM x : m β) (liftM x : m' β) :=
  S.lift (.refl x)

theorem map [LawfulMonad m] [LawfulMonad m'] {x : m β} {y : m' β} (f : β → γ)
    (h : S.Related x y) : S.Related (f <$> x) (f <$> y) := by
  rw [map_eq_pure_bind, map_eq_pure_bind]
  exact S.bind h fun b => S.pure (f b)

theorem mapM [LawfulMonad m] [LawfulMonad m'] {ι ι' : Type} {f : ι → m γ} {g : ι' → m' γ}
    {xs : List ι} {ys : List ι'} (h : List.Forall₂ (fun a b => S.Related (f a) (g b)) xs ys) :
    S.Related (xs.mapM f) (ys.mapM g) := by
  induction h with
  | nil =>
    rw [List.mapM_nil, List.mapM_nil]
    exact S.pure []
  | cons hx _ ih =>
    rw [List.mapM_cons, List.mapM_cons]
    exact S.bind hx fun c => S.bind ih fun cs => S.pure (c :: cs)

theorem ofFnM [LawfulMonad m] [LawfulMonad m'] {n : Nat} {f : Fin n → m β} {g : Fin n → m' β}
    (h : ∀ i, S.Related (f i) (g i)) : S.Related (Vector.ofFnM f) (Vector.ofFnM g) := by
  induction n with
  | zero =>
    rw [Vector.ofFnM_zero, Vector.ofFnM_zero]
    exact S.pure _
  | succ n ih =>
    rw [Vector.ofFnM_succ, Vector.ofFnM_succ]
    refine S.bind (ih fun i => h i.castSucc) fun v => ?_
    exact S.bind (h (Fin.last n)) fun b => S.pure (v.push b)

end Simulation

namespace Stepwise

variable (S : Simulation m m') {α : Type}

theorem related_argument {xs : List (m (Value α))} {ys : List (m' (Value α))}
    (h : List.Forall₂ S.Related xs ys) (i : Nat) :
    S.Related (argument xs i) (argument ys i) := by
  unfold argument
  induction h generalizing i with
  | nil => exact S.lift_self _
  | cons hx _ ih =>
    cases i with
    | zero => exact hx
    | succ i => exact ih i

theorem related_scalarArg {xs : List (m (Value α))} {ys : List (m' (Value α))}
    (h : List.Forall₂ S.Related xs ys) (i : Nat) :
    S.Related (scalarArg xs i) (scalarArg ys i) :=
  S.bind (related_argument S h i) fun _ => S.lift_self _

theorem related_vectorArg {xs : List (m (Value α))} {ys : List (m' (Value α))}
    (h : List.Forall₂ S.Related xs ys) (i : Nat) :
    S.Related (vectorArg xs i) (vectorArg ys i) :=
  S.bind (related_argument S h i) fun _ => S.lift_self _

theorem related_mapArg {xs : List (m (Value α))} {ys : List (m' (Value α))}
    (h : List.Forall₂ S.Related xs ys) (f : Function) (value : α → α) :
    S.Related (mapArg f value xs) (mapArg f value ys) :=
  S.bind (related_vectorArg S h 0) fun _ => S.lift_self _

variable [LawfulMonad m] [LawfulMonad m'] [SampleValue α]

theorem related_callWindow {xs : List (m (Value α))} {ys : List (m' (Value α))}
    (h : List.Forall₂ S.Related xs ys) (t : Int) (f : Function) (args : List (Expr α)) :
    S.Related (callWindow t f args xs) (callWindow t f args ys) := by
  unfold callWindow
  refine S.bind (S.lift_self _) fun range => ?_
  refine S.bind (S.mapM ?_) fun params => ?_
  · refine List.Forall₂.imp (fun _ _ hx => S.bind hx fun _ => S.lift_self _) ?_
    rw [List.eraseIdx_eq_take_drop_succ, List.eraseIdx_eq_take_drop_succ]
    exact List.rel_append (List.forall₂_take _ h) (List.forall₂_drop _ h)
  · refine S.bind (S.lift_self _) fun _ => ?_
    refine S.bind (related_argument S h _) fun x => ?_
    exact S.bind (S.lift_self _) fun series => S.lift_self _

theorem related_callMath {xs : List (m (Value α))} {ys : List (m' (Value α))}
    (h : List.Forall₂ S.Related xs ys) (f : Function) :
    S.Related (callMath f xs) (callMath f ys) := by
  unfold callMath
  rw [h.length_eq]
  refine S.bind (related_vectorArg S h 0) fun v => ?_
  by_cases hlen : 1 < ys.length
  · simp only [hlen, if_true]
    exact S.bind (S.map some (related_scalarArg S h 1)) fun _ => S.lift_self _
  · simp only [hlen, if_false]
    exact S.bind (S.pure none) fun _ => S.lift_self _

omit [LawfulMonad m] [LawfulMonad m'] in
theorem related_callSpecial {xs : List (m (Value α))} {ys : List (m' (Value α))}
    (h : List.Forall₂ S.Related xs ys) (t : Int) (f : Function) (args : List (Expr α)) :
    S.Related (callSpecial t f args xs) (callSpecial t f args ys) := by
  unfold callSpecial
  split
  · exact S.pure _
  · exact S.bind (related_scalarArg S h 0) fun _ => S.pure _
  · refine S.bind (related_vectorArg S h 0) fun v => ?_
    split <;> exact S.pure _
  · refine S.bind (related_vectorArg S h 0) fun v => ?_
    split
    · exact S.bind (S.lift_self _) fun _ => S.pure _
    · exact S.pure _
  · exact related_mapArg S h _ _
  · refine S.bind (related_scalarArg S h 0) fun q => ?_
    exact S.bind (related_vectorArg S h 1) fun v => S.pure _
  · refine S.bind (S.lift_self _) fun relabel => ?_
    exact S.bind (related_vectorArg S h 0) fun v => S.lift_self _

theorem related_call {xs : List (m (Value α))} {ys : List (m' (Value α))}
    (h : List.Forall₂ S.Related xs ys) (t : Int) (f : Function) (args : List (Expr α)) :
    S.Related (call t f args xs) (call t f args ys) := by
  unfold call
  cases f.kind with
  | window => exact related_callWindow S h t f args
  | math => exact related_callMath S h f
  | date =>
    have hempty : xs.isEmpty = ys.isEmpty := by
      cases h <;> rfl
    simp only [hempty]
    cases ys.isEmpty with
    | true => exact S.pure _
    | false => exact related_mapArg S h f _
  | special => exact related_callSpecial S h t f args

structure Answers (S : Simulation m m') (r : Reading α m) (r' : Reading α m')
    (selectors : List (Selector × Option Int)) : Prop where
  latest : ∀ s, (s, none) ∈ selectors → S.Related (r.latest s) (r'.latest s)
  windows : ∀ s duration, (s, some duration) ∈ selectors →
    S.Related (r.windows s duration) (r'.windows s duration)
  within : ∀ {β : Type} (name : String) {x : m β} {y : m' β}, S.Related x y →
    S.Related (r.within name x) (r'.within name y)

omit [LawfulMonad m] [LawfulMonad m'] [SampleValue α] in
theorem Answers.subset {S : Simulation m m'} {r : Reading α m} {r' : Reading α m'}
    {selectors selectors' : List (Selector × Option Int)} (h : Answers S r r' selectors)
    (hsub : selectors' ⊆ selectors) : Answers S r r' selectors' :=
  ⟨fun s hs => h.latest s (hsub hs), fun s d hs => h.windows s d (hsub hs), h.within⟩

/-- Evaluations are related if the answers to the selectors are. -/
theorem related_eval {r : Reading α m} {r' : Reading α m'} (hash hash' : LabelHash) (t : Int)
    {e : Expr α} (h : Answers S r r' e.selectors) :
    S.Related (eval r hash t e) (eval r' hash' t e) := by
  induction e with
  | number v => exact S.pure _
  | string text => exact S.pure _
  | selector s => exact h.within _ (S.map _ (h.latest s (by simp [Expr.selectors])))
  | range s duration =>
    exact h.within _ (S.map _ (h.windows s duration (by simp [Expr.selectors])))
  | negate e ih => exact h.within _ (S.bind (ih h) fun _ => S.lift_self _)
  | binary op left right matching toBool ihl ihr =>
    rw [Expr.selectors] at h
    refine h.within _ (S.bind (ihl (h.subset (List.subset_append_left _ _))) fun x => ?_)
    refine S.bind (ihr (h.subset (List.subset_append_right _ _))) fun y => ?_
    exact S.lift (Value.binary_hash hash hash' op matching toBool x y)
  | aggregate op e param grouping ih ihp =>
    rw [Expr.selectors] at h
    refine h.within _ (S.bind ?_ fun p => S.bind ?_ fun x => ?_)
    · cases param with
      | none => exact S.pure none
      | some p =>
        refine S.map some (ihp p rfl (h.subset fun q hq => ?_))
        exact List.mem_append_left _ (Expr.mem_selectorsParam rfl hq)
    · exact ih (h.subset (List.subset_append_right _ _))
    · exact S.lift (Value.aggregate_hash hash hash' op grouping p x)
  | call f args ih =>
    rw [Expr.selectors] at h
    refine h.within _ (related_call S ?_ t f args)
    rw [evalArgs_eq_map, evalArgs_eq_map, List.forall₂_map_left_iff, List.forall₂_map_right_iff,
      List.forall₂_same]
    intro a ha
    exact ih a ha (h.subset fun q hq => Expr.mem_selectorsArgs ha hq)

end Stepwise

end SeriesQuery
