import SeriesQuery.QueryError

/-!
# Traced computations

A traced computation yields a result or fails, and in either case leaves the tree of the named
spans that it went through.
-/

namespace SeriesQuery

inductive SpanTree
  | node (name : String) (inner : List SpanTree)

structure Traced (β : Type) where
  outcome : Except QueryError β
  spans : List SpanTree

namespace Traced

variable {β γ : Type}

def pure (b : β) : Traced β := ⟨.ok b, []⟩

def fail (e : QueryError) : Traced β := ⟨.error e, []⟩

def ofExcept (x : Except QueryError β) : Traced β := ⟨x, []⟩

/-- Goes on with a result. After a failure nothing follows. -/
def bind (x : Traced β) (f : β → Traced γ) : Traced γ :=
  match x.outcome with
  | .ok b =>
    let y := f b
    ⟨y.outcome, x.spans ++ y.spans⟩
  | .error e => ⟨.error e, x.spans⟩

instance : Monad Traced where
  pure := pure
  bind := bind

instance : MonadLift (Except QueryError) Traced := ⟨ofExcept⟩

instance : LawfulMonad Traced := LawfulMonad.mk' Traced
  (fun x => by
    obtain ⟨x, spans⟩ := x
    cases x <;> simp [Functor.map, bind, pure])
  (fun b f => rfl)
  (fun x f g => by
    obtain ⟨_ | b, spans⟩ := x
    · rfl
    · change bind (bind ⟨.ok b, spans⟩ f) g = bind ⟨.ok b, spans⟩ fun b => bind (f b) g
      simp only [bind]
      generalize f b = y
      obtain ⟨_ | c, inner⟩ := y
      · rfl
      · simp [List.append_assoc])

def withSpan (name : String) (x : Traced β) : Traced β := ⟨x.outcome, [.node name x.spans]⟩

@[simp] theorem outcome_pure (b : β) : (Pure.pure b : Traced β).outcome = .ok b := rfl

@[simp] theorem outcome_ofExcept (x : Except QueryError β) : (ofExcept x).outcome = x := rfl

@[simp] theorem outcome_bind (x : Traced β) (f : β → Traced γ) :
    (x >>= f).outcome = x.outcome.bind fun b => (f b).outcome := by
  change (bind x f).outcome = _
  unfold bind Except.bind
  split <;> simp [*]

@[simp] theorem outcome_withSpan (name : String) (x : Traced β) :
    (withSpan name x).outcome = x.outcome := rfl

@[simp] theorem outcome_map (f : β → γ) (x : Traced β) : (f <$> x).outcome = f <$> x.outcome := by
  obtain ⟨x, spans⟩ := x
  cases x <;> rfl

theorem outcome_mapM (f : β → Traced γ) (l : List β) :
    (l.mapM f).outcome = l.mapM fun b => (f b).outcome := by
  induction l with
  | nil => rfl
  | cons b rest ih =>
    simp only [List.mapM_cons, outcome_bind, outcome_pure, ih]
    rfl
end Traced

end SeriesQuery
