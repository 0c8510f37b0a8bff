import SeriesQuery.Evaluation.Elements
import SeriesQuery.Proofs.Expr.Typing
import SeriesQuery.Proofs.Series.Rows

/-!
# Errors that depend on the data

A checked expression can still fail where two series collide, where series do not pair up or where
the value of an argument is outside a domain. A computation settles if it yields a result with
some property or fails with one of these errors.
-/

namespace SeriesQuery

/-- Whether an error is about the series and values that are met, not about the expression or the
gateway. -/
def QueryError.isData : QueryError → Bool
  | duplicateSeries _ => true
  | multipleMatch _ => true
  | invalidArgument _ => true
  | _ => false

/-- A result with a property, or an error that depends on the data. -/
def Settles {β : Type} (P : β → Prop) : Except QueryError β → Prop
  | .ok b => P b
  | .error e => e.isData = true

namespace Settles

variable {β γ : Type} {P : β → Prop} {Q : γ → Prop}

theorem bind {x : Except QueryError β} {f : β → Except QueryError γ} (h : Settles P x)
    (hf : ∀ b, P b → Settles Q (f b)) : Settles Q (x >>= f) := by
  cases x with
  | ok b => exact hf b h
  | error e => exact h

theorem map {x : Except QueryError β} {f : β → γ} (h : Settles P x) (hf : ∀ b, P b → Q (f b)) :
    Settles Q (f <$> x) := by
  cases x with
  | ok b => exact hf b h
  | error e => exact h

theorem mono {P' : β → Prop} {x : Except QueryError β} (h : Settles P x)
    (hP : ∀ b, P b → P' b) : Settles P' x := by
  cases x with
  | ok b => exact hP b h
  | error e => exact h

theorem mapM {ι : Type} {f : ι → Except QueryError β} {l : List ι}
    (h : ∀ a ∈ l, Settles P (f a)) : Settles (fun bs => ∀ b ∈ bs, P b) (l.mapM f) := by
  induction l with
  | nil => exact nofun
  | cons a rest ih =>
    rw [List.mapM_cons]
    refine (h a (.head _)).bind fun b hb => ?_
    refine (ih fun c hc => h c (.tail _ hc)).bind fun bs hbs => ?_
    intro c hc
    rcases List.mem_cons.1 hc with rfl | hc
    · exact hb
    · exact hbs c hc

theorem mapM_results {ι : Type} {f : ι → Except QueryError β} {l : List ι}
    (h : ∀ a ∈ l, Settles (fun _ => True) (f a)) :
    Settles (fun bs => List.Forall₂ (fun a b => f a = .ok b) l bs) (l.mapM f) := by
  have hmapM := mapM h
  cases hresults : l.mapM f with
  | ok bs => exact mapM_eq_ok_iff.1 hresults
  | error e =>
    rw [hresults] at hmapM
    exact hmapM

theorem forM {ι : Type} {check : ι → Except QueryError Unit} {l : List ι}
    (h : ∀ a ∈ l, Settles (fun _ => True) (check a)) : Settles (fun _ => True) (l.forM check) := by
  induction l with
  | nil => trivial
  | cons a rest ih =>
    exact (h a (.head _)).bind fun _ _ => ih fun b hb => h b (.tail _ hb)

theorem foldlM {ι : Type} {f : β → ι → Except QueryError β} {l : List ι}
    (h : ∀ b, ∀ a ∈ l, Settles (fun _ => True) (f b a)) (b : β) :
    Settles (fun _ => True) (l.foldlM f b) := by
  induction l generalizing b with
  | nil => trivial
  | cons a rest ih =>
    rw [List.foldlM_cons]
    exact (h b a (.head _)).bind fun b' _ => ih (fun b a ha => h b a (.tail _ ha)) b'

theorem ofFnM {n : Nat} {step : Fin n → Except QueryError β}
    (h : ∀ i, Settles (fun _ => True) (step i)) :
    Settles (fun _ => True) (Vector.ofFnM step) := by
  induction n with
  | zero =>
    rw [Vector.ofFnM_zero]
    trivial
  | succ n ih =>
    rw [Vector.ofFnM_succ]
    refine (ih fun i => h i.castSucc).bind fun v _ => ?_
    exact (h (Fin.last n)).bind fun b _ => trivial

theorem mapError_invalidArgument (x : Except ArgumentFault β) :
    Settles (fun _ => True) (x.mapError QueryError.invalidArgument) := by
  cases x with
  | ok b => trivial
  | error e => rfl

end Settles

variable {α : Type}

section Collect

variable {duplicate : Metric → QueryError}

theorem settles_addNew (h : ∀ m, (duplicate m).isData = true) (out : SeriesMap α)
    (e : Metric × α) : Settles (fun _ => True) (addNew duplicate out e) := by
  unfold addNew
  split
  · exact h e.1
  · trivial

theorem settles_collect (h : ∀ m, (duplicate m).isData = true) (elements : List (Metric × α)) :
    Settles (fun _ => True) (collect duplicate elements) :=
  Settles.foldlM (fun out e _ => settles_addNew h out e) _

theorem settles_collectComputed (h : ∀ m, (duplicate m).isData = true)
    {elements : List (Metric × Except QueryError (Option α))}
    (hvalue : ∀ e ∈ elements, ∃ v, e.2 = .ok v) :
    Settles (fun _ => True) (collectComputed duplicate elements) := by
  rw [collectComputed_eq_foldlM]
  refine Settles.foldlM (fun out e he => ?_) _
  obtain ⟨v, hv⟩ := hvalue e he
  unfold addComputed
  rw [hv]
  cases v with
  | none => trivial
  | some v => exact settles_addNew h out (e.1, v)

end Collect

theorem settles_combineVectors [SampleValue α] (op : BinaryOp) (matching : VectorMatching)
    (toBool : Bool) (left right : List (Keyed Metric α)) :
    Settles (fun _ => True) (combineVectors op matching toBool left right) := by
  unfold combineVectors
  by_cases hset : op.isSet = true
  · rw [if_pos hset]
    exact settles_collect (fun _ => rfl) _
  · rw [if_neg hset]
    have hjoin : Settles (fun _ => True)
        ((joinStep op matching toBool left right).mapError QueryError.multipleMatch) := by
      cases joinStep op matching toBool left right with
      | ok joined => trivial
      | error e => rfl
    exact hjoin.bind fun joined _ => settles_collect (fun _ => rfl) _

namespace Expr

/-- The texts of a relabelling call are literals, so only their values can be refused. -/
theorem settles_relabeling {f : Function} (hf : f = .labelReplace ∨ f = .labelJoin)
    {args : List (Expr α)} (h : ArgsFit f args) :
    Settles (fun _ => True) (relabeling f args) := by
  have hrequired := Nat.not_lt.2 h.required
  obtain ⟨e, texts, rfl⟩ := h.exists_texts hf
  have htexts : ∀ a ∈ texts.map string, Settles (fun _ => True) (a : Expr α).text? := by
    intro a ha
    obtain ⟨text, -, rfl⟩ := List.mem_map.1 ha
    trivial
  unfold relabeling relabelTexts
  rw [if_neg hrequired]
  exact (Settles.mapM htexts).bind fun texts _ => Settles.mapError_invalidArgument _

theorem settles_absentArgument {args : List (Expr α)} (h : ArgsFit .absent args) :
    Settles (fun _ => True) (absentArgument args) := by
  cases args with
  | nil => exact absurd h.required (Nat.not_succ_le_zero 0)
  | cons e rest => trivial

end Expr

end SeriesQuery
