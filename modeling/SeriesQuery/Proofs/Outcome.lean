import Mathlib.Data.List.FinRange
import Mathlib.Data.List.Forall2
import SeriesQuery.QueryError
import SeriesQuery.Time.Frames

/-!
# Outcomes of computations that may fail

Two computations have the same result if both fail or both yield the same value; which error is
reported is left open. A computation for all of `n` frames is compared with one computation for
each frame: it fails if one of them does, and otherwise its value can be read at every frame.
-/

namespace SeriesQuery

variable {ε ε' β γ δ : Type}

theorem bind_eq_ok_iff {x : Except ε β} {f : β → Except ε γ} {c : γ} :
    x >>= f = .ok c ↔ ∃ b, x = .ok b ∧ f b = .ok c := by
  cases x with
  | error e => simp [bind, Except.bind]
  | ok b => simp [bind, Except.bind]

theorem map_eq_ok_iff {x : Except ε β} {f : β → γ} {c : γ} :
    f <$> x = .ok c ↔ ∃ b, x = .ok b ∧ f b = c := by
  cases x with
  | error e => simp [Functor.map, Except.map]
  | ok b => simp [Functor.map, Except.map]

theorem bind_eq_error_iff {x : Except ε β} {f : β → Except ε γ} {e : ε} :
    x >>= f = .error e ↔ x = .error e ∨ ∃ b, x = .ok b ∧ f b = .error e := by
  cases x with
  | error e' => simp [bind, Except.bind]
  | ok b => simp [bind, Except.bind]

theorem map_eq_error_iff {x : Except ε β} {f : β → γ} {e : ε} :
    f <$> x = .error e ↔ x = .error e := by
  cases x with
  | error e' => simp [Functor.map, Except.map]
  | ok b => simp [Functor.map, Except.map]

theorem mapError_eq_ok_iff {x : Except ε β} {f : ε → ε'} {b : β} :
    x.mapError f = .ok b ↔ x = .ok b := by
  cases x <;> simp [Except.mapError]

theorem mapError_eq_error_iff {x : Except ε β} {f : ε → ε'} {e : ε'} :
    x.mapError f = .error e ↔ ∃ e₀, x = .error e₀ ∧ f e₀ = e := by
  cases x <;> simp [Except.mapError]

theorem exists_of_any {x : Except ε β} {p : β → Bool} (h : x.toOption.any p = true) :
    ∃ b, x = .ok b ∧ p b = true := by
  cases x with
  | error e => cases h
  | ok b => exact ⟨b, rfl, h⟩

theorem exists_of_isOk {x : Except ε β} (h : x.isOk = true) : ∃ b, x = .ok b := by
  cases x with
  | error e => cases h
  | ok b => exact ⟨b, rfl⟩

theorem mapM_eq_ok_iff {ι : Type} {f : ι → Except ε β} {l : List ι} {bs : List β} :
    l.mapM f = .ok bs ↔ List.Forall₂ (fun a b => f a = .ok b) l bs := by
  induction l generalizing bs with
  | nil =>
    rw [List.mapM_nil, List.forall₂_nil_left_iff]
    exact ⟨fun h => (Except.ok.inj h).symm, fun h => h ▸ rfl⟩
  | cons a rest ih =>
    rw [List.mapM_cons, bind_eq_ok_iff, List.forall₂_cons_left_iff]
    refine exists_congr fun b => ?_
    rw [bind_eq_ok_iff]
    constructor
    · rintro ⟨ha, bs', hrest, h⟩
      exact ⟨bs', ha, ih.1 hrest, (Except.ok.inj h).symm⟩
    · rintro ⟨bs', ha, hrest, rfl⟩
      exact ⟨ha, bs', ih.2 hrest, rfl⟩

theorem exists_of_forall₂ {ι : Type} {R : ι → β → Prop} {l : List ι} {bs : List β}
    (h : List.Forall₂ R l bs) {k : Nat} {b : β} (hb : bs[k]? = some b) :
    ∃ a, l[k]? = some a ∧ R a b := by
  induction h generalizing k with
  | nil => cases hb
  | @cons a _ _ _ hab _ ih =>
    cases k with
    | zero =>
      cases hb
      exact ⟨a, rfl, hab⟩
    | succ k => exact ih hb

def SameResult (x : Except ε β) (y : Except ε' β) : Prop := ∀ b, x = .ok b ↔ y = .ok b

namespace SameResult

theorem refl (x : Except ε β) : SameResult x x := fun _ => Iff.rfl

theorem trans {x : Except ε β} {y : Except ε' β} {z : Except ε β} (h : SameResult x y)
    (h' : SameResult y z) : SameResult x z :=
  fun b => (h b).trans (h' b)

theorem of_eq {x y : Except ε β} (h : x = y) : SameResult x y := h ▸ refl x

theorem of_toOption {x : Except ε β} {y : Except ε' β} (h : x.toOption = y.toOption) :
    SameResult x y := by
  cases x <;> cases y <;> cases h
  · exact fun _ => iff_of_false nofun nofun
  · exact fun _ => by rw [Except.ok.injEq, Except.ok.injEq]

/-- Two computations with one result either both yield it or both fail. -/
theorem cases {x : Except ε β} {y : Except ε' β} (h : SameResult x y) :
    (∃ b, x = .ok b ∧ y = .ok b) ∨ (∃ e, x = .error e) ∧ ∃ e, y = .error e := by
  cases x with
  | ok b => exact .inl ⟨b, rfl, (h b).1 rfl⟩
  | error e =>
    cases y with
    | ok b => exact absurd ((h b).2 rfl) nofun
    | error e' => exact .inr ⟨⟨e, rfl⟩, ⟨e', rfl⟩⟩

theorem bind {x y : Except ε β} {f g : β → Except ε γ} (h : SameResult x y)
    (hf : ∀ b, SameResult (f b) (g b)) : SameResult (x >>= f) (y >>= g) := by
  intro c
  rw [bind_eq_ok_iff, bind_eq_ok_iff]
  exact exists_congr fun b => and_congr (h b) (hf b c)

theorem map {x y : Except ε β} (f : β → γ) (h : SameResult x y) :
    SameResult (f <$> x) (f <$> y) := by
  intro c
  rw [map_eq_ok_iff, map_eq_ok_iff]
  exact exists_congr fun b => and_congr_left fun _ => h b

theorem mapM {ι : Type} {f g : ι → Except ε β} {l : List ι}
    (h : ∀ a ∈ l, SameResult (f a) (g a)) : SameResult (l.mapM f) (l.mapM g) := by
  induction l with
  | nil => exact .refl _
  | cons a rest ih =>
    rw [List.mapM_cons, List.mapM_cons]
    refine (h a (.head _)).bind fun b => ?_
    exact (ih fun c hc => h c (.tail _ hc)).bind fun bs => .refl _

end SameResult

/-- Two computations both fail or both yield results that are related. -/
def Alike (R : β → γ → Prop) : Except ε β → Except ε' γ → Prop
  | .ok b, .ok c => R b c
  | .error _, .error _ => True
  | _, _ => False

namespace Alike

theorem bind {β' γ' : Type} {R : β → γ → Prop} {S : β' → γ' → Prop} {x : Except ε β}
    {y : Except ε' γ} {f : β → Except ε β'} {g : γ → Except ε' γ'} (h : Alike R x y)
    (hfg : ∀ b c, R b c → Alike S (f b) (g c)) : Alike S (x >>= f) (y >>= g) := by
  cases x with
  | error e =>
    cases y with
    | error e' => trivial
    | ok c => exact h.elim
  | ok b =>
    cases y with
    | error e' => exact h.elim
    | ok c => exact hfg b c h

theorem eq_iff {x : Except ε β} {y : Except ε' β} : Alike Eq x y ↔ SameResult x y := by
  constructor
  · intro h
    cases x <;> cases y <;> cases h
    · exact fun _ => iff_of_false nofun nofun
    · exact fun _ => by rw [Except.ok.injEq, Except.ok.injEq]
  · intro h
    rcases h.cases with ⟨b, rfl, rfl⟩ | ⟨⟨e, rfl⟩, e', rfl⟩
    · exact rfl
    · exact trivial

end Alike

instance (f : TimeFrames) : Fact (0 < f.len) := ⟨f.len_pos⟩

variable {n : Nat}

theorem vector_get (v : Vector β n) {i : Nat} (hi : i < n) : v.get ⟨i, hi⟩ = v[i] := rfl

@[simp] theorem vector_get_ofFn (f : Fin n → β) (i : Fin n) : (Vector.ofFn f).get i = f i := by
  rw [vector_get _ i.2, Vector.getElem_ofFn]

@[simp] theorem vector_get_map (f : β → γ) (v : Vector β n) (i : Fin n) :
    (v.map f).get i = f (v.get i) := by
  rw [vector_get (v.map f) i.2, vector_get v i.2]
  exact Vector.getElem_map ..

@[simp] theorem vector_get_zipWith (f : β → γ → δ) (v : Vector β n) (w : Vector γ n) (i : Fin n) :
    (Vector.zipWith f v w).get i = f (v.get i) (w.get i) := by
  rw [vector_get (Vector.zipWith f v w) i.2, vector_get v i.2, vector_get w i.2]
  exact Vector.getElem_zipWith ..

@[simp] theorem vector_get_push_last (v : Vector β n) (b : β) :
    (v.push b).get (Fin.last n) = b := by
  rw [vector_get _ (Fin.last n).2]
  exact Vector.getElem_push_last

@[simp] theorem vector_get_push_castSucc (v : Vector β n) (b : β) (i : Fin n) :
    (v.push b).get i.castSucc = v.get i := by
  rw [vector_get _ i.castSucc.2, vector_get _ i.2]
  exact Vector.getElem_push_lt i.2

/-- `x` fails if some `y i` does and otherwise reads at each frame as what `y` yields there. -/
def Framewise (read : β → Fin n → γ) (x : Except ε β) (y : Fin n → Except ε' γ) : Prop :=
  match x with
  | .ok b => ∀ i, y i = .ok (read b i)
  | .error _ => ∃ i e, y i = .error e

namespace Framewise

variable {read : β → Fin n → γ}

theorem eq_ok {b : β} {x : Except ε β} {y : Fin n → Except ε' γ} (h : Framewise read x y)
    (hx : x = .ok b) (i : Fin n) : y i = .ok (read b i) := by
  subst hx
  exact h i

theorem exists_ok {x : Except ε β} {y : Fin n → Except ε' γ} (h : Framewise read x y)
    (hy : ∀ i, ∃ c, y i = .ok c) : ∃ b, x = .ok b := by
  cases x with
  | ok b => exact ⟨b, rfl⟩
  | error e =>
    obtain ⟨i, e', he⟩ := h
    obtain ⟨c, hc⟩ := hy i
    rw [hc] at he
    cases he

theorem congr_right {x : Except ε β} {y : Fin n → Except ε γ} {y' : Fin n → Except ε' γ}
    (h : Framewise read x y) (hy : ∀ i, SameResult (y i) (y' i)) : Framewise read x y' := by
  cases x with
  | ok b => exact fun i => (hy i _).1 (h i)
  | error e =>
    obtain ⟨i, e', he⟩ := h
    rcases (hy i).cases with ⟨c, hc, _⟩ | ⟨_, e'', he'⟩
    · rw [hc] at he
      cases he
    · exact ⟨i, e'', he'⟩

theorem bind {γ' β' : Type} {read' : β' → Fin n → γ'} {x : Except ε β} {y : Fin n → Except ε γ}
    {f : β → Except ε β'} {g : Fin n → γ → Except ε γ'} (h : Framewise read x y)
    (hf : ∀ b, x = .ok b → Framewise read' (f b) fun i => g i (read b i)) :
    Framewise read' (x >>= f) fun i => y i >>= g i := by
  cases x with
  | error e =>
    obtain ⟨i, e', he⟩ := h
    exact ⟨i, e', by simp only [he]; rfl⟩
  | ok b =>
    have hy : (fun i => y i >>= g i) = fun i => g i (read b i) := by
      funext i
      rw [h i]
      rfl
    rw [hy]
    exact hf b rfl

theorem map {γ' β' : Type} {read' : β' → Fin n → γ'} {x : Except ε β} {y : Fin n → Except ε γ}
    {f : β → β'} {g : γ → γ'} (h : Framewise read x y)
    (hf : ∀ b i, read' (f b) i = g (read b i)) :
    Framewise read' (f <$> x) fun i => g <$> y i := by
  cases x with
  | error e =>
    obtain ⟨i, e', he⟩ := h
    exact ⟨i, e', by simp only [he]; rfl⟩
  | ok b =>
    intro i
    simp only [h i, hf]
    rfl

theorem error [Fact (0 < n)] {e : ε} {y : Fin n → Except ε' γ} (h : ∀ i, ∃ e', y i = .error e') :
    Framewise read (.error e) y :=
  ⟨⟨0, Fact.out⟩, h _⟩

theorem const [Fact (0 < n)] (x : Except ε β) :
    Framewise (fun b (_ : Fin n) => b) x fun _ => x := by
  cases x with
  | error e => exact .error fun i => ⟨e, rfl⟩
  | ok b => exact fun i => rfl

theorem ofFnM (step : Fin n → Except ε γ) :
    Framewise Vector.get (Vector.ofFnM step) step := by
  induction n with
  | zero =>
    rw [Vector.ofFnM_zero]
    exact fun i => i.elim0
  | succ n ih =>
    rw [Vector.ofFnM_succ]
    have ih := ih fun i => step i.castSucc
    cases hv : Vector.ofFnM fun i => step i.castSucc with
    | error e =>
      rw [hv] at ih
      obtain ⟨i, e', he⟩ := ih
      exact ⟨i.castSucc, e', he⟩
    | ok v =>
      rw [hv] at ih
      cases hs : step (Fin.last n) with
      | error e => exact ⟨Fin.last n, e, hs⟩
      | ok c =>
        intro i
        refine Fin.lastCases ?_ (fun j => ?_) i
        · simp [hs]
        · simp [ih j]

theorem forM (check : Fin n → Except ε Unit) :
    Framewise (fun (_ : Unit) _ => ()) ((List.finRange n).forM check) check := by
  have key : ∀ l : List (Fin n), (l.forM check = .ok () ∧ ∀ i ∈ l, check i = .ok ()) ∨
      (∃ e, l.forM check = .error e) ∧ ∃ i ∈ l, ∃ e, check i = .error e := by
    intro l
    induction l with
    | nil => exact .inl ⟨rfl, nofun⟩
    | cons i rest ih =>
      have hcons : (i :: rest).forM check = check i >>= fun _ => rest.forM check := rfl
      rw [hcons]
      cases hi : check i with
      | error e => exact .inr ⟨⟨e, rfl⟩, i, .head _, e, hi⟩
      | ok _ =>
        rcases ih with ⟨hok, hall⟩ | ⟨herr, j, hj, e, he⟩
        · refine .inl ⟨hok, fun j hj => ?_⟩
          rcases List.mem_cons.1 hj with rfl | hj
          · exact hi
          · exact hall j hj
        · exact .inr ⟨herr, j, .tail _ hj, e, he⟩
  rcases key (List.finRange n) with ⟨hok, hall⟩ | ⟨⟨e, herr⟩, i, _, e', he⟩
  · rw [hok]
    exact fun i => hall i (List.mem_finRange i)
  · rw [herr]
    exact ⟨i, e', he⟩

theorem mapM {ι : Type} {f : ι → Except ε β} {g : ι → Fin n → Except ε γ} {l : List ι}
    (h : ∀ a ∈ l, Framewise read (f a) (g a)) :
    Framewise (fun bs i => bs.map (read · i)) (l.mapM f) fun i => l.mapM (g · i) := by
  induction l with
  | nil => exact fun _ => rfl
  | cons a rest ih =>
    simp only [List.mapM_cons]
    refine (h a (.head _)).bind fun b _ => ?_
    refine (ih fun c hc => h c (.tail _ hc)).bind fun bs _ => ?_
    exact fun _ => rfl

theorem foldlM {ι : Type} {f : β → ι → Except ε β} {g : Fin n → γ → ι → Except ε γ}
    (h : ∀ b a, Framewise read (f b a) fun i => g i (read b i) a) (b : β) (l : List ι) :
    Framewise read (l.foldlM f b) fun i => l.foldlM (g i) (read b i) := by
  induction l generalizing b with
  | nil => exact fun _ => rfl
  | cons a rest ih =>
    simp only [List.foldlM_cons]
    exact (h b a).bind fun b' _ => ih b'

/-- A computation that goes through all frames and changes what is read there, one by one. -/
theorem foldlM_frames {f : β → Fin n → Except ε β} {g : Fin n → γ → Except ε' γ}
    (hok : ∀ b i b', f b i = .ok b' →
      g i (read b i) = .ok (read b' i) ∧ ∀ j, j ≠ i → read b' j = read b j)
    (herror : ∀ b i e, f b i = .error e → ∃ e', g i (read b i) = .error e') (b : β) :
    Framewise read ((List.finRange n).foldlM f b) fun i => g i (read b i) := by
  have key : ∀ (l : List (Fin n)) (b : β), l.Nodup →
      (∃ b', l.foldlM f b = .ok b' ∧ (∀ i ∈ l, g i (read b i) = .ok (read b' i)) ∧
        ∀ i, i ∉ l → read b' i = read b i) ∨
      (∃ e, l.foldlM f b = .error e) ∧ ∃ i ∈ l, ∃ e, g i (read b i) = .error e := by
    intro l
    induction l with
    | nil => exact fun b _ => .inl ⟨b, rfl, nofun, fun _ _ => rfl⟩
    | cons i rest ih =>
      intro b hnodup
      obtain ⟨hi, hrest⟩ := List.nodup_cons.1 hnodup
      rw [List.foldlM_cons]
      cases hf : f b i with
      | error e => exact .inr ⟨⟨e, rfl⟩, i, .head _, herror b i e hf⟩
      | ok b₁ =>
        obtain ⟨hhere, hothers⟩ := hok b i b₁ hf
        have hne {j : Fin n} (hj : j ∈ rest) : j ≠ i := fun h => hi (h ▸ hj)
        rcases ih b₁ hrest with ⟨b', hfold, hread, hkept⟩ | ⟨hfold, j, hj, e, he⟩
        · refine .inl ⟨b', hfold, fun j hj => ?_, fun j hj => ?_⟩
          · rcases List.mem_cons.1 hj with rfl | hj
            · rw [hhere, hkept j hi]
            · rw [← hothers j (hne hj), hread j hj]
          · rw [List.mem_cons, not_or] at hj
            rw [hkept j hj.2, hothers j hj.1]
        · exact .inr ⟨hfold, j, .tail _ hj, e, by rw [← hothers j (hne hj), he]⟩
  rcases key (List.finRange n) b (List.nodup_finRange n) with
    ⟨b', hfold, hread, -⟩ | ⟨⟨e, hfold⟩, i, -, he⟩
  · rw [hfold]
    exact fun i => hread i (List.mem_finRange i)
  · rw [hfold]
    exact ⟨i, he⟩

/-- A fold fails with the error of some frame if every step does. -/
theorem foldlM_error {ι : Type} {f : β → ι → Except ε β} {g : Fin n → γ → ι → Except ε γ}
    (h : ∀ b a, Framewise read (f b a) fun i => g i (read b i) a)
    (herror : ∀ b a e, f b a = .error e → ∃ i, g i (read b i) a = .error e) {b : β} {l : List ι}
    {e : ε} (hfold : l.foldlM f b = .error e) : ∃ i, l.foldlM (g i) (read b i) = .error e := by
  induction l generalizing b with
  | nil => cases hfold
  | cons a rest ih =>
    rw [List.foldlM_cons] at hfold
    simp only [List.foldlM_cons]
    rcases bind_eq_error_iff.1 hfold with ha | ⟨b', hb', hrest⟩
    · obtain ⟨i, hi⟩ := herror b a e ha
      exact ⟨i, bind_eq_error_iff.2 (.inl hi)⟩
    · obtain ⟨i, hi⟩ := ih hrest
      exact ⟨i, bind_eq_error_iff.2 (.inr ⟨_, (h b a).eq_ok hb' i, hi⟩)⟩

theorem foldlM_frames_error {f : β → Fin n → Except ε β} {g : Fin n → γ → Except ε γ}
    (hothers : ∀ b i b', f b i = .ok b' → ∀ j, j ≠ i → read b' j = read b j)
    (herror : ∀ b i e, f b i = .error e → g i (read b i) = .error e) {b : β} {l : List (Fin n)}
    (hnodup : l.Nodup) {e : ε} (hfold : l.foldlM f b = .error e) :
    ∃ i ∈ l, g i (read b i) = .error e := by
  induction l generalizing b with
  | nil => cases hfold
  | cons i rest ih =>
    obtain ⟨hi, hrest⟩ := List.nodup_cons.1 hnodup
    rw [List.foldlM_cons] at hfold
    rcases bind_eq_error_iff.1 hfold with hhere | ⟨b', hb', hfold⟩
    · exact ⟨i, .head _, herror b i e hhere⟩
    · obtain ⟨j, hj, he⟩ := ih hrest hfold
      have hne : j ≠ i := fun h => hi (h ▸ hj)
      rw [hothers b i b' hb' j hne] at he
      exact ⟨j, .tail _ hj, he⟩

theorem alike {β' : Type} {read' : β' → Fin n → γ} {x : Except ε β} {x' : Except ε β'}
    {y y' : Fin n → Except ε γ} (h : Framewise read x y) (h' : Framewise read' x' y')
    (hy : ∀ i, SameResult (y i) (y' i)) :
    Alike (fun b b' => ∀ i, read b i = read' b' i) x x' := by
  have hread := h.congr_right hy
  cases x with
  | ok b =>
    obtain ⟨b', rfl⟩ := h'.exists_ok fun i => ⟨_, hread i⟩
    exact fun i => Except.ok.inj ((hread i).symm.trans (h' i))
  | error e =>
    cases x' with
    | error e' => trivial
    | ok b' =>
      obtain ⟨i, e', he⟩ := hread
      cases he.symm.trans (h' i)

end Framewise

/-- Values are found for all frames if each of them is found. -/
theorem ofFnM_eq_ok_iff {step : Fin n → Except ε γ} {v : Vector γ n} :
    Vector.ofFnM step = .ok v ↔ ∀ i, step i = .ok (v.get i) := by
  constructor
  · intro h i
    exact (Framewise.ofFnM step).eq_ok h i
  · intro h
    obtain ⟨w, hw⟩ := (Framewise.ofFnM step).exists_ok fun i => ⟨_, h i⟩
    have heq : w = v := by
      refine Vector.ext fun i hi => ?_
      have hstep := (Framewise.ofFnM step).eq_ok hw ⟨i, hi⟩
      exact Except.ok.inj (hstep.symm.trans (h ⟨i, hi⟩))
    rw [hw, heq]

theorem exists_of_ofFnM_error {step : Fin n → Except ε γ} {e : ε}
    (h : Vector.ofFnM step = .error e) : ∃ i, step i = .error e := by
  induction n with
  | zero =>
    rw [Vector.ofFnM_zero] at h
    cases h
  | succ n ih =>
    rw [Vector.ofFnM_succ] at h
    cases hinit : Vector.ofFnM fun i : Fin n => step i.castSucc with
    | error e' =>
      rw [hinit] at h
      cases h
      obtain ⟨i, hi⟩ := ih hinit
      exact ⟨i.castSucc, hi⟩
    | ok outs =>
      rw [hinit] at h
      refine ⟨Fin.last n, ?_⟩
      cases hlast : step (Fin.last n) with
      | error e' =>
        simp only [hlast] at h
        cases h
        rfl
      | ok out =>
        simp only [hlast] at h
        cases h

theorem SameResult.ofFnM {step step' : Fin n → Except ε γ}
    (h : ∀ i, SameResult (step i) (step' i)) :
    SameResult (Vector.ofFnM step) (Vector.ofFnM step') := by
  intro v
  rw [ofFnM_eq_ok_iff, ofFnM_eq_ok_iff]
  exact forall_congr' fun i => h i _

theorem forM_eq_ok {check : Fin n → Except ε Unit}
    (h : ∀ i, check i = .ok ()) : (List.finRange n).forM check = .ok () := by
  obtain ⟨u, hu⟩ := (Framewise.forM check).exists_ok fun i => ⟨(), h i⟩
  exact hu

end SeriesQuery
