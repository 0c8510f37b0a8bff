import Mathlib.Data.List.Induction
import Mathlib.Order.OrderDual
import SeriesQuery.Aggregation
import SeriesQuery.Function.Window
import SeriesQuery.Proofs.NumericOrder

/-!
# Extremes among NaNs

A window begins with its first value and a group with a NaN, for which its first value is taken.
From there both exchange the value they hold for a better one, and a NaN for any value. So as long
as they hold a NaN they have met nothing else, and the first number they meet stays until a better
one comes.
-/

namespace SeriesQuery

open Numeric

/-- Is one of the values, and a NaN only if all of them are. No number among them comes before
it. -/
structure IsExtreme (le : Binary64 → Binary64 → Bool) (values : List Binary64) (x : Binary64) :
    Prop where
  mem : x ∈ values
  all_isNaN : isNaN x = true → ∀ v ∈ values, isNaN v = true
  first : ∀ v ∈ values, isNaN v = false → le x v = true

/-- A number is better than another exactly if its key is smaller, and a NaN is neither better nor
worse than anything. -/
structure ComparesBy {κ : Type} [LinearOrder κ] (better le : Binary64 → Binary64 → Bool)
    (key : Binary64 → κ) : Prop where
  better_iff {x y : Binary64} :
    better x y = true ↔ (isNaN x = false ∧ isNaN y = false) ∧ key x < key y
  le_iff {x y : Binary64} : isNaN x = false → isNaN y = false → (le x y = true ↔ key x ≤ key y)

namespace Binary64

theorem lt_eq_true_iff {x y : Binary64} :
    Numeric.lt x y = true ↔ (isNaN x = false ∧ isNaN y = false) ∧ x.key < y.key := by
  change lt x y = true ↔ _
  simp [lt]

theorem comparesBy_key : ComparesBy Numeric.lt le key where
  better_iff := lt_eq_true_iff
  le_iff := orderedBy_key.le_iff

theorem comparesBy_dual : ComparesBy (fun x y => Numeric.lt y x) (fun x y => le y x)
    fun x => OrderDual.toDual x.key where
  better_iff := by
    intro x y
    rw [lt_eq_true_iff, OrderDual.toDual_lt_toDual, and_comm (a := isNaN y = false)]
    rfl
  le_iff hx hy := orderedBy_key.le_iff hy hx

end Binary64

namespace Statistics

variable {κ : Type} [LinearOrder κ] {better le : Binary64 → Binary64 → Bool} {key : Binary64 → κ}
variable {values : List Binary64}

def pick (better : Binary64 → Binary64 → Bool) (held v : Binary64) : Binary64 :=
  if isNaN held || better v held then v else held

theorem extremum_singleton (better : Binary64 → Binary64 → Bool) (v : Binary64) :
    extremum better [v] = v := rfl

theorem extremum_concat (better : Binary64 → Binary64 → Bool) (values : List Binary64)
    (v : Binary64) : extremum better (values ++ [v]) = pick better (extremum better values) v := by
  unfold extremum
  rw [List.foldl_append]
  rfl

/-- A window holds what a group holds from the first value on. -/
theorem best_eq_extremum (better : Binary64 → Binary64 → Bool) (v : Binary64)
    (rest : List Binary64) :
    Window.best better (v :: rest) = some (extremum better (v :: rest)) := by
  have hstep : (fun a b : Binary64 => if better b a || isNaN a then b else a) = pick better := by
    funext a b
    rw [Bool.or_comm]
    rfl
  exact congrArg (fun step => some (rest.foldl step v)) hstep

/-- A last value is an extreme if it comes before all numbers and, being a NaN, follows NaNs
only. -/
theorem isExtreme_concat {v : Binary64} (h : ComparesBy better le key)
    (hall : isNaN v = true → ∀ u ∈ values, isNaN u = true)
    (hfirst : isNaN v = false → ∀ u ∈ values, isNaN u = false → le v u = true) :
    IsExtreme le (values ++ [v]) v := by
  refine ⟨List.mem_append_right _ (List.mem_singleton_self v), ?all_isNaN, ?first⟩
  case all_isNaN =>
    intro hv u hu
    rcases List.mem_append.1 hu with hu | hu
    · exact hall hv u hu
    · rwa [List.mem_singleton.1 hu]
  case first =>
    intro u hu hnumber
    cases hv : isNaN v with
    | false =>
      rcases List.mem_append.1 hu with hu | hu
      · exact hfirst hv u hu hnumber
      · rw [List.mem_singleton.1 hu]
        exact (h.le_iff hv hv).2 le_rfl
    | true =>
      rcases List.mem_append.1 hu with hu | hu
      · simp [hall hv u hu] at hnumber
      · simp [List.mem_singleton.1 hu, hv] at hnumber

/-- A NaN is exchanged for any value, because nothing but NaNs came before. -/
theorem IsExtreme.exchange {x v : Binary64} (h : ComparesBy better le key)
    (hx : IsExtreme le values x) (hnan : isNaN x = true) : IsExtreme le (values ++ [v]) v := by
  apply isExtreme_concat h
  · intro _
    exact hx.all_isNaN hnan
  · intro _ u hu hnumber
    simp [hx.all_isNaN hnan u hu] at hnumber

theorem IsExtreme.improve {x v : Binary64} (h : ComparesBy better le key)
    (hx : IsExtreme le values x) (hbetter : better v x = true) :
    IsExtreme le (values ++ [v]) v := by
  obtain ⟨⟨hv, hnumber⟩, hlt⟩ := h.better_iff.1 hbetter
  apply isExtreme_concat h
  · intro hnan
    simp [hv] at hnan
  · intro _ u hu hu'
    have hle := (h.le_iff hnumber hu').1 (hx.first u hu hu')
    exact (h.le_iff hv hu').2 (hlt.le.trans hle)

theorem IsExtreme.keep {x v : Binary64} (h : ComparesBy better le key)
    (hx : IsExtreme le values x) (hnumber : isNaN x = false) (hbetter : ¬ better v x = true) :
    IsExtreme le (values ++ [v]) x := by
  refine ⟨List.mem_append_left _ hx.mem, ?all_isNaN, ?first⟩
  case all_isNaN =>
    intro hnan
    simp [hnumber] at hnan
  case first =>
    intro u hu hu'
    rcases List.mem_append.1 hu with hu | hu
    · exact hx.first u hu hu'
    · rw [List.mem_singleton.1 hu] at hu' ⊢
      have hlt : ¬ key v < key x := fun hlt => hbetter (h.better_iff.2 ⟨⟨hu', hnumber⟩, hlt⟩)
      exact (h.le_iff hnumber hu').2 (not_lt.1 hlt)

theorem isExtreme_pick {x : Binary64} (h : ComparesBy better le key) (hx : IsExtreme le values x)
    (v : Binary64) : IsExtreme le (values ++ [v]) (pick better x v) := by
  unfold pick
  by_cases hnan : isNaN x = true
  · rw [if_pos (Bool.or_eq_true_iff.2 (.inl hnan))]
    exact IsExtreme.exchange h hx hnan
  · by_cases hbetter : better v x = true
    · rw [if_pos (Bool.or_eq_true_iff.2 (.inr hbetter))]
      exact IsExtreme.improve h hx hbetter
    · rw [if_neg (by simp [hnan, hbetter])]
      exact IsExtreme.keep h hx (Bool.eq_false_iff.2 hnan) hbetter

theorem isExtreme_extremum (h : ComparesBy better le key) (hne : values ≠ []) :
    IsExtreme le values (extremum better values) := by
  induction values using List.reverseRecOn with
  | nil => exact absurd rfl hne
  | append_singleton rest v ih =>
    by_cases hrest : rest = []
    · have hself : IsExtreme le ([] ++ [v]) v := isExtreme_concat h nofun nofun
      rw [hrest, List.nil_append, extremum_singleton]
      exact hself
    · rw [extremum_concat]
      exact isExtreme_pick h (ih hrest) v

end Statistics

/-- The value that an operator yields for a group and a function for a window. -/
structure ExtremeOf (le : Binary64 → Binary64 → Bool) (op : AggregateOp) (f : Function)
    (values : List Binary64) (x : Binary64) : Prop where
  extreme : IsExtreme le values x
  aggregated : ∀ p, op.reduce values p = .value x
  windowed : ∀ samples : List (Sample Binary64), samples.map Sample.value = values →
    ∀ w params, f.reduceWindow samples w params = .ok (some x)

/-- Some values have one minimum and one maximum in groups and windows, to the bit. -/
theorem extremes_shared {values : List Binary64} (hne : values ≠ []) :
    (∃ x, ExtremeOf le .min .minOverTime values x) ∧
      ∃ x, ExtremeOf (fun x v => le v x) .max .maxOverTime values x := by
  obtain ⟨v, rest, rfl⟩ := List.exists_cons_of_ne_nil hne
  have hbest (better : Binary64 → Binary64 → Bool) {samples : List (Sample Binary64)}
      (hsamples : samples.map Sample.value = v :: rest) :
      ¬samples.isEmpty = true ∧ Window.best better (samples.map Sample.value) =
        some (Statistics.extremum better (v :: rest)) :=
    ⟨Function.not_isEmpty_of_values hsamples hne,
      hsamples ▸ Statistics.best_eq_extremum better v rest⟩
  constructor
  · refine ⟨_, Statistics.isExtreme_extremum Binary64.comparesBy_key hne, fun _ => rfl, ?_⟩
    intro samples hsamples w params
    obtain ⟨hempty, hvalue⟩ := hbest Numeric.lt hsamples
    exact (if_neg hempty).trans (congrArg Except.ok hvalue)
  · refine ⟨_, Statistics.isExtreme_extremum Binary64.comparesBy_dual hne, fun _ => rfl, ?_⟩
    intro samples hsamples w params
    obtain ⟨hempty, hvalue⟩ := hbest (fun x y => Numeric.lt y x) hsamples
    exact (if_neg hempty).trans (congrArg Except.ok hvalue)

/-- Four and two between NaNs, of which the last one has another payload. -/
def amongNaNs : List Binary64 :=
  [Binary64.nan, ⟨0x4010000000000000⟩, Binary64.nan, ⟨0x4000000000000000⟩, ⟨0xfff8000000000001⟩]

theorem extremes_amongNaNs : amongNaNs ≠ [] ∧
    ExtremeOf le .min .minOverTime amongNaNs ⟨0x4000000000000000⟩ ∧
    ExtremeOf (fun x v => le v x) .max .maxOverTime amongNaNs ⟨0x4010000000000000⟩ := by
  have hne : amongNaNs ≠ [] := by decide
  obtain ⟨⟨least, hleast⟩, greatest, hgreatest⟩ := extremes_shared hne
  obtain rfl : ⟨0x4000000000000000⟩ = least := Reduction.value.inj (hleast.aggregated .none)
  obtain rfl : ⟨0x4010000000000000⟩ = greatest := Reduction.value.inj (hgreatest.aggregated .none)
  exact ⟨hne, hleast, hgreatest⟩

end SeriesQuery
