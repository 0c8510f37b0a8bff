import Mathlib.Data.Prod.Lex
import Mathlib.Data.Rat.Cast.Order
import SeriesQuery.Exact
import SeriesQuery.Proofs.Binary64.Infinity

/-!
# The order of the numbers

Both kinds of numbers are compared through a linear order: those of double precision through the
integers that order their bits, and the exact ones through the rationals with an infinity on each
side.
-/

namespace SeriesQuery

open Numeric

variable {α κ : Type} [Numeric α] [LinearOrder κ]

/-- Numbers are compared through a linear order, with which the total order agrees. Nothing is said
about how a NaN compares. -/
structure Numeric.OrderedBy (key : α → κ) : Prop where
  lt_iff {x y : α} : isNaN x = false → isNaN y = false → (lt x y = true ↔ key x < key y)
  eq_iff {x y : α} : isNaN x = false → isNaN y = false → (eq x y = true ↔ key x = key y)
  key_le {x y : α} : isNaN x = false → isNaN y = false → (totalCompare x y).isLE = true →
    key x ≤ key y
  trans {x y z : α} : (totalCompare x y).isLE = true → (totalCompare y z).isLE = true →
    (totalCompare x z).isLE = true
  total (x y : α) : (totalCompare x y).isLE = true ∨ (totalCompare y x).isLE = true
  antisymm {x y : α} : (totalCompare x y).isLE = true → (totalCompare y x).isLE = true → x = y
  isNaN_zero : isNaN (zero : α) = false
  isNaN_infinity : isNaN (infinity : α) = false
  lt_infinity {x : α} : isFinite x = true → key x < key infinity

omit [LinearOrder κ] in
theorem Numeric.isNaN_of_isFinite {x : α} (h : isFinite x = true) : isNaN x = false := by
  unfold isFinite at h
  rw [Bool.and_eq_true, Bool.not_eq_true'] at h
  exact h.1

theorem Numeric.OrderedBy.le_iff {key : α → κ} (h : OrderedBy key) {x y : α}
    (hx : isNaN x = false) (hy : isNaN y = false) : le x y = true ↔ key x ≤ key y := by
  unfold le
  rw [Bool.or_eq_true, h.lt_iff hx hy, h.eq_iff hx hy, le_iff_lt_or_eq]

namespace Binary64

theorem isLE_totalCompare (x y : Binary64) :
    (totalCompare x y).isLE = true ↔ x.totalKey ≤ y.totalKey := by
  unfold totalCompare
  exact Int.isLE_compare

theorem totalKey_injective {x y : Binary64} (h : x.totalKey = y.totalKey) : x = y := by
  unfold totalKey at h
  cases hx : x.isNegative <;> cases hy : y.isNegative <;>
    simp only [hx, hy, Bool.false_eq_true, if_true, if_false] at h
  · exact ext_magnitude (by omega) (hx.trans hy.symm)
  · omega
  · omega
  · exact ext_magnitude (by omega) (hx.trans hy.symm)

theorem key_le_of_totalKey_le {x y : Binary64} (h : x.totalKey ≤ y.totalKey) : x.key ≤ y.key := by
  unfold totalKey at h
  unfold key
  cases hx : x.isNegative <;> cases hy : y.isNegative <;>
    simp only [hx, hy, Bool.false_eq_true, if_true, if_false] at h ⊢ <;> omega

theorem orderedBy_key : OrderedBy key where
  lt_iff {x y} hx hy := by
    change lt x y = true ↔ _
    unfold lt
    rw [show x.isNaN = false from hx, show y.isNaN = false from hy]
    exact decide_eq_true_iff
  eq_iff {x y} hx hy := by
    change eq x y = true ↔ _
    unfold eq
    rw [show x.isNaN = false from hx, show y.isNaN = false from hy]
    exact decide_eq_true_iff
  key_le _ _ h := key_le_of_totalKey_le ((isLE_totalCompare _ _).1 h)
  trans h h' :=
    (isLE_totalCompare _ _).2 (((isLE_totalCompare _ _).1 h).trans ((isLE_totalCompare _ _).1 h'))
  total x y := (le_total x.totalKey y.totalKey).imp (isLE_totalCompare x y).2
    (isLE_totalCompare y x).2
  antisymm h h' := totalKey_injective
    (((isLE_totalCompare _ _).1 h).antisymm ((isLE_totalCompare _ _).1 h'))
  isNaN_zero := by decide
  isNaN_infinity := by decide
  lt_infinity {x} h := by
    have hfinite : x.Finite := numeric_isFinite.1 h
    change x.key < infinity.key
    rw [key_infinity]
    unfold Finite at hfinite
    unfold key
    split <;> omega

end Binary64

namespace Exact

/-- The numbers between two infinities, with the NaN behind them. -/
def key : Exact → ℕ ×ₗ ℚ
  | infinite true => toLex (0, 0)
  | finite q => toLex (1, q)
  | infinite false => toLex (2, 0)
  | nan => toLex (3, 0)

theorem key_injective {x y : Exact} (h : x.key = y.key) : x = y := by
  rcases x with _ | q | _ | _ <;> rcases y with _ | r | _ | _ <;> cases h <;> rfl

theorem finite_or_infinite {x : Exact} (h : isNaN x = false) :
    (∃ q, x = finite q) ∨ ∃ negative, x = infinite negative := by
  cases x with
  | nan => cases h
  | finite q => exact .inl ⟨q, rfl⟩
  | infinite negative => exact .inr ⟨negative, rfl⟩

theorem eq_finite_of_isFinite {x : Exact} (h : isFinite x = true) : ∃ q, x = finite q := by
  rcases finite_or_infinite (isNaN_of_isFinite h) with hfinite | ⟨_ | _, rfl⟩
  · exact hfinite
  · cases h
  · cases h

theorem isLE_totalCompare (x y : Exact) : (totalCompare x y).isLE = true ↔ x.key ≤ y.key := by
  rcases x with _ | q | _ | _ <;> rcases y with _ | r | _ | _ <;>
    simp [totalCompare, key, Prod.Lex.toLex_le_toLex, lt]
  rcases lt_trichotomy q r with h | h | h
  · simp [h, h.ne, h.le]
  · simp [h]
  · simp [h.ne', h.not_gt, h]

theorem orderedBy_key : OrderedBy key where
  lt_iff {x y} hx hy := by
    change lt x y = true ↔ _
    rcases finite_or_infinite hx with ⟨q, rfl⟩ | ⟨_ | _, rfl⟩ <;>
      rcases finite_or_infinite hy with ⟨r, rfl⟩ | ⟨_ | _, rfl⟩ <;>
      simp [key, Prod.Lex.toLex_lt_toLex, lt]
  eq_iff {x y} hx hy := by
    change eq x y = true ↔ _
    rcases finite_or_infinite hx with ⟨q, rfl⟩ | ⟨_ | _, rfl⟩ <;>
      rcases finite_or_infinite hy with ⟨r, rfl⟩ | ⟨_ | _, rfl⟩ <;>
      simp [key, eq]
  key_le _ _ h := (isLE_totalCompare _ _).1 h
  trans h h' := by
    rw [show Numeric.totalCompare = totalCompare from rfl, isLE_totalCompare] at *
    exact h.trans h'
  total x y := by
    rw [show Numeric.totalCompare = totalCompare from rfl, isLE_totalCompare, isLE_totalCompare]
    exact le_total _ _
  antisymm h h' := by
    rw [show Numeric.totalCompare = totalCompare from rfl, isLE_totalCompare] at *
    exact key_injective (le_antisymm h h')
  isNaN_zero := rfl
  isNaN_infinity := rfl
  lt_infinity {x} h := by
    obtain ⟨q, rfl⟩ := eq_finite_of_isFinite h
    change toLex (1, q) < toLex (2, 0)
    simp [Prod.Lex.toLex_lt_toLex]

theorem key_le_finite {a b : ℚ} : (finite a).key ≤ (finite b).key ↔ a ≤ b := by
  simp [key, Prod.Lex.toLex_le_toLex]

theorem key_lt_finite {a b : ℚ} : (finite a).key < (finite b).key ↔ a < b := by
  simp [key, Prod.Lex.toLex_lt_toLex]

theorem maximum_finite (a b : ℚ) : maximum (finite a) (finite b) = finite (max a b) := by
  change (if decide (a < b) then finite b else finite a) = _
  rcases lt_or_ge a b with h | h
  · rw [decide_eq_true h, if_pos rfl, max_eq_right h.le]
  · rw [decide_eq_false h.not_gt, if_neg Bool.false_ne_true, max_eq_left h]

theorem minimum_finite (a b : ℚ) : minimum (finite a) (finite b) = finite (min a b) := by
  change (if decide (b < a) then finite b else finite a) = _
  rcases lt_or_ge b a with h | h
  · rw [decide_eq_true h, if_pos rfl, min_eq_right h.le]
  · rw [decide_eq_false h.not_gt, if_neg Bool.false_ne_true, min_eq_left h]

end Exact

end SeriesQuery
