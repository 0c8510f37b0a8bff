import Mathlib.Data.List.Perm.Basic
import SeriesQuery.Proofs.NumericOrder
import SeriesQuery.Statistics

/-!
# Sums and extremes of exact numbers

Without rounding a compensated sum is the plain one. Addition and the choice of an extreme are
associative, commutative and have a neutral element, so the values can be combined in any order
and group by group. A group without a number counts as the NaN, which is neutral for extremes.
-/

namespace SeriesQuery

open Numeric

section Fold

variable {α κ : Type} {f : α → α → α} {e : α}

/-- A fold of the folds of groups goes through all their elements. -/
theorem foldl_map_foldl [Std.Associative f] [Std.LawfulIdentity f e] (groups : List (List α)) :
    (groups.map (List.foldl f e)).foldl f e = groups.flatten.foldl f e := by
  have hgroup (a : α) (group : List α) : f a (group.foldl f e) = group.foldl f a := by
    have hassoc : group.foldl f (f a e) = f a (group.foldl f e) := List.foldl_assoc
    have hright : f a e = a := Std.LawfulRightIdentity.right_id a
    rw [← hassoc, hright]
  rw [List.foldl_flatten, List.foldl_map]
  exact congrArg (fun step => groups.foldl step e)
    (funext fun a => funext fun group => hgroup a group)

variable [LinearOrder κ]

def leastBy (key : α → κ) (x y : α) : α := if key y < key x then y else x

theorem key_leastBy (key : α → κ) (x y : α) : key (leastBy key x y) = min (key x) (key y) := by
  unfold leastBy
  split
  · exact (min_eq_right (le_of_lt ‹_›)).symm
  · exact (min_eq_left (not_lt.1 ‹_›)).symm

variable {key : α → κ}

theorem leastBy_assoc (hkey : Function.Injective key) : Std.Associative (leastBy key) where
  assoc x y z := hkey <| by
    simp only [key_leastBy, min_assoc]

theorem leastBy_comm (hkey : Function.Injective key) : Std.Commutative (leastBy key) where
  comm x y := hkey <| by rw [key_leastBy key, key_leastBy key, min_comm]

theorem leastBy_identity (hkey : Function.Injective key) {top : α} (htop : ∀ x, key x ≤ key top) :
    Std.LawfulIdentity (leastBy key) top where
  left_id x := hkey <| by rw [key_leastBy key, min_eq_right (htop x)]
  right_id x := hkey <| by rw [key_leastBy key, min_eq_left (htop x)]

end Fold

namespace Exact

instance : Std.Associative (α := Exact) (· + ·) where
  assoc x y z := by
    change add (add x y) z = add x (add y z)
    rcases x with _ | a | _ | _ <;> rcases y with _ | b | _ | _ <;> rcases z with _ | c | _ | _ <;>
      simp [add, Rat.add_assoc]

instance : Std.Commutative (α := Exact) (· + ·) where
  comm x y := by
    change add x y = add y x
    rcases x with _ | a | _ | _ <;> rcases y with _ | b | _ | _ <;> simp [add, Rat.add_comm]

instance : Std.LawfulIdentity (α := Exact) (· + ·) zero where
  left_id x := by
    change add (finite 0) x = x
    cases x <;> simp [add]
  right_id x := by
    change add x (finite 0) = x
    cases x <;> simp [add]

/-- Nothing is lost from a running sum, unless there is no sum. -/
structure Keeps (s : Statistics.RunningSum Exact) (sum : Exact) : Prop where
  sum : s.sum = sum
  lost : s.sum = nan ∨ s.lost = zero

theorem Keeps.push {s : Statistics.RunningSum Exact} {sum : Exact} (h : Keeps s sum) (v : Exact) :
    Keeps (s.push v) (sum + v) where
  sum := congrArg (· + v) h.sum
  lost := by
    obtain ⟨total, lost⟩ := s
    have hlost : total = nan ∨ lost = zero := h.lost
    rcases hlost with rfl | rfl
    · exact .inl rfl
    · rcases total with _ | a | s
      · exact .inl rfl
      · rcases v with _ | b | t
        · exact .inl rfl
        · refine .inr ?_
          unfold Statistics.RunningSum.push
          simp only [finite_add, finite_sub]
          split
          · rfl
          · split <;> simp [zero, ofInt_eq, finite_add]
        · exact .inr (by cases t <;> rfl)
      · rcases v with _ | b | t
        · exact .inl rfl
        · exact .inr (by cases s <;> rfl)
        · cases s <;> cases t
          · exact .inr rfl
          · exact .inl rfl
          · exact .inl rfl
          · exact .inr rfl

theorem sum_eq_foldl (values : List Exact) :
    Statistics.sum values = values.foldl (· + ·) zero := by
  have hkeeps : ∀ (s : Statistics.RunningSum Exact) (sum : Exact), Keeps s sum →
      Keeps (values.foldl .push s) (values.foldl (· + ·) sum) := by
    induction values with
    | nil => exact fun s sum h => h
    | cons v rest ih => exact fun s sum h => ih _ _ (h.push v)
  obtain ⟨hsum, hlost⟩ := hkeeps ⟨zero, zero⟩ zero ⟨rfl, .inr rfl⟩
  unfold Statistics.sum Statistics.RunningSum.total
  rw [hsum] at hlost ⊢
  split
  · rfl
  · rcases hlost with hnan | hzero
    · rw [hnan]
      rfl
    · rw [hzero]
      exact Std.LawfulRightIdentity.right_id _

theorem key_le_nan (x : Exact) : key x ≤ key nan := by
  rcases x with _ | a | _ | _ <;> simp [key, Prod.Lex.toLex_le_toLex]

theorem neg_injective : Function.Injective neg := by
  rintro (_ | a | s) (_ | b | t) h <;> simp_all [neg]

/-- The order of the numbers turned around, again with the NaN behind them. -/
def reversedKey (x : Exact) : ℕ ×ₗ ℚ := key x.neg

theorem reversedKey_injective : Function.Injective reversedKey := fun _ _ h =>
  neg_injective (key_injective h)

/-- The smaller number, where the NaN is greater than all numbers. -/
theorem extremum_lt (values : List Exact) :
    Statistics.extremum lt values = values.foldl (leastBy key) nan := by
  have hstep : (fun best v : Exact => if isNaN best || lt v best then v else best) =
      leastBy key := by
    funext x y
    rcases x with _ | a | _ | _ <;> rcases y with _ | b | _ | _ <;>
      simp [leastBy, lt, isNaN, key, Prod.Lex.toLex_lt_toLex]
  exact congrArg (fun step => values.foldl step nan) hstep

theorem extremum_gt (values : List Exact) :
    Statistics.extremum (fun v best => lt best v) values =
      values.foldl (leastBy reversedKey) nan := by
  have hstep : (fun best v : Exact => if isNaN best || lt best v then v else best) =
      leastBy reversedKey := by
    funext x y
    rcases x with _ | a | _ | _ <;> rcases y with _ | b | _ | _ <;>
      simp [leastBy, lt, isNaN, reversedKey, key, neg, Prod.Lex.toLex_lt_toLex]
  exact congrArg (fun step => values.foldl step nan) hstep

end Exact

end SeriesQuery
