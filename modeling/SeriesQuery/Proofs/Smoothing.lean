import Mathlib.Data.Rat.Cast.Order
import Mathlib.Tactic.NormNum
import Mathlib.Tactic.Ring
import SeriesQuery.Function.Window
import SeriesQuery.Proofs.CounterExtrapolation

/-!
# Double exponential smoothing in exact numbers

From the second value on, the smoothed value, the one before it and the trend change alike when the
values change in scale and origin: the differences lose the origin, and the weights of each mean
add up to one. On a line the smoothed value is the last one, the trend is the step of the line, and
the next value of the line is what both foresee.
-/

namespace SeriesQuery.Window

open Numeric

namespace Smoothed

variable {level slope : ℚ}

def next (level slope : ℚ) (s : Smoothed ℚ) (v : ℚ) : Smoothed ℚ where
  previous := s.current
  current := level * v +
    (1 - level) * (s.current + (slope * (s.current - s.previous) + (1 - slope) * s.trend))
  trend := slope * (s.current - s.previous) + (1 - slope) * s.trend

/-- The second value is the one that the first and the step between them foresee. -/
def second (first second : ℚ) : Smoothed ℚ := ⟨first, second, second - first⟩

def exactly (s : Smoothed ℚ) : Smoothed Exact :=
  ⟨.finite s.previous, .finite s.current, .finite s.trend⟩

theorem push_exactly (s : Smoothed ℚ) (v : ℚ) :
    s.exactly.push (.finite level) (.finite slope) (.finite v) =
      (s.next level slope v).exactly := by
  have hone : (one : Exact) = .finite 1 := rfl
  simp only [push, advance, exactly, next, hone, Exact.finite_add, Exact.finite_sub,
    Exact.finite_mul]

theorem foldl_push_exactly (s : Smoothed ℚ) (values : List ℚ) :
    (values.map Exact.finite).foldl (push (.finite level) (.finite slope)) s.exactly =
      (values.foldl (next level slope) s).exactly := by
  rw [List.foldl_map]
  exact List.foldl_hom exactly fun s v => push_exactly s v

theorem advance_first (first v : ℚ) :
    (⟨zero, .finite first, .finite v - .finite first⟩ : Smoothed Exact).advance (.finite level)
      (.finite v - .finite first) (.finite v) = (second first v).exactly := by
  have hone : (one : Exact) = .finite 1 := rfl
  have hforeseen : level * v + (1 - level) * (first + (v - first)) = v := by ring
  simp only [advance, exactly, second, hone, Exact.finite_add, Exact.finite_sub, Exact.finite_mul,
    hforeseen]

/-- The state after a change of scale and origin, of which the trend keeps the scale. -/
def affine (a b : ℚ) (s : Smoothed ℚ) : Smoothed ℚ :=
  ⟨a + b * s.previous, a + b * s.current, b * s.trend⟩

theorem next_affine (a b : ℚ) (s : Smoothed ℚ) (v : ℚ) :
    (s.affine a b).next level slope (a + b * v) = (s.next level slope v).affine a b := by
  simp only [next, affine, mk.injEq, true_and]
  constructor <;> ring

theorem second_affine (a b first v : ℚ) :
    second (a + b * first) (a + b * v) = (second first v).affine a b := by
  simp only [second, affine, mk.injEq, true_and]
  ring

theorem foldl_next_affine (a b : ℚ) (s : Smoothed ℚ) (values : List ℚ) :
    (values.map fun v => a + b * v).foldl (next level slope) (s.affine a b) =
      (values.foldl (next level slope) s).affine a b := by
  rw [List.foldl_map]
  exact List.foldl_hom (affine a b) fun s v => next_affine a b s v

theorem next_second (v d : ℚ) :
    (second (v - d) v).next level slope (v + d) = second v (v + d) := by
  simp only [next, second, mk.injEq, true_and]
  constructor <;> ring

theorem foldl_next_of_line (level slope : ℚ) {d : ℚ} (values : List ℚ) (v : ℚ)
    (hline : (v :: values).IsChain fun x y => y = x + d) :
    (values.foldl (next level slope) (second (v - d) v)).current = values.getLastD v := by
  induction values generalizing v with
  | nil => rfl
  | cons y rest ih =>
    obtain ⟨rfl, hrest⟩ := List.isChain_cons_cons.1 hline
    have hstep := ih (v + d) hrest
    rw [add_sub_cancel_right] at hstep
    rw [List.foldl_cons, next_second, hstep, List.getLastD_cons]

end Smoothed

/-- The last of at least two values smoothed without rounding. -/
def smoothed (level slope first second : ℚ) (rest : List ℚ) : ℚ :=
  (rest.foldl (Smoothed.next level slope) (.second first second)).current

theorem smooth_finite (level slope first second : ℚ) (rest : List ℚ) :
    smooth (.finite level) (.finite slope) ((first :: second :: rest).map Exact.finite) =
      some (.finite (smoothed level slope first second rest)) := by
  simp only [smooth, List.map_cons, Smoothed.advance_first, Smoothed.foldl_push_exactly]
  rfl

example : smooth (.finite (1 / 2)) (.finite (1 / 2)) [.finite 1, .finite 3, .finite 2] =
    some (Exact.finite (7 / 2)) := by decide +kernel

/-- All windows over samples of some values smooth to a number, whatever the times are. -/
def SmoothsTo [Exact.Functions] (level slope : ℚ) (values : List ℚ) (q : ℚ) : Prop :=
  ∀ samples : List (Sample ℚ), samples.map Sample.value = values → ∀ w,
    Function.holtWinters.reduceWindow (exactly samples) w [.finite level, .finite slope] =
      .ok (some (.finite q))

section Windows

variable [Exact.Functions]

theorem smoothsTo (level slope first second : ℚ) (rest : List ℚ) :
    SmoothsTo level slope (first :: second :: rest) (smoothed level slope first second rest) := by
  intro samples hsamples w
  have hvalues : (exactly samples).map Sample.value =
      (first :: second :: rest).map Exact.finite := by
    rw [exactly_values, hsamples]
  unfold Function.reduceWindow
  rw [if_neg (Function.not_isEmpty_of_values hvalues (List.cons_ne_nil _ _)), hvalues]
  exact congrArg Except.ok (smooth_finite level slope first second rest)

/-- Smoothing takes lines to their last values and follows changes of scale and origin. -/
theorem smoothing_affine_exact (level slope : ℚ) {values : List ℚ} (htwo : 2 ≤ values.length) :
    ∃ q, SmoothsTo level slope values q ∧
      (∀ a b, SmoothsTo level slope (values.map fun v => a + b * v) (a + b * q)) ∧
      ∀ d, (values.IsChain fun x y => y = x + d) → values.getLast? = some q := by
  obtain ⟨first, second, rest, rfl⟩ : ∃ first second rest, values = first :: second :: rest := by
    match values, htwo with
    | first :: second :: rest, _ => exact ⟨first, second, rest, rfl⟩
  refine ⟨_, smoothsTo level slope first second rest, ?affine, ?line⟩
  case affine =>
    intro a b
    have hmap := smoothsTo level slope (a + b * first) (a + b * second)
      (rest.map fun v => a + b * v)
    rwa [smoothed, Smoothed.second_affine, Smoothed.foldl_next_affine] at hmap
  case line =>
    intro d hline
    obtain ⟨rfl, hrest⟩ := List.isChain_cons_cons.1 hline
    have hlast := Smoothed.foldl_next_of_line level slope rest _ hrest
    rw [add_sub_cancel_right] at hlast
    simp [smoothed, hlast, List.getLast?_cons]

end Windows

def risingByTen : List ℚ := [0, 10, 20, 30]

section Arithmetic

local instance : Exact.Functions := Exact.arithmetic

theorem smoothed_risingByTen : 2 ≤ risingByTen.length ∧
    (risingByTen.IsChain fun x y => y = x + 10) ∧
    SmoothsTo (3 / 10) (3 / 5) risingByTen 30 ∧
    SmoothsTo (3 / 10) (3 / 5) (risingByTen.map fun v => 5 + 2 * v) 65 := by
  have htwo : 2 ≤ risingByTen.length := by decide
  have hline : risingByTen.IsChain fun x y => y = x + 10 := by norm_num [risingByTen]
  obtain ⟨q, hq, haffine, hlast⟩ := smoothing_affine_exact (3 / 10) (3 / 5) htwo
  obtain rfl : 30 = q := Option.some.inj (hlast 10 hline)
  have hscaled := haffine 5 2
  norm_num only at hscaled
  exact ⟨htwo, hline, hq, hscaled⟩

end Arithmetic

end SeriesQuery.Window
