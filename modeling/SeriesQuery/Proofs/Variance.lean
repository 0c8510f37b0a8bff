import Mathlib.Algebra.BigOperators.Ring.List
import Mathlib.Algebra.Order.BigOperators.Group.List
import Mathlib.Data.List.Induction
import Mathlib.Data.Rat.Cast.Order
import Mathlib.Tactic.FieldSimp
import Mathlib.Tactic.LinearCombination
import Mathlib.Tactic.Ring
import SeriesQuery.Exact
import SeriesQuery.Function.Window

/-!
# Variance of exact numbers

The running mean is the mean of the values so far, and the running sum is that of their squared
deviations from it: a new value moves the mean, and by as much as the old deviations grow around
the new mean the new deviation falls short of the old one. So the variance is the mean of the
squared deviations from the mean, from which its laws follow.
-/

namespace SeriesQuery.Statistics

open Numeric

def average (values : List ℚ) : ℚ := values.sum / values.length

def squaredDeviations (centre : ℚ) (values : List ℚ) : ℚ :=
  (values.map fun x => (x - centre) ^ 2).sum

def populationVariance (values : List ℚ) : ℚ :=
  average (values.map fun x => (x - average values) ^ 2)

section Deviations

variable {values : List ℚ}

theorem length_mul_average (values : List ℚ) : values.length * average values = values.sum := by
  by_cases hne : values = []
  · simp [hne]
  · have hlength : (values.length : ℚ) ≠ 0 := by simpa using hne
    exact mul_div_cancel₀ _ hlength

theorem squaredDeviations_expand (centre : ℚ) (values : List ℚ) :
    squaredDeviations centre values =
      (values.map (· ^ 2)).sum - 2 * centre * values.sum + values.length * centre ^ 2 := by
  induction values with
  | nil => simp [squaredDeviations]
  | cons x rest ih =>
    simp only [squaredDeviations, List.map_cons, List.sum_cons, List.length_cons, Nat.cast_succ]
      at ih ⊢
    rw [ih]
    ring

/-- Deviations are smallest around the mean. -/
theorem squaredDeviations_eq (centre : ℚ) (values : List ℚ) :
    squaredDeviations centre values = squaredDeviations (average values) values +
      values.length * (average values - centre) ^ 2 := by
  rw [squaredDeviations_expand, squaredDeviations_expand, ← length_mul_average values]
  ring

theorem populationVariance_eq (values : List ℚ) :
    populationVariance values = squaredDeviations (average values) values / values.length := by
  rw [populationVariance, average, List.length_map]
  rfl

theorem squares_nonneg (centre : ℚ) (values : List ℚ) :
    ∀ q ∈ values.map fun x => (x - centre) ^ 2, 0 ≤ q := by
  intro q hq
  obtain ⟨x, -, rfl⟩ := List.mem_map.1 hq
  exact sq_nonneg _

theorem squaredDeviations_nonneg (centre : ℚ) (values : List ℚ) :
    0 ≤ squaredDeviations centre values :=
  List.sum_nonneg (squares_nonneg centre values)

theorem squaredDeviations_eq_zero_iff {centre : ℚ} :
    squaredDeviations centre values = 0 ↔ ∀ x ∈ values, x = centre := by
  constructor
  · intro hzero x hx
    have hsquare := List.all_zero_of_le_zero_le_of_sum_eq_zero (squares_nonneg centre values) hzero
      (List.mem_map_of_mem hx)
    exact sub_eq_zero.1 (sq_eq_zero_iff.1 hsquare)
  · intro hall
    apply List.sum_eq_zero
    intro q hq
    obtain ⟨x, hx, rfl⟩ := List.mem_map.1 hq
    rw [hall x hx, sub_self, zero_pow two_ne_zero]

theorem average_of_forall_eq {x : ℚ} (hne : values ≠ []) (h : ∀ y ∈ values, y = x) :
    average values = x := by
  have hlength : (values.length : ℚ) ≠ 0 := by simpa using hne
  rw [average, List.eq_replicate_of_mem h, List.sum_replicate, List.length_replicate, nsmul_eq_mul]
  exact mul_div_cancel_left₀ x hlength

theorem populationVariance_nonneg (values : List ℚ) : 0 ≤ populationVariance values := by
  rw [populationVariance_eq]
  exact div_nonneg (squaredDeviations_nonneg _ _) (Nat.cast_nonneg _)

theorem populationVariance_eq_zero_iff (hne : values ≠ []) :
    populationVariance values = 0 ↔ ∀ x ∈ values, ∀ y ∈ values, x = y := by
  have hlength : (values.length : ℚ) ≠ 0 := by simpa using hne
  rw [populationVariance_eq, div_eq_zero_iff, or_iff_left hlength, squaredDeviations_eq_zero_iff]
  constructor
  · intro hall x hx y hy
    rw [hall x hx, hall y hy]
  · intro hsame x hx
    exact (average_of_forall_eq hne fun y hy => hsame y hy x hx).symm

theorem populationVariance_perm {values' : List ℚ} (h : values'.Perm values) :
    populationVariance values' = populationVariance values := by
  have haverage : average values' = average values := by
    rw [average, average, h.sum_eq, h.length_eq]
  rw [populationVariance_eq, populationVariance_eq, haverage, squaredDeviations,
    (h.map _).sum_eq, h.length_eq]
  rfl

/-- A change of scale and origin changes the mean likewise. -/
theorem average_affine (a b : ℚ) (hne : values ≠ []) :
    average (values.map fun x => a + b * x) = a + b * average values := by
  have hlength : (values.length : ℚ) ≠ 0 := by simpa using hne
  have hsum : (values.map fun x => a + b * x).sum = values.length * a + b * values.sum := by
    rw [List.sum_map_add, List.map_const', List.sum_replicate, List.sum_map_mul_left, List.map_id',
      nsmul_eq_mul]
  rw [average, average, hsum, List.length_map]
  field_simp

theorem populationVariance_affine (a b : ℚ) (hne : values ≠ []) :
    populationVariance (values.map fun x => a + b * x) = b ^ 2 * populationVariance values := by
  have hdeviation (x : ℚ) : (a + b * x - (a + b * average values)) ^ 2 =
      b ^ 2 * (x - average values) ^ 2 := by ring
  rw [populationVariance_eq, populationVariance_eq, average_affine a b hne, List.length_map,
    squaredDeviations, squaredDeviations, List.map_map]
  simp only [Function.comp_def, hdeviation]
  rw [List.sum_map_mul_left, mul_div_assoc]

end Deviations

/-- The count, the mean and the sum of squared deviations of some values. -/
def moments (values : List ℚ) : Moments Exact where
  count := .finite values.length
  mean := .finite (average values)
  deviations := .finite (squaredDeviations (average values) values)

theorem average_concat (values : List ℚ) (v : ℚ) :
    average (values ++ [v]) = average values + (v - average values) / (values.length + 1) := by
  have hlength : (values.length + 1 : ℚ) ≠ 0 := Nat.cast_add_one_ne_zero _
  rw [average, List.sum_append, List.sum_singleton, List.length_append, List.length_singleton,
    ← length_mul_average, Nat.cast_succ]
  field_simp
  ring

theorem squaredDeviations_concat (values : List ℚ) (v : ℚ) :
    squaredDeviations (average (values ++ [v])) (values ++ [v]) =
      squaredDeviations (average values) values +
        (v - average values) * (v - average (values ++ [v])) := by
  have hlength : (values.length + 1 : ℚ) ≠ 0 := Nat.cast_add_one_ne_zero _
  -- the new mean is as many times closer to the old mean than to the value as there are old values
  have hmean : values.length * (average (values ++ [v]) - average values) =
      v - average (values ++ [v]) := by
    rw [average_concat]
    field_simp
    ring
  have happend : squaredDeviations (average (values ++ [v])) (values ++ [v]) =
      squaredDeviations (average (values ++ [v])) values + (v - average (values ++ [v])) ^ 2 := by
    simp [squaredDeviations]
  rw [happend, squaredDeviations_eq (average (values ++ [v])) values]
  linear_combination (average (values ++ [v]) - average values) * hmean

theorem push_moments (values : List ℚ) (v : ℚ) :
    (moments values).push (.finite v) = moments (values ++ [v]) := by
  have hlength : (values.length + 1 : ℚ) ≠ 0 := Nat.cast_add_one_ne_zero _
  have hone : (one : Exact) = .finite 1 := rfl
  have hcount : ((values ++ [v]).length : ℚ) = values.length + 1 := by
    rw [List.length_append, List.length_singleton, Nat.cast_succ]
  unfold Moments.push moments
  simp only [hone, Exact.finite_add, Exact.finite_sub, Exact.finite_mul, Exact.finite_div hlength,
    ← average_concat, squaredDeviations_concat, hcount]

theorem foldl_push (values : List ℚ) :
    (values.map Exact.finite).foldl Moments.push ⟨zero, zero, zero⟩ = moments values := by
  induction values using List.reverseRecOn with
  | nil =>
    have haverage : average [] = 0 := div_zero _
    simp [moments, haverage, squaredDeviations, zero, Exact.ofInt_eq]
  | append_singleton rest v ih =>
    rw [List.map_append, List.foldl_append, ih]
    exact push_moments rest v

theorem variance_finite {values : List ℚ} (hne : values ≠ []) :
    variance (values.map Exact.finite) = .finite (populationVariance values) := by
  have hlength : (values.length : ℚ) ≠ 0 := by simpa using hne
  unfold variance
  rw [foldl_push, populationVariance_eq]
  exact Exact.finite_div hlength

/-- What is true of a number as the variance of some values: it is the mean of the squared
deviations, and the operators and functions yield it or its root. -/
structure IsVariance [Exact.Functions] (values : List ℚ) (q : ℚ) : Prop where
  value : variance (values.map Exact.finite) = .finite q
  eq_mean : q = average (values.map fun x => (x - average values) ^ 2)
  nonneg : 0 ≤ q
  eq_zero_iff : q = 0 ↔ ∀ x ∈ values, ∀ y ∈ values, x = y
  perm : ∀ values' : List ℚ, values'.Perm values → variance (values'.map Exact.finite) = .finite q
  shifted : ∀ c, variance ((values.map (c + ·)).map Exact.finite) = .finite q
  scaled : ∀ c, variance ((values.map (c * ·)).map Exact.finite) = .finite (c ^ 2 * q)
  root : standardDeviation (values.map Exact.finite) = sqrt (.finite q)
  aggregated : ∀ p, AggregateOp.stdvar.reduce (values.map Exact.finite) p = .value (.finite q) ∧
    AggregateOp.stddev.reduce (values.map Exact.finite) p = .value (sqrt (.finite q))
  windowed : ∀ samples : List (Sample Exact),
    samples.map Sample.value = values.map Exact.finite → ∀ w params,
      Function.stdvarOverTime.reduceWindow samples w params = .ok (some (.finite q)) ∧
      Function.stddevOverTime.reduceWindow samples w params = .ok (some (sqrt (.finite q)))

/-- Values that are updated one by one have the population variance in the end. -/
theorem welford_variance [Exact.Functions] {values : List ℚ} (hne : values ≠ []) :
    IsVariance values (populationVariance values) := by
  have hvariance := variance_finite hne
  have hroot : standardDeviation (values.map Exact.finite) =
      sqrt (.finite (populationVariance values)) := congrArg sqrt hvariance
  refine ⟨hvariance, rfl, populationVariance_nonneg values, populationVariance_eq_zero_iff hne,
    ?perm, ?shifted, ?scaled, hroot, ?aggregated, ?windowed⟩
  case perm =>
    intro values' hperm
    have hne' : values' ≠ [] := by
      rintro rfl
      exact hne hperm.nil_eq.symm
    rw [variance_finite hne', populationVariance_perm hperm]
  case shifted =>
    intro c
    have haffine := populationVariance_affine c 1 hne
    simp only [one_mul, one_pow] at haffine
    rw [variance_finite (by simpa using hne), haffine]
  case scaled =>
    intro c
    have haffine := populationVariance_affine 0 c hne
    simp only [zero_add] at haffine
    rw [variance_finite (by simpa using hne), haffine]
  case aggregated =>
    intro p
    exact ⟨congrArg Reduction.value hvariance, congrArg Reduction.value hroot⟩
  case windowed =>
    intro samples hsamples w params
    have hempty := Function.not_isEmpty_of_values hsamples (List.map_eq_nil_iff.not.2 hne)
    unfold Function.reduceWindow
    rw [if_neg hempty, if_neg hempty, hsamples]
    exact ⟨congrArg (fun v => Except.ok (some v)) hvariance,
      congrArg (fun v => Except.ok (some v)) hroot⟩

def aroundFive : List ℚ := [2, 4, 4, 4, 5, 5, 7, 9]

theorem variance_aroundFive : aroundFive ≠ [] ∧
    variance (aroundFive.map Exact.finite) = .finite 4 ∧
    variance ((aroundFive.map (1 / 3 * ·)).map Exact.finite) = .finite (4 / 9) ∧
    standardDeviation (aroundFive.map Exact.finite) = .finite 2 := by
  let : Exact.Functions := Exact.arithmetic
  have hne : aroundFive ≠ [] := by decide
  have hvariance := welford_variance hne
  have hfour : populationVariance aroundFive = 4 := by
    norm_num [populationVariance, average, aroundFive]
  rw [hfour] at hvariance
  have hthird : (1 / 3 : ℚ) ^ 2 * 4 = 4 / 9 := by norm_num
  exact ⟨hne, hvariance.value, hthird ▸ hvariance.scaled (1 / 3),
    hvariance.root.trans (by decide +kernel)⟩

end SeriesQuery.Statistics
