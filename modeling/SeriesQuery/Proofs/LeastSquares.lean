import Mathlib.Algebra.Order.BigOperators.Group.List
import Mathlib.Tactic.FieldSimp
import Mathlib.Tactic.LinearCombination
import Mathlib.Tactic.Positivity
import SeriesQuery.Proofs.CounterExtrapolation
import SeriesQuery.Window.Trend

/-!
# Least squares in exact numbers

The normal equations hold for the fitted line, so the squared error of any other line is larger by
a sum of squares. As there is one best line, it does not matter from which time seconds are
counted, as long as the differences of the times fit in sixty-four bits.
-/

namespace SeriesQuery.Window

open Numeric

variable {x : Sample ℚ → ℚ} {samples : List (Sample ℚ)} {line : Line ℚ}

/-- The sums from which a line is fitted, where `x` gives the place of a sample. -/
def totals (x : Sample ℚ → ℚ) (samples : List (Sample ℚ)) : Sums ℚ where
  n := samples.length
  x := (samples.map x).sum
  y := (samples.map Sample.value).sum
  xy := (samples.map fun s => x s * s.value).sum
  xx := (samples.map fun s => x s * x s).sum

def Line.valueAt (line : Line ℚ) (place : ℚ) : ℚ := line.slope * place + line.intercept

def squaredError (x : Sample ℚ → ℚ) (samples : List (Sample ℚ)) (line : Line ℚ) : ℚ :=
  (samples.map fun s => (s.value - line.valueAt (x s)) ^ 2).sum

def squares (x : Sample ℚ → ℚ) (samples : List (Sample ℚ)) (line : Line ℚ) : ℚ :=
  (samples.map fun s => line.valueAt (x s) ^ 2).sum

theorem squares_eq (x : Sample ℚ → ℚ) (samples : List (Sample ℚ)) (line : Line ℚ) :
    squares x samples line = line.slope ^ 2 * (totals x samples).xx +
      2 * line.slope * line.intercept * (totals x samples).x +
      line.intercept ^ 2 * (totals x samples).n := by
  induction samples with
  | nil => simp [squares, totals]
  | cons s rest ih =>
    simp only [squares, totals, Line.valueAt, List.map_cons, List.sum_cons, List.length_cons,
      Nat.cast_succ] at ih ⊢
    rw [ih]
    ring

theorem squaredError_eq (x : Sample ℚ → ℚ) (samples : List (Sample ℚ)) (line : Line ℚ) :
    squaredError x samples line = (samples.map fun s => s.value ^ 2).sum -
      2 * (line.slope * (totals x samples).xy + line.intercept * (totals x samples).y) +
      squares x samples line := by
  induction samples with
  | nil => simp [squaredError, squares, totals]
  | cons s rest ih =>
    simp only [squaredError, squares, totals, Line.valueAt, List.map_cons, List.sum_cons] at ih ⊢
    rw [ih]
    ring

def Spread (x : Sample ℚ → ℚ) (samples : List (Sample ℚ)) : Prop :=
  ∃ s ∈ samples, ∃ s' ∈ samples, x s ≠ x s'

/-- Only the line that is zero everywhere is zero at two places. -/
theorem squares_pos (h : Spread x samples) (hline : line.slope ≠ 0 ∨ line.intercept ≠ 0) :
    0 < squares x samples line := by
  obtain ⟨s, hs, s', hs', hne⟩ := h
  have hnonneg : ∀ q ∈ samples.map fun s => line.valueAt (x s) ^ 2, 0 ≤ q := by
    intro q hq
    obtain ⟨s, -, rfl⟩ := List.mem_map.1 hq
    exact sq_nonneg _
  refine (List.sum_nonneg hnonneg).lt_of_ne fun hzero => ?_
  have hvanishes : ∀ s ∈ samples, line.valueAt (x s) = 0 := fun s hs =>
    sq_eq_zero_iff.1 (List.all_zero_of_le_zero_le_of_sum_eq_zero hnonneg hzero.symm
      (List.mem_map_of_mem hs))
  have h₁ := hvanishes s hs
  have h₂ := hvanishes s' hs'
  unfold Line.valueAt at h₁ h₂
  have hslope : line.slope = 0 := by
    have hproduct : line.slope * (x s - x s') = 0 := by linear_combination h₁ - h₂
    exact (mul_eq_zero.1 hproduct).resolve_right (sub_ne_zero.2 hne)
  rw [hslope, zero_mul, zero_add] at h₁
  exact hline.elim (· hslope) (· h₁)

def Line.minus (line other : Line ℚ) : Line ℚ where
  slope := line.slope - other.slope
  intercept := line.intercept - other.intercept

theorem squares_minus_pos (h : Spread x samples) {other : Line ℚ} (hne : other ≠ line) :
    0 < squares x samples (other.minus line) := by
  apply squares_pos h
  by_contra! hzero
  obtain ⟨hslope, hintercept⟩ := hzero
  exact hne (congrArg₂ Line.mk (sub_eq_zero.1 hslope) (sub_eq_zero.1 hintercept))

theorem totals_n_ne_zero (h : Spread x samples) : (totals x samples).n ≠ 0 := by
  obtain ⟨s, hs, -⟩ := h
  exact Nat.cast_ne_zero.2 (List.length_pos_of_mem hs).ne'

/-- The sum of the squared distances of the places from their mean. -/
def Sums.dispersion (s : Sums ℚ) : ℚ := s.xx - s.x * s.x / s.n

theorem dispersion_pos (h : Spread x samples) : 0 < (totals x samples).dispersion := by
  have hn := totals_n_ne_zero h
  -- the line through the mean of the places with slope one
  have hpos : 0 < squares x samples ⟨1, -((totals x samples).x / (totals x samples).n)⟩ :=
    squares_pos h (.inl one_ne_zero)
  rw [squares_eq] at hpos
  convert hpos using 1
  unfold Sums.dispersion
  field_simp
  ring

def Sums.bestLine (s : Sums ℚ) : Line ℚ where
  slope := (s.xy - s.x * s.y / s.n) / s.dispersion
  intercept := s.y / s.n - (s.xy - s.x * s.y / s.n) / s.dispersion * s.x / s.n

theorem Sums.normal_equations {s : Sums ℚ} (hn : s.n ≠ 0) (hdispersion : s.dispersion ≠ 0) :
    s.bestLine.slope * s.x + s.bestLine.intercept * s.n = s.y ∧
      s.bestLine.slope * s.xx + s.bestLine.intercept * s.x = s.xy := by
  have hslope : s.bestLine.slope * s.dispersion = s.xy - s.x * s.y / s.n :=
    div_mul_cancel₀ _ hdispersion
  have hintercept : s.bestLine.intercept = s.y / s.n - s.bestLine.slope * s.x / s.n := rfl
  constructor
  · rw [hintercept]
    field_simp
    ring
  · rw [hintercept]
    unfold Sums.dispersion at hslope
    linear_combination hslope

def IsBest (x : Sample ℚ → ℚ) (samples : List (Sample ℚ)) (line : Line ℚ) : Prop :=
  ∀ other, other ≠ line → squaredError x samples line < squaredError x samples other

theorem IsBest.unique {other : Line ℚ} (h : IsBest x samples line) (h' : IsBest x samples other) :
    line = other := by
  by_contra hne
  exact (h other (Ne.symm hne)).asymm (h' line hne)

/-- By the normal equations the error of another line is larger by the squares of the difference of
the two lines. -/
theorem isBest_bestLine (h : Spread x samples) : IsBest x samples (totals x samples).bestLine := by
  intro other hne
  obtain ⟨hy, hxy⟩ := Sums.normal_equations (totals_n_ne_zero h) (dispersion_pos h).ne'
  have hdifference : squaredError x samples other =
      squaredError x samples (totals x samples).bestLine +
        squares x samples (other.minus (totals x samples).bestLine) := by
    unfold Line.minus
    rw [squaredError_eq, squaredError_eq, squares_eq, squares_eq, squares_eq, ← hy, ← hxy]
    ring
  have hpos := squares_minus_pos h hne
  linarith

theorem isBest_of_collinear (h : Spread x samples)
    (hline : ∀ s ∈ samples, s.value = line.valueAt (x s)) : IsBest x samples line := by
  intro other hne
  have hzero : squaredError x samples line = 0 := by
    apply List.sum_eq_zero
    intro q hq
    obtain ⟨s, hs, rfl⟩ := List.mem_map.1 hq
    rw [hline s hs, sub_self, zero_pow two_ne_zero]
  have hother : squaredError x samples other = squares x samples (other.minus line) := by
    unfold squaredError squares
    congr 1
    apply List.map_congr_left
    intro s hs
    rw [hline s hs]
    unfold Line.minus Line.valueAt
    ring
  rw [hzero, hother]
  exact squares_minus_pos h hne

def secondsSince (origin : Int) (s : Sample ℚ) : ℚ := (s.timestamp - origin) / 1000

/-- The difference of each sample's time from some time fits in sixty-four bits. -/
def Reaches (samples : List (Sample ℚ)) (origin : Int) : Prop :=
  ∀ s ∈ samples, Millis.InRange (s.timestamp - origin)

instance (samples : List (Sample ℚ)) (origin : Int) : Decidable (Reaches samples origin) :=
  inferInstanceAs (Decidable (∀ s ∈ samples, _))

def Line.since (line : Line ℚ) (origin : Int) : Line ℚ where
  slope := line.slope
  intercept := line.valueAt (origin / 1000)

theorem squaredError_since (samples : List (Sample ℚ)) (line : Line ℚ) (origin : Int) :
    squaredError (secondsSince origin) samples (line.since origin) =
      squaredError (secondsSince 0) samples line := by
  unfold squaredError
  congr 1
  apply List.map_congr_left
  intro s _
  unfold Line.valueAt Line.since secondsSince Line.valueAt
  push_cast
  ring

theorem Line.since_neg_since (line : Line ℚ) (origin : Int) :
    (line.since (-origin)).since origin = line := by
  have hintercept : ((line.since (-origin)).since origin).intercept = line.intercept := by
    unfold since valueAt
    push_cast
    ring
  exact congrArg (Line.mk line.slope) hintercept

theorem isBest_since (h : IsBest (secondsSince 0) samples line) (origin : Int) :
    IsBest (secondsSince origin) samples (line.since origin) := by
  intro other hne
  rw [squaredError_since, ← other.since_neg_since origin, squaredError_since]
  apply h
  rintro rfl
  exact hne (other.since_neg_since origin).symm

theorem spread_secondsSince
    (h : ∃ s ∈ samples, ∃ s' ∈ samples, s.timestamp ≠ s'.timestamp) (origin : Int) :
    Spread (secondsSince origin) samples := by
  obtain ⟨s, hs, s', hs', hne⟩ := h
  refine ⟨s, hs, s', hs', fun heq => hne ?_⟩
  unfold secondsSince at heq
  have hcast : (s.timestamp : ℚ) = s'.timestamp := by linarith
  exact Int.cast_injective hcast

def Sums.exactly (s : Sums ℚ) : Sums Exact :=
  ⟨.finite s.n, .finite s.x, .finite s.y, .finite s.xy, .finite s.xx⟩

def Line.exactly (line : Line ℚ) : Line Exact := ⟨.finite line.slope, .finite line.intercept⟩

theorem totals_concat (x : Sample ℚ → ℚ) (rest : List (Sample ℚ)) (s : Sample ℚ) :
    (totals x (rest ++ [s])).exactly =
      (totals x rest).exactly.push (.finite (x s)) (.finite s.value) := by
  have hone : (one : Exact) = .finite 1 := rfl
  simp [totals, Sums.exactly, Sums.push, hone, Exact.finite_add, Exact.finite_mul]

theorem foldl_push_exactly (samples : List (Sample ℚ)) (origin : Int) :
    (exactly samples).foldl (fun s sample =>
        s.push (ofMillis (sample.timestamp - origin)) sample.value)
      ⟨zero, zero, zero, zero, zero⟩ = (totals (secondsSince origin) samples).exactly := by
  induction samples using List.reverseRecOn with
  | nil => rfl
  | append_singleton rest s ih =>
    have hseconds : (ofMillis (s.timestamp - origin) : Exact) = .finite (secondsSince origin s) := by
      unfold secondsSince
      rw [Exact.ofMillis_eq]
      push_cast
      rfl
    rw [totals_concat, ← ih, ← hseconds]
    simp [exactly]

theorem sums_exactly {origin : Int} (h : Reaches samples origin) :
    sums (exactly samples) origin = .ok (totals (secondsSince origin) samples).exactly := by
  rw [← foldl_push_exactly]
  refine sums_of_inRange fun s hs => ?_
  obtain ⟨s, hmem, rfl⟩ := List.mem_map.1 hs
  exact h s hmem

/-- A sample that is too far away breaks off the calculation. -/
theorem sums_overflow {origin : Int} (h : ¬Reaches samples origin) :
    sums (exactly samples) origin = .error .subtraction := by
  unfold sums
  generalize (⟨zero, zero, zero, zero, zero⟩ : Sums Exact) = sums
  induction samples generalizing sums with
  | nil => exact absurd nofun h
  | cons s rest ih =>
    change (⟨s.timestamp, .finite s.value⟩ :: exactly rest).foldlM _ _ = _
    rw [List.foldlM_cons]
    by_cases hs : Millis.InRange (s.timestamp - origin)
    · rw [secondsBetween_of_inRange hs]
      refine ih (fun hrest => h fun s' hs' => ?_) _
      rcases List.mem_cons.1 hs' with rfl | hs'
      · exact hs
      · exact hrest s' hs'
    · unfold secondsBetween Millis.minus
      rw [if_neg hs]
      rfl

theorem Sums.line_exactly {s : Sums ℚ} (hn : s.n ≠ 0) (hdispersion : s.dispersion ≠ 0) :
    s.exactly.line = s.bestLine.exactly := by
  unfold Sums.line Sums.exactly Sums.bestLine Line.exactly
  have hdispersion' : s.xx - s.x * s.x / s.n ≠ 0 := hdispersion
  simp only [Exact.finite_mul, Exact.finite_sub, Exact.finite_div hn, Exact.finite_div hdispersion']
  rfl

/-- One line is fitted to some samples, from whatever time the seconds are counted, unless one of
them is too far from that time. No divisor is zero, no other line has as small a squared error, and
predictions continue the line. They continue any line that the samples are on. -/
structure FitsEverywhere (samples : List (Sample ℚ)) (line : Line ℚ) : Prop where
  divisors : ∀ origin (s : Sums Exact), sums (exactly samples) origin = .ok s →
    ∃ n dispersion : ℚ, n ≠ 0 ∧ dispersion ≠ 0 ∧ s.n = .finite n ∧
      s.xx - s.x * s.x / s.n = .finite dispersion
  fit_eq : ∀ origin, fit (exactly samples) origin =
    if Reaches samples origin then .ok (line.since origin).exactly else .error .subtraction
  best : ∀ origin, IsBest (secondsSince origin) samples (line.since origin)
  slope_eq : ∀ first rest, samples = first :: rest → Reaches samples first.timestamp →
    slope (exactly samples) = .ok (some (.finite line.slope))
  predict_eq : ∀ w seconds, Reaches samples w.timestamp →
    predict w (.finite seconds) (exactly samples) =
      .ok (some (.finite (line.valueAt (w.timestamp / 1000 + seconds))))
  collinear : ∀ other : Line ℚ,
    (∀ s ∈ samples, s.value = other.valueAt (s.timestamp / 1000)) →
    ∀ w seconds, Reaches samples w.timestamp →
      predict w (.finite seconds) (exactly samples) =
        .ok (some (.finite (other.valueAt (w.timestamp / 1000 + seconds))))

theorem exists_cons_cons
    (h : ∃ s ∈ samples, ∃ s' ∈ samples, s.timestamp ≠ s'.timestamp) :
    ∃ first second rest, samples = first :: second :: rest := by
  obtain ⟨s, hs, s', hs', hne⟩ := h
  match samples with
  | [] => cases hs
  | [first] =>
    rw [List.mem_singleton] at hs hs'
    exact absurd (by rw [hs, hs']) hne
  | first :: second :: rest => exact ⟨first, second, rest, rfl⟩

theorem fit_exactly {origin : Int} (hreaches : Reaches samples origin)
    (hspread : Spread (secondsSince origin) samples) :
    fit (exactly samples) origin =
      .ok (totals (secondsSince origin) samples).bestLine.exactly := by
  unfold fit
  rw [sums_exactly hreaches, ← Sums.line_exactly (totals_n_ne_zero hspread)
    (dispersion_pos hspread).ne']
  rfl

/-- Samples at two times at least have one line of least squares. It is fitted from every time
whose differences from those of the samples fit in sixty-four bits. -/
theorem least_squares {samples : List (Sample ℚ)}
    (h : ∃ s ∈ samples, ∃ s' ∈ samples, s.timestamp ≠ s'.timestamp) :
    ∃ line, FitsEverywhere samples line := by
  have hspread := spread_secondsSince h
  have hbest := isBest_bestLine (hspread 0)
  refine ⟨(totals (secondsSince 0) samples).bestLine, ?_⟩
  generalize (totals (secondsSince 0) samples).bestLine = line at hbest
  have hfit (origin : Int) (hreaches : Reaches samples origin) :
      fit (exactly samples) origin = .ok (line.since origin).exactly := by
    rw [fit_exactly hreaches (hspread origin)]
    exact congrArg (fun line => Except.ok (Line.exactly line))
      ((isBest_bestLine (hspread origin)).unique (isBest_since hbest origin))
  have hpredict (w : Window) (seconds : ℚ) (hreaches : Reaches samples w.timestamp) :
      predict w (.finite seconds) (exactly samples) =
        .ok (some (.finite (line.valueAt (w.timestamp / 1000 + seconds)))) := by
    have hvalue : line.slope * seconds + (line.since w.timestamp).intercept =
        line.valueAt (w.timestamp / 1000 + seconds) := by
      unfold Line.since Line.valueAt
      ring
    obtain ⟨first, second, rest, rfl⟩ := exists_cons_cons h
    refine bind_eq_ok_iff.2 ⟨_, hfit w.timestamp hreaches, ?_⟩
    rw [← hvalue]
    rfl
  refine ⟨?divisors, ?fit, isBest_since hbest, ?slope, hpredict, ?collinear⟩
  case divisors =>
    intro origin s hs
    have hreaches : Reaches samples origin := by
      by_contra hreaches
      rw [sums_overflow hreaches] at hs
      cases hs
    rw [sums_exactly hreaches] at hs
    obtain rfl := Except.ok.inj hs
    have hn := totals_n_ne_zero (hspread origin)
    refine ⟨_, _, hn, (dispersion_pos (hspread origin)).ne', rfl, ?_⟩
    unfold Sums.exactly
    rw [Exact.finite_mul, Exact.finite_div hn, Exact.finite_sub]
    rfl
  case fit =>
    intro origin
    by_cases hreaches : Reaches samples origin
    · rw [if_pos hreaches, hfit origin hreaches]
    · rw [if_neg hreaches, fit, sums_overflow hreaches]
      rfl
  case slope =>
    rintro first rest rfl hreaches
    obtain ⟨_, second, rest, heq⟩ := exists_cons_cons h
    obtain ⟨rfl, rfl⟩ := List.cons.inj heq
    exact bind_eq_ok_iff.2 ⟨_, hfit first.timestamp hreaches, rfl⟩
  case collinear =>
    intro other hother w seconds hreaches
    have hother' : IsBest (secondsSince 0) samples other := by
      apply isBest_of_collinear (hspread 0)
      intro s hs
      rw [hother s hs]
      simp [secondsSince]
    rw [← hbest.unique hother']
    exact hpredict w seconds hreaches

def risingByOne : List (Sample ℚ) := [⟨10000, 1⟩, ⟨12000, 3⟩, ⟨20000, 11⟩]

theorem predict_risingByOne :
    (∃ s ∈ risingByOne, ∃ s' ∈ risingByOne, s.timestamp ≠ s'.timestamp) ∧
      Reaches risingByOne 20000 ∧
      predict ⟨0, 20000, 20000, 20000⟩ (.finite 5) (exactly risingByOne) =
        .ok (some (.finite 16)) := by
  have htimes : ∃ s ∈ risingByOne, ∃ s' ∈ risingByOne, s.timestamp ≠ s'.timestamp := by decide
  obtain ⟨line, hline⟩ := least_squares htimes
  have hpredict := hline.collinear ⟨1, -9⟩ (by decide +kernel) ⟨0, 20000, 20000, 20000⟩ 5 (by decide)
  refine ⟨htimes, by decide, hpredict.trans ?_⟩
  norm_num [Line.valueAt]

end SeriesQuery.Window
