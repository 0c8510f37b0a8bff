import Mathlib.Algebra.Order.BigOperators.Group.List
import Mathlib.Algebra.Order.Field.Basic
import Mathlib.Data.Rat.Cast.Order
import Mathlib.Tactic.FieldSimp
import Mathlib.Tactic.Linarith
import Mathlib.Tactic.Ring
import SeriesQuery.Exact
import SeriesQuery.Proofs.Outcome
import SeriesQuery.Window.Extrapolation

/-!
# Extrapolated counters

The increase of a counter inside a window, in exact numbers. What its resets took is made good, so
the increase is the sum of what was gained between each two samples. The line through the first and
the last sample is extended at most to the ends of the window, and not below zero.
-/

namespace SeriesQuery.Window

open Numeric

/-- What a counter gained between two values. After a reset it has counted from zero. -/
def gain (v next : ℚ) : ℚ := if v ≤ next then next - v else next

def gains (values : List ℚ) : ℚ := ((adjacent values).map fun p => gain p.1 p.2).sum

/-- What a counter had reached before each of its resets. -/
def losses (values : List ℚ) : ℚ :=
  ((adjacent values).map fun p => if p.2 < p.1 then p.1 else 0).sum

theorem adjacent_map {β γ : Type} (f : β → γ) (values : List β) :
    adjacent (values.map f) = (adjacent values).map (Prod.map f f) := by
  unfold adjacent
  rw [← List.map_tail, List.zip_map]

theorem adjacent_cons_cons {β : Type} (v next : β) (rest : List β) :
    adjacent (v :: next :: rest) = (v, next) :: adjacent (next :: rest) := rfl

theorem lostToResets_finite (values : List ℚ) :
    lostToResets (values.map Exact.finite) = .finite (losses values) := by
  have hfold (ps : List (ℚ × ℚ)) (lost : ℚ) :
      (ps.map (Prod.map Exact.finite Exact.finite)).foldl
          (fun lost (v, next) => if lt next v then lost + v else lost) (Exact.finite lost) =
        .finite (lost + (ps.map fun p => if p.2 < p.1 then p.1 else 0).sum) := by
    induction ps generalizing lost with
    | nil => simp
    | cons p rest ih =>
      obtain ⟨v, next⟩ := p
      simp only [List.map_cons, Prod.map_apply, List.foldl_cons, Exact.lt_finite, List.sum_cons,
        Exact.finite_add, decide_eq_true_eq]
      split
      · rw [ih, add_assoc]
      · rw [ih, zero_add]
  unfold lostToResets losses
  rw [adjacent_map]
  exact (hfold _ 0).trans (by rw [zero_add])

/-- The gains add up to the whole difference once the losses are made good. -/
theorem gains_eq {v last : ℚ} {rest : List ℚ} (hlast : (v :: rest).getLast? = some last) :
    gains (v :: rest) = last - v + losses (v :: rest) := by
  induction rest generalizing v with
  | nil =>
    obtain rfl : v = last := by simpa using hlast
    simp [gains, losses, adjacent]
  | cons next rest ih =>
    rw [List.getLast?_cons_cons] at hlast
    have ih := ih hlast
    unfold gains losses at ih ⊢
    rw [adjacent_cons_cons, List.map_cons, List.map_cons, List.sum_cons, List.sum_cons, ih]
    unfold gain
    by_cases h : v ≤ next
    · rw [if_pos h, if_neg (not_lt.2 h)]
      ring
    · rw [if_neg h, if_pos (not_le.1 h)]
      ring

theorem gains_nonneg {values : List ℚ} (h : ∀ v ∈ values, 0 ≤ v) : 0 ≤ gains values := by
  refine List.sum_nonneg fun g hg => ?_
  obtain ⟨⟨v, next⟩, hmem, rfl⟩ := List.mem_map.1 hg
  have hnext : next ∈ values := List.mem_of_mem_tail (List.of_mem_zip hmem).2
  unfold gain
  split
  · exact sub_nonneg.2 ‹_›
  · exact h next hnext

theorem rawIncrease_finite {v last : ℚ} {rest : List ℚ}
    (hlast : (v :: rest).getLast? = some last) :
    rawIncrease true (.finite v) (.finite last) ((v :: rest).map Exact.finite) =
      .finite (gains (v :: rest)) := by
  unfold rawIncrease
  rw [lostToResets_finite, gains_eq hlast, Exact.finite_sub]
  rfl

/-- How far to extend into a gap, given the mean time between two samples. -/
def reach (interval gap : ℚ) : ℚ := if gap < interval * (11 / 10) then gap else interval / 2

theorem reach_nonneg {interval gap : ℚ} (hinterval : 0 ≤ interval) (hgap : 0 ≤ gap) :
    0 ≤ reach interval gap := by
  unfold reach
  split
  · exact hgap
  · linarith

/-- Half an interval is less than a gap that is not covered. -/
theorem reach_le {interval gap : ℚ} (hinterval : 0 ≤ interval) : reach interval gap ≤ gap := by
  unfold reach
  split
  · exact le_refl gap
  · linarith

/-- The gap before the first sample, as far as a line with a given increase stays above zero. -/
def gapAboveZero (sampled before first increase : ℚ) : ℚ :=
  if 0 < increase ∧ 0 ≤ first then min before (sampled * (first / increase)) else before

namespace Coverage

def ofRat (before sampled after interval : ℚ) : Coverage Exact :=
  ⟨.finite before, .finite sampled, .finite after, .finite interval⟩

variable (before sampled after interval gap first increase : ℚ)

theorem extension_ofRat :
    (ofRat before sampled after interval).extension (.finite gap) =
      .finite (reach interval gap) := by
  have htenths : (ofInt 11 / ofInt 10 : Exact) = .finite (11 / 10) := by
    rw [Exact.ofInt_eq, Exact.ofInt_eq, Exact.finite_div (by norm_num)]
    norm_num
  have hhalf : (Exact.finite interval / ofInt 2 : Exact) = .finite (interval / 2) := by
    rw [Exact.ofInt_eq, Exact.finite_div (by norm_num)]
    norm_num
  unfold extension ofRat reach
  rw [htenths, Exact.finite_mul, Exact.lt_finite, hhalf]
  simp only [decide_eq_true_eq]
  split <;> rfl

theorem extended_ofRat :
    (ofRat before sampled after interval).extended =
      .finite (sampled + reach interval before + reach interval after) := by
  unfold extended
  rw [show (ofRat before sampled after interval).before = .finite before from rfl,
    show (ofRat before sampled after interval).after = .finite after from rfl,
    extension_ofRat, extension_ofRat]
  rfl

theorem limitToZero_ofRat :
    (ofRat before sampled after interval).limitToZero (.finite first) (.finite increase) =
      ofRat (gapAboveZero sampled before first increase) sampled after interval := by
  unfold limitToZero gapAboveZero ofRat
  change (if (lt (Exact.finite 0) (.finite increase) && le (Exact.finite 0) (.finite first)) = true
    then _ else _) = _
  rw [Exact.lt_finite, Exact.le_finite]
  simp only [Bool.and_eq_true, decide_eq_true_eq]
  by_cases h : 0 < increase ∧ 0 ≤ first
  · rw [if_pos h, if_pos h, Exact.finite_div h.1.ne', Exact.finite_mul]
    simp only [Exact.lt_finite, decide_eq_true_eq]
    by_cases hlt : sampled * (first / increase) < before
    · rw [if_pos hlt, min_eq_right hlt.le]
    · rw [if_neg hlt, min_eq_left (not_lt.1 hlt)]
  · rw [if_neg h, if_neg h]

end Coverage

structure Counts (w : Window) (samples : List (Sample ℚ)) : Prop where
  two_le : 2 ≤ samples.length
  ascending : samples.Pairwise fun s next => s.timestamp < next.timestamp
  inside : ∀ s ∈ samples, w.start ≤ s.timestamp ∧ s.timestamp ≤ w.finish
  nonneg : ∀ s ∈ samples, 0 ≤ s.value

namespace Counts

variable {w : Window} {t range offset : Int} {first second last : Sample ℚ}
  {rest : List (Sample ℚ)}

theorem first_lt_last (h : w.Counts (first :: second :: rest))
    (hlast : (first :: second :: rest).getLast? = some last) :
    first.timestamp < last.timestamp := by
  refine (List.pairwise_cons.1 h.ascending).1 last ?_
  rw [List.getLast?_cons_cons] at hlast
  exact List.mem_of_getLast? hlast

/-- The gaps of a window and the time between its samples add up to its range. -/
theorem coverage_eq (hw : Window.of t range offset = .ok w) (hrange : Millis.InRange range)
    (h : w.Counts (first :: second :: rest))
    (hlast : (first :: second :: rest).getLast? = some last) :
    ∃ before sampled after : ℚ, sampled = (last.timestamp - first.timestamp) / 1000 ∧
      0 ≤ before ∧ 0 < sampled ∧ 0 ≤ after ∧ sampled + before + after = range / 1000 ∧
      w.coverage first.timestamp last.timestamp (rest.length + 2) =
        .ok (Coverage.ofRat before sampled after (sampled / (rest.length + 1))) := by
  have hlt := h.first_lt_last hlast
  obtain ⟨hstart, -⟩ := h.inside first List.mem_cons_self
  obtain ⟨-, hfinish⟩ := h.inside last (List.mem_of_getLast? hlast)
  obtain ⟨-, -, rfl⟩ := Window.of_eq_ok_iff.1 hw
  dsimp only at hstart hfinish
  have hin {d : Int} (hnonneg : 0 ≤ d) (hle : d ≤ range) : Millis.InRange d := by
    unfold Millis.InRange Millis.least at *
    omega
  have hcount : (ofNat (rest.length + 2 - 1) : Exact) = .finite (rest.length + 1 : ℚ) := by
    change Exact.finite _ = _
    push_cast
    rfl
  have hne : (rest.length + 1 : ℚ) ≠ 0 := by positivity
  refine ⟨(first.timestamp - (t - offset - range : Int)) / 1000, _,
    ((t - offset : Int) - last.timestamp) / 1000, rfl, ?_, ?_, ?_, ?_, ?_⟩
  · exact div_nonneg (sub_nonneg.2 (Int.cast_le.2 hstart)) (by norm_num)
  · exact div_pos (sub_pos.2 (Int.cast_lt.2 hlt)) (by norm_num)
  · exact div_nonneg (sub_nonneg.2 (Int.cast_le.2 hfinish)) (by norm_num)
  · push_cast
    ring
  · rw [coverage_of_inRange (hin (by dsimp only; omega) (by dsimp only; omega))
      (hin (by omega) (by omega)) (hin (by dsimp only; omega) (by dsimp only; omega)), hcount]
    unfold Coverage.ofRat
    simp only [Exact.ofMillis_eq, Exact.finite_div hne]
    push_cast
    rfl

end Counts

/-- Samples whose values are rational numbers. -/
def exactly (samples : List (Sample ℚ)) : List (Sample Exact) :=
  samples.map fun s => ⟨s.timestamp, .finite s.value⟩

theorem exactly_values (samples : List (Sample ℚ)) :
    (exactly samples).map Sample.value = (samples.map Sample.value).map Exact.finite := by
  simp [exactly]

/-- What a counter gained between its first and its last sample, the seconds between the two and
the seconds for which the line through them is extended on either side. -/
structure Fit where
  gained : ℚ
  sampled : ℚ
  before : ℚ
  after : ℚ

namespace Fit

def extended (f : Fit) : ℚ := f.sampled + f.before + f.after

def increase (f : Fit) : ℚ := f.gained * (f.extended / f.sampled)

structure Fits (f : Fit) (w : Window) (first last : Sample ℚ) (samples : List (Sample ℚ)) :
    Prop where
  gained : f.gained = gains (samples.map Sample.value)
  raw : rawIncrease true (.finite first.value) (.finite last.value)
    ((exactly samples).map Sample.value) = .finite f.gained
  coverage : ∃ whole c : Coverage Exact,
    w.coverage first.timestamp last.timestamp samples.length = .ok whole ∧
    c = whole.limitToZero (.finite first.value) (.finite f.gained) ∧
    c.sampled = .finite f.sampled ∧ c.extension c.before = .finite f.before ∧
    c.extension c.after = .finite f.after ∧ c.extended = .finite f.extended
  increase : w.increase true (exactly samples) = .ok (some (.finite f.increase))
  rate : w.rate (exactly samples) = .ok (some (.finite (f.increase / (w.range / 1000))))

/-- The line is extended inside a range and not below zero. -/
structure Bounded (f : Fit) (first : ℚ) (range : Int) : Prop where
  gained_nonneg : 0 ≤ f.gained
  sampled_pos : 0 < f.sampled
  sampled_le : f.sampled ≤ f.extended
  extended_le : f.extended ≤ range / 1000
  above_zero : 0 ≤ first - f.gained / f.sampled * f.before
  increase_nonneg : 0 ≤ f.increase
  rate_nonneg : 0 ≤ f.increase / (range / 1000)
  increase_le : f.increase ≤ f.gained * (range / 1000) / f.sampled

theorem bounded {f : Fit} {first : ℚ} {range : Int} (hgained : 0 ≤ f.gained)
    (hsampled : 0 < f.sampled) (hbefore : 0 ≤ f.before) (hafter : 0 ≤ f.after)
    (hextended : f.extended ≤ range / 1000) (hzero : f.gained / f.sampled * f.before ≤ first) :
    f.Bounded first range := by
  have hle : f.sampled ≤ f.extended := by
    unfold extended
    linarith
  have hincrease : 0 ≤ f.increase :=
    mul_nonneg hgained (div_nonneg (hsampled.le.trans hle) hsampled.le)
  refine ⟨hgained, hsampled, hle, hextended, sub_nonneg.2 hzero, hincrease, ?_, ?_⟩
  · exact div_nonneg hincrease ((hsampled.le.trans hle).trans hextended)
  · unfold increase
    rw [mul_div_assoc]
    gcongr

end Fit

theorem gapAboveZero_nonneg {sampled before first increase : ℚ} (hsampled : 0 ≤ sampled)
    (hbefore : 0 ≤ before) : 0 ≤ gapAboveZero sampled before first increase := by
  unfold gapAboveZero
  split
  · next h =>
    have := h.1
    have := h.2
    exact le_min hbefore (by positivity)
  · exact hbefore

theorem gapAboveZero_le (sampled before first increase : ℚ) :
    gapAboveZero sampled before first increase ≤ before := by
  unfold gapAboveZero
  split
  · exact min_le_left _ _
  · exact le_refl before

/-- Followed back through the limited gap, the line has not yet reached zero. -/
theorem slope_mul_gapAboveZero_le {sampled before first increase : ℚ} (hsampled : 0 < sampled)
    (hfirst : 0 ≤ first) (hincrease : 0 ≤ increase) :
    increase / sampled * gapAboveZero sampled before first increase ≤ first := by
  obtain hzero | hpos := hincrease.eq_or_lt
  · rw [← hzero, zero_div, zero_mul]
    exact hfirst
  · unfold gapAboveZero
    rw [if_pos ⟨hpos, hfirst⟩]
    calc increase / sampled * min before (sampled * (first / increase))
        ≤ increase / sampled * (sampled * (first / increase)) := by
          gcongr
          exact min_le_right _ _
      _ = first := by field_simp

def Fit.line (gained first before sampled after interval : ℚ) : Fit where
  gained
  sampled
  before := reach interval (gapAboveZero sampled before first gained)
  after := reach interval after

theorem Fit.line_bounded {gained first before sampled after interval : ℚ} {range : Int}
    (hgained : 0 ≤ gained) (hfirst : 0 ≤ first) (hbefore : 0 ≤ before) (hsampled : 0 < sampled)
    (hafter : 0 ≤ after) (hinterval : 0 ≤ interval)
    (hsum : sampled + before + after = range / 1000) :
    (line gained first before sampled after interval).Bounded first range := by
  have hgap : 0 ≤ gapAboveZero sampled before first gained :=
    gapAboveZero_nonneg hsampled.le hbefore
  have hle : reach interval (gapAboveZero sampled before first gained) ≤
      gapAboveZero sampled before first gained := reach_le hinterval
  refine bounded hgained hsampled (reach_nonneg hinterval hgap) (reach_nonneg hinterval hafter)
    ?_ ?_
  · have hlimited := gapAboveZero_le sampled before first gained
    have hreach : reach interval after ≤ after := reach_le hinterval
    unfold extended line
    dsimp only
    linarith
  · calc gained / sampled * reach interval (gapAboveZero sampled before first gained)
        ≤ gained / sampled * gapAboveZero sampled before first gained := by gcongr
      _ ≤ first := slope_mul_gapAboveZero_le hsampled hfirst hgained

theorem Fit.line_fits {w : Window} {first second last : Sample ℚ} {rest : List (Sample ℚ)}
    {before sampled after interval : ℚ}
    (hlast : (first :: second :: rest).getLast? = some last)
    (hcoverage : w.coverage first.timestamp last.timestamp (rest.length + 2) =
      .ok (Coverage.ofRat before sampled after interval))
    (hsampled : sampled ≠ 0) (hrange : w.range ≠ 0) :
    (line (gains ((first :: second :: rest).map Sample.value)) first.value before sampled after
      interval).Fits w first last (first :: second :: rest) := by
  have hraw : rawIncrease true (.finite first.value) (.finite last.value)
      ((exactly (first :: second :: rest)).map Sample.value) =
        .finite (gains ((first :: second :: rest).map Sample.value)) := by
    have hend : (first.value :: (second :: rest).map Sample.value).getLast? = some last.value := by
      rw [← List.map_cons, List.getLast?_map, hlast, Option.map_some]
    rw [exactly_values]
    exact rawIncrease_finite hend
  generalize hgained : gains ((first :: second :: rest).map Sample.value) = gained at hraw
  have hlimit : (Coverage.ofRat before sampled after interval).limitToZero
      (.finite first.value) (.finite gained) =
        .ofRat (gapAboveZero sampled before first.value gained) sampled after interval :=
    Coverage.limitToZero_ofRat ..
  have hincrease : w.increase true (exactly (first :: second :: rest)) =
      .ok (some (.finite (line gained first.value before sampled after interval).increase)) := by
    have hend : (exactly (first :: second :: rest)).getLast? =
        some ⟨last.timestamp, .finite last.value⟩ := by
      rw [exactly, List.getLast?_map, hlast, Option.map_some]
    have hlength : (exactly (first :: second :: rest)).length = rest.length + 2 := by
      simp [exactly]
    unfold Window.increase
    rw [hend, hlength]
    refine bind_eq_ok_iff.2 ⟨_, hcoverage, congrArg (fun v => Except.ok (some v)) ?_⟩
    change rawIncrease true (.finite first.value) (.finite last.value)
      ((exactly (first :: second :: rest)).map Sample.value) * _ = _
    rw [hraw, if_pos rfl, hlimit, Coverage.extended_ofRat]
    exact congrArg (Exact.finite gained * ·) (Exact.finite_div hsampled)
  refine ⟨hgained.symm, hraw, ⟨_, _, hcoverage, hlimit.symm, rfl, ?_, ?_, ?_⟩, hincrease, ?_⟩
  · exact Coverage.extension_ofRat ..
  · exact Coverage.extension_ofRat ..
  · exact Coverage.extended_ofRat ..
  · unfold rate
    rw [hincrease, Exact.ofMillis_eq]
    refine congrArg (fun v => Except.ok (some v)) (Exact.finite_div ?_)
    positivity

/-- In exact numbers a counter with any number of resets has gained what its steps gained. The
window extends the line from no shorter than the samples to no longer than the range and keeps it
above zero, so neither the increase nor the rate is negative. -/
theorem counter_extrapolation {t range offset : Int} {w : Window}
    (hw : Window.of t range offset = .ok w) (hrange : Millis.InRange range)
    {samples : List (Sample ℚ)} (h : w.Counts samples) :
    ∃ (first last : Sample ℚ) (f : Fit),
      samples.head? = some first ∧ samples.getLast? = some last ∧
      f.sampled = (last.timestamp - first.timestamp) / 1000 ∧
      f.Fits w first last samples ∧ f.Bounded first.value range := by
  match samples, h with
  | [], h => exact absurd h.two_le (by simp)
  | [_], h => exact absurd h.two_le (by simp)
  | first :: second :: rest, h =>
    obtain ⟨last, hlast⟩ : ∃ last, (first :: second :: rest).getLast? = some last :=
      ⟨_, List.getLast?_eq_some_getLast (by simp)⟩
    obtain ⟨before, sampled, after, hsampled, hbefore, hpos, hafter, hsum, hcoverage⟩ :=
      h.coverage_eq hw hrange hlast
    have hgained : 0 ≤ gains ((first :: second :: rest).map Sample.value) := by
      refine gains_nonneg fun v hv => ?_
      obtain ⟨s, hs, rfl⟩ := List.mem_map.1 hv
      exact h.nonneg s hs
    have hne : w.range ≠ 0 := by
      obtain ⟨-, -, rfl⟩ := Window.of_eq_ok_iff.1 hw
      rintro (rfl : range = 0)
      rw [Int.cast_zero] at hsum
      linarith
    exact ⟨first, last, _, rfl, hlast, hsampled, Fit.line_fits hlast hcoverage hpos.ne' hne,
      Fit.line_bounded hgained (h.nonneg first List.mem_cons_self) hbefore hpos hafter
        (by positivity) hsum⟩

def resetCounter : List (Sample ℚ) := [⟨10000, 5⟩, ⟨30000, 2⟩, ⟨50000, 3⟩]

def firstMinute : Window := ⟨0, 60000, 60000, 60000⟩

theorem of_firstMinute : Window.of 60000 60000 0 = .ok firstMinute := by decide

theorem resetCounter_counts : firstMinute.Counts resetCounter where
  two_le := by decide
  ascending := by decide
  inside := by decide
  nonneg := by decide

theorem resetCounter_extrapolation :
    Window.of 60000 60000 0 = .ok firstMinute ∧
    ∃ (first last : Sample ℚ) (f : Fit),
      resetCounter.head? = some first ∧ resetCounter.getLast? = some last ∧
      f.sampled = (last.timestamp - first.timestamp) / 1000 ∧
      f.Fits firstMinute first last resetCounter ∧ f.Bounded first.value 60000 :=
  ⟨of_firstMinute, counter_extrapolation of_firstMinute (by decide) resetCounter_counts⟩

end SeriesQuery.Window
