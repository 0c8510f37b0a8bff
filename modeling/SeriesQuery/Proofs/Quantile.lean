import Mathlib.Data.List.GetD
import Mathlib.Data.Rat.Floor
import Mathlib.Order.Interval.Set.Basic
import Mathlib.Tactic.FieldSimp
import Mathlib.Tactic.Linarith
import SeriesQuery.Proofs.NumericOrder
import SeriesQuery.Statistics

/-!
# Quantiles of exact numbers

A quantile is a value of the polygon through the sorted values, taken at the rank. The polygon rises
and stays between its first and its last corner, so quantiles do.
-/

namespace SeriesQuery

open Numeric

/-- The polygon through the points that a sequence has at the whole numbers. -/
def polygon (corner : ℕ → ℚ) (r : ℚ) : ℚ :=
  corner ⌊r⌋₊ * (1 - (r - ⌊r⌋₊)) + corner (⌊r⌋₊ + 1) * (r - ⌊r⌋₊)

section Polygon

variable {corner : ℕ → ℚ} {r r' : ℚ}

@[simp] theorem polygon_natCast (corner : ℕ → ℚ) (k : ℕ) : polygon corner k = corner k := by
  simp [polygon]

theorem weight_nonneg (hr : 0 ≤ r) : 0 ≤ r - ⌊r⌋₊ := by
  have := Nat.floor_le hr
  linarith

theorem weight_le_one (r : ℚ) : r - ⌊r⌋₊ ≤ 1 := by
  have := Nat.lt_floor_add_one r
  linarith

theorem le_polygon (hr : 0 ≤ r) {bound : ℚ} (h : bound ≤ corner ⌊r⌋₊)
    (h' : bound ≤ corner (⌊r⌋₊ + 1)) : bound ≤ polygon corner r := by
  have hlower := mul_le_mul_of_nonneg_right h (sub_nonneg.2 (weight_le_one r))
  have hupper := mul_le_mul_of_nonneg_right h' (weight_nonneg hr)
  unfold polygon
  linarith

theorem polygon_le (hr : 0 ≤ r) {bound : ℚ} (h : corner ⌊r⌋₊ ≤ bound)
    (h' : corner (⌊r⌋₊ + 1) ≤ bound) : polygon corner r ≤ bound := by
  have hlower := mul_le_mul_of_nonneg_right h (sub_nonneg.2 (weight_le_one r))
  have hupper := mul_le_mul_of_nonneg_right h' (weight_nonneg hr)
  unfold polygon
  linarith

/-- Between different corners the polygon passes one that separates them. -/
theorem polygon_mono (hcorner : Monotone corner) (hr : 0 ≤ r) (h : r ≤ r') :
    polygon corner r ≤ polygon corner r' := by
  have hr' : 0 ≤ r' := hr.trans h
  rcases (Nat.floor_mono h).eq_or_lt with hfloor | hfloor
  · have hrise : 0 ≤ corner (⌊r'⌋₊ + 1) - corner ⌊r'⌋₊ :=
      sub_nonneg.2 (hcorner (Nat.le_succ _))
    have hstep := mul_le_mul_of_nonneg_left h hrise
    unfold polygon
    rw [hfloor]
    linarith
  · calc polygon corner r
        ≤ corner (⌊r⌋₊ + 1) := polygon_le hr (hcorner (Nat.le_succ _)) le_rfl
      _ ≤ corner ⌊r'⌋₊ := hcorner hfloor
      _ ≤ polygon corner r' := le_polygon hr' le_rfl (hcorner (Nat.le_succ _))

end Polygon

theorem Exact.toIndex_natCast (k : ℕ) : toIndex (finite k) = min 0xffffffffffffffff k := by
  change (max 0 (min 0xffffffffffffffff (((k : ℚ).num).tdiv (k : ℚ).den))).toNat = _
  rw [Rat.num_natCast, Rat.den_natCast, Nat.cast_one, Int.tdiv_one]
  omega

namespace Statistics

/-- The last position that a rank among a number of values can have. Positions are of sixty-four
bits. -/
def lastPosition (count : ℕ) : ℕ := min (count - 1) 0xffffffffffffffff

def rank (phi : ℚ) (count : ℕ) : ℚ := phi * (count - 1)

theorem rank_nonneg {phi : ℚ} {count : ℕ} (hcount : 0 < count) (hphi : 0 ≤ phi) :
    0 ≤ rank phi count := by
  have hlast : (1 : ℚ) ≤ count := Nat.one_le_cast.2 hcount
  exact mul_nonneg hphi (sub_nonneg.2 hlast)

theorem rank_le {phi : ℚ} {count : ℕ} (hcount : 0 < count) (hphi : phi ≤ 1) :
    rank phi count ≤ (count - 1 : ℕ) := by
  have hlast : (1 : ℚ) ≤ count := Nat.one_le_cast.2 hcount
  rw [Nat.cast_pred hcount]
  exact mul_le_of_le_one_left (sub_nonneg.2 hlast) hphi

theorem quantileRank_finite {phi : ℚ} {count : ℕ} (hcount : 0 < count) (hphi : 0 ≤ phi)
    (hphi' : phi ≤ 1) : QuantileRank.of (.finite phi : Exact) count =
      { lower := min ⌊rank phi count⌋₊ (lastPosition count)
        upper := min (⌊rank phi count⌋₊ + 1) (lastPosition count)
        weight := .finite (rank phi count - ⌊rank phi count⌋₊) } := by
  have hfloor : floor (.finite (rank phi count) : Exact) = .finite ⌊rank phi count⌋₊ := by
    change Exact.finite (⌊rank phi count⌋ : ℚ) = _
    rw [natCast_floor_eq_intCast_floor (rank_nonneg hcount hphi)]
  have hlast : (ofNat count - one : Exact) = .finite (count - 1 : ℕ) := by
    rw [Nat.cast_pred hcount]
    exact Exact.finite_sub
  have hrank : (.finite phi * .finite (count - 1 : ℕ) : Exact) = .finite (rank phi count) := by
    rw [Nat.cast_pred hcount]
    exact Exact.finite_mul
  have hlower : maximum (.finite ⌊rank phi count⌋₊ : Exact) zero = .finite ⌊rank phi count⌋₊ := by
    have hzero : (zero : Exact) = .finite 0 := rfl
    rw [hzero, Exact.maximum_finite, max_eq_left (Nat.cast_nonneg _)]
  have hsucc : (.finite ⌊rank phi count⌋₊ + one : Exact) = .finite (⌊rank phi count⌋₊ + 1 : ℕ) := by
    rw [Nat.cast_succ]
    exact Exact.finite_add
  have hle : ⌊rank phi count⌋₊ ≤ count - 1 := Nat.floor_le_of_le (rank_le hcount hphi')
  unfold QuantileRank.of
  simp only [hrank, hfloor, hlower, hsucc, hlast, Exact.minimum_finite, ← Nat.cast_min,
    Exact.toIndex_natCast, Exact.finite_sub]
  unfold lastPosition
  congr 1 <;> omega

structure Arranges (sorted values : List ℚ) : Prop where
  perm : sorted.Perm values
  ascending : sorted.Pairwise (· ≤ ·)

theorem Arranges.unique {sorted sorted' values : List ℚ} (h : Arranges sorted values)
    (h' : Arranges sorted' values) : sorted = sorted' :=
  List.Perm.eq_of_pairwise (fun _ _ _ _ hle hge => le_antisymm hle hge) h.ascending h'.ascending
    (h.perm.trans h'.perm.symm)

theorem exists_arranges (values : List ℚ) :
    ∃ sorted, Arranges sorted values ∧
      ascending (values.map Exact.finite) = sorted.map Exact.finite := by
  refine ⟨values.mergeSort (· ≤ ·), ⟨List.mergeSort_perm _ _, ?_⟩, ?_⟩
  · have hsorted : (values.mergeSort (· ≤ ·)).Pairwise fun a b => decide (a ≤ b) = true := by
      apply List.pairwise_mergeSort
      · intro a b c hab hbc
        rw [decide_eq_true_iff] at *
        exact hab.trans hbc
      · intro a b
        simpa using le_total a b
    simpa using hsorted
  · symm
    apply List.map_mergeSort
    intro a _ b _
    rw [Bool.eq_iff_iff, decide_eq_true_iff]
    exact (Exact.key_le_finite.symm.trans (Exact.isLE_totalCompare _ _).symm)

/-- The sorted value at a position, or at the last one that is left if the position is behind it. -/
def corner (sorted : List ℚ) (i : ℕ) : ℚ := sorted.getD (min i (lastPosition sorted.length)) 0

theorem lastPosition_lt {count : ℕ} (h : 0 < count) : lastPosition count < count := by
  unfold lastPosition
  omega

theorem corner_eq_getElem {sorted : List ℚ} {i : ℕ} (hi : i ≤ lastPosition sorted.length)
    (h : i < sorted.length) : corner sorted i = sorted[i] := by
  unfold corner
  rw [min_eq_left hi, List.getD_eq_getElem _ _ h]

theorem corner_mem {sorted : List ℚ} (h : sorted ≠ []) (i : ℕ) : corner sorted i ∈ sorted := by
  have hlast := lastPosition_lt (List.length_pos_iff.2 h)
  unfold corner
  rw [List.getD_eq_getElem _ _ (by omega)]
  exact List.getElem_mem _

theorem corner_mono {sorted : List ℚ} (h : sorted.Pairwise (· ≤ ·)) : Monotone (corner sorted) := by
  intro i j hij
  by_cases hne : sorted = []
  · simp [corner, hne]
  have hlast := lastPosition_lt (List.length_pos_iff.2 hne)
  unfold corner
  rw [List.getD_eq_getElem _ _ (by omega), List.getD_eq_getElem _ _ (by omega)]
  rcases (min_le_min_right (lastPosition sorted.length) hij).eq_or_lt with heq | hlt
  · exact le_of_eq (by simp only [heq])
  · exact List.pairwise_iff_getElem.1 h _ _ _ _ hlt

variable {values sorted : List ℚ} {phi : ℚ}

theorem quantile_eq_polygon (hne : values ≠ []) (hsorted : Arranges sorted values) (hphi : 0 ≤ phi)
    (hphi' : phi ≤ 1) : quantile (.finite phi) (values.map Exact.finite) =
      .finite (polygon (corner sorted) (rank phi values.length)) := by
  have hpos : 0 < values.length := List.length_pos_iff.2 hne
  have hlength : sorted.length = values.length := hsorted.perm.length_eq
  have hascending : ascending (values.map Exact.finite) = sorted.map Exact.finite := by
    obtain ⟨sorted', hsorted', hascending⟩ := exists_arranges values
    rw [hascending, hsorted.unique hsorted']
  have hcorner (i : ℕ) : (sorted.map Exact.finite).getD (min i (lastPosition values.length)) nan =
      .finite (corner sorted i) := by
    have hlast := lastPosition_lt hpos
    have hlt : min i (lastPosition values.length) < sorted.length := by omega
    have hposition : lastPosition sorted.length = lastPosition values.length :=
      congrArg lastPosition hlength
    rw [List.getD_eq_getElem _ _ (by rwa [List.length_map]), List.getElem_map]
    unfold corner
    rw [hposition, List.getD_eq_getElem _ _ hlt]
  have hempty : ((values.map Exact.finite).isEmpty || isNaN (.finite phi : Exact)) = false := by
    simpa [isNaN] using hne
  have hbelow : lt (.finite phi : Exact) zero = false := decide_eq_false hphi.not_gt
  have habove : lt one (.finite phi : Exact) = false := decide_eq_false hphi'.not_gt
  have hone (w : ℚ) : (one - .finite w : Exact) = .finite (1 - w) := Exact.finite_sub
  unfold quantile
  simp only [hempty, hbelow, habove, Bool.false_eq_true, if_false, List.length_map, hascending,
    quantileRank_finite hpos hphi hphi', hcorner, hone, Exact.finite_mul, Exact.finite_add]
  rfl

/-- A curve on which the quantiles of some values lie, for all orders of the values. The positions
that are looked up are inside the sorted list. The curve rises between the extremes of the values
and passes the sorted values one by one. -/
structure QuantileCurve (values : List ℚ) (hne : values ≠ []) (q : ℚ → ℚ) : Prop where
  inside : ∀ phi ∈ Set.Icc (0 : ℚ) 1,
    (QuantileRank.of (.finite phi : Exact) values.length).lower < values.length ∧
      (QuantileRank.of (.finite phi : Exact) values.length).upper < values.length
  value : ∀ phi ∈ Set.Icc (0 : ℚ) 1, ∀ values' : List ℚ, values'.Perm values →
    quantile (.finite phi) (values'.map Exact.finite) = .finite (q phi)
  bounds : ∀ phi ∈ Set.Icc (0 : ℚ) 1, values.min hne ≤ q phi ∧ q phi ≤ values.max hne
  rising : MonotoneOn q (Set.Icc 0 1)
  order : ∀ sorted, Arranges sorted values → ∀ k (h : k < sorted.length), k ≤ 0xffffffffffffffff →
    q (k / (values.length - 1)) = sorted[k]

theorem rank_div {k count : ℕ} (h : k < count) : rank (k / (count - 1)) count = k := by
  unfold rank
  rcases Nat.eq_or_lt_of_le (Nat.one_le_of_lt h) with rfl | hone
  · obtain rfl : k = 0 := by omega
    simp
  · have hne : (count - 1 : ℚ) ≠ 0 := sub_ne_zero.2 (Nat.cast_ne_one.2 hone.ne')
    exact div_mul_cancel₀ _ hne

/-- The quantiles of exact values lie on a rising curve through the sorted values. -/
theorem quantile_curve (values : List ℚ) (hne : values ≠ []) :
    ∃ q, QuantileCurve values hne q := by
  obtain ⟨sorted, hsorted, -⟩ := exists_arranges values
  have hpos : 0 < values.length := List.length_pos_iff.2 hne
  have hlength : sorted.length = values.length := hsorted.perm.length_eq
  have hmem (i : ℕ) : corner sorted i ∈ values :=
    hsorted.perm.subset (corner_mem (List.ne_nil_of_length_pos (hlength ▸ hpos)) i)
  refine ⟨fun phi => polygon (corner sorted) (rank phi values.length), ?inside, ?value, ?bounds,
    ?rising, ?order⟩
  case inside =>
    rintro phi ⟨hphi, hphi'⟩
    have hlast := lastPosition_lt hpos
    rw [quantileRank_finite hpos hphi hphi']
    exact ⟨(min_le_right _ _).trans_lt hlast, (min_le_right _ _).trans_lt hlast⟩
  case value =>
    rintro phi ⟨hphi, hphi'⟩ values' hperm
    have hne' : values' ≠ [] := by
      rintro rfl
      exact hne hperm.nil_eq.symm
    have harranges : Arranges sorted values' := ⟨hsorted.perm.trans hperm.symm, hsorted.ascending⟩
    rw [quantile_eq_polygon hne' harranges hphi hphi', hperm.length_eq]
  case bounds =>
    rintro phi ⟨hphi, -⟩
    have hrank := rank_nonneg hpos hphi
    exact ⟨le_polygon hrank (List.min_le_of_mem (hmem _)) (List.min_le_of_mem (hmem _)),
      polygon_le hrank (List.le_max_of_mem (hmem _)) (List.le_max_of_mem (hmem _))⟩
  case rising =>
    rintro phi ⟨hphi, -⟩ phi' - hle
    have hrank : rank phi values.length ≤ rank phi' values.length :=
      mul_le_mul_of_nonneg_right hle (sub_nonneg.2 (Nat.one_le_cast.2 hpos))
    exact polygon_mono (corner_mono hsorted.ascending) (rank_nonneg hpos hphi) hrank
  case order =>
    intro sorted' hsorted' k hk hbits
    obtain rfl := hsorted'.unique hsorted
    have hlast : k ≤ lastPosition sorted'.length := by
      unfold lastPosition
      omega
    change polygon _ (rank _ _) = _
    rw [rank_div (hlength ▸ hk), polygon_natCast, corner_eq_getElem hlast hk]

/-- The four values have their quantiles on one curve, and a third of the way it passes the second
smallest. -/
theorem quantile_curve_one_to_four :
    ∃ q, QuantileCurve [3, 1, 4, 2] (by decide) q ∧ q (1 / 3) = 2 := by
  obtain ⟨q, hq⟩ := quantile_curve [3, 1, 4, 2] (by decide)
  have harranges : Arranges [1, 2, 3, 4] [3, 1, 4, 2] := ⟨by decide, by decide⟩
  have hsecond := hq.order _ harranges 1 (by decide) (by decide)
  norm_num at hsecond
  exact ⟨q, hq, hsecond⟩

end Statistics

end SeriesQuery
