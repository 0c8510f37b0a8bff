import Mathlib.Data.Rat.Floor
import SeriesQuery.Proofs.Binary64.Operations

/-!
# Whole numbers in double precision

Every whole number up to the fifty-third power of two is a number of the format, so counting by
ones is exact up to there. The next number lies halfway between two of the format and is rounded
down, so a count stays there.
-/

namespace SeriesQuery.Binary64

/-- A significand of fifty-three bits has a number for every exponent of the format. -/
theorem exists_of_significand {m e : ℕ} (hlow : exponentWeight ≤ m) (hhigh : m < 2 * exponentWeight)
    (he : e ≤ 2045) : ∃ x : Binary64, x.Finite ∧ x.size = m * 2 ^ (e - 1074 : ℤ) := by
  let x := ofMagnitude false (e * exponentWeight + m)
  have hbound : e * exponentWeight ≤ 2045 * exponentWeight := Nat.mul_le_mul_right _ he
  have hweight : exponentWeight = 0x10000000000000 := rfl
  have hinfinite : infinityMagnitude = 2047 * exponentWeight := rfl
  have hsign : signWeight = 2048 * exponentWeight := rfl
  have hmagnitude : x.magnitude = e * exponentWeight + m := magnitude_ofMagnitude (by omega)
  have hdiv : x.magnitude / exponentWeight = e + 1 := by
    rw [hmagnitude]
    refine Nat.div_eq_of_lt_le ?_ ?_
    · rw [Nat.add_mul]
      omega
    · rw [Nat.add_mul, Nat.add_mul]
      omega
  have hrest := Nat.div_add_mod' x.magnitude exponentWeight
  rw [hdiv, hmagnitude, Nat.add_mul] at hrest
  have hsignificand : x.significand = m := by
    unfold significand
    rw [if_neg (by omega), hmagnitude]
    omega
  have hexponent : x.exponent = e - 1074 := by
    unfold exponent
    rw [if_neg (by omega), hdiv]
    omega
  refine ⟨x, ?_, ?_⟩
  · unfold Finite
    omega
  · rw [size, hsignificand, hexponent]

theorem exists_whole {k : ℕ} (h : k ≤ 2 ^ 53) : ∃ x : Binary64, x.Finite ∧ x.size = k := by
  rcases k.eq_zero_or_pos with rfl | hpos
  · exact ⟨zero, finite_zero, by rw [Nat.cast_zero, size_eq_zero_iff]; decide⟩
  rcases h.eq_or_lt with rfl | hlt
  · obtain ⟨x, hfinite, hsize⟩ := exists_of_significand (m := 2 ^ 52) (e := 1075) (by decide)
      (by decide) (by decide)
    refine ⟨x, hfinite, ?_⟩
    rw [hsize]
    norm_num
  · -- all bits up to the fifty-third are moved into the significand
    have hlow : 2 ^ k.log2 ≤ k := Nat.log2_self_le hpos.ne'
    have hhigh : k < 2 ^ (k.log2 + 1) := Nat.lt_log2_self
    have hlog : k.log2 < 53 := (Nat.log2_lt hpos.ne').2 hlt
    obtain ⟨shift, hshift⟩ : ∃ shift, k.log2 + shift = 52 := ⟨52 - k.log2, by omega⟩
    have hweight : exponentWeight = 2 ^ k.log2 * 2 ^ shift := by
      rw [← pow_add, hshift]
      rfl
    have hdouble : 2 * exponentWeight = 2 ^ (k.log2 + 1) * 2 ^ shift := by
      rw [hweight]
      ring
    obtain ⟨x, hfinite, hsize⟩ := exists_of_significand (m := k * 2 ^ shift) (e := k.log2 + 1022)
      (hweight.trans_le (Nat.mul_le_mul_right _ hlow))
      (hdouble ▸ Nat.mul_lt_mul_of_pos_right hhigh (Nat.two_pow_pos _)) (by omega)
    refine ⟨x, hfinite, ?_⟩
    have hexponent : ((k.log2 + 1022 : ℕ) - 1074 : ℤ) = -shift := by omega
    rw [hsize, hexponent, Nat.cast_mul, Nat.cast_pow, Nat.cast_ofNat, zpow_neg, zpow_natCast]
    exact mul_inv_cancel_right₀ (pow_ne_zero _ two_ne_zero) _

theorem magnitude_ofInt (k : ℕ) : (ofInt k).magnitude = rounded k := by
  unfold ofInt
  rw [magnitude_ofQuotient _ Nat.one_pos]
  simp

theorem isNegative_ofInt (k : ℕ) : (ofInt k).isNegative = false := by
  unfold ofInt
  rw [isNegative_ofQuotient]
  simp

section Whole

variable {k : ℕ}

theorem finite_ofInt (h : k ≤ 2 ^ 53) : (ofInt k).Finite := by
  obtain ⟨x, hfinite, hsize⟩ := exists_whole h
  unfold Finite
  rw [magnitude_ofInt, ← hsize, rounded_size hfinite]
  exact hfinite

theorem value_ofInt (h : k ≤ 2 ^ 53) : (ofInt k).value = k := by
  obtain ⟨x, hfinite, hsize⟩ := exists_whole h
  have hmagnitude : (ofInt k).magnitude = x.magnitude := by
    rw [magnitude_ofInt, ← hsize, rounded_size hfinite]
  rw [value_eq, isNegative_ofInt, if_neg Bool.false_ne_true, size_congr hmagnitude, hsize]

theorem isNegative_addFinite {x y : Binary64} (hx : x.isNegative = false)
    (hy : y.isNegative = false) : (addFinite x y).isNegative = false := by
  unfold addFinite signedSignificand
  simp only [hx, hy, Bool.false_eq_true, if_false]
  split
  · exact isNegative_ofMagnitude (by decide)
  · rw [ofScaled, isNegative_ofQuotient, decide_eq_false_iff_not, not_lt]
    positivity

theorem add_one (h : k ≤ 2 ^ 53) : add (ofInt k) (ofInt 1) = ofInt (k + 1 : ℕ) := by
  have hone : (ofInt (1 : ℕ)).Finite := finite_ofInt (by decide)
  have hsum : |(ofInt k).value + (ofInt (1 : ℕ)).value| = (k + 1 : ℕ) := by
    rw [value_ofInt h, value_ofInt (by decide), ← Nat.cast_add, Nat.abs_cast]
  change add (ofInt k) (ofInt (1 : ℕ)) = _
  rw [add_of_finite (finite_ofInt h) hone]
  apply ext_magnitude
  · rw [magnitude_addFinite, hsum, magnitude_ofInt]
  · rw [isNegative_addFinite (isNegative_ofInt k) (isNegative_ofInt 1), isNegative_ofInt]

end Whole

/-- What counting by ones arrives at. -/
def counted (n : ℕ) : Binary64 := ofInt (min n (2 ^ 53) : ℕ)

theorem counted_succ (n : ℕ) : add (counted n) (ofInt 1) = counted (n + 1) := by
  unfold counted
  rw [add_one (Nat.min_le_right _ _)]
  rcases Nat.lt_or_ge n (2 ^ 53) with hlt | hge
  · rw [Nat.min_eq_left hlt.le, Nat.min_eq_left hlt]
  · rw [Nat.min_eq_right hge, Nat.min_eq_right (Nat.le_succ_of_le hge)]
    decide

theorem value_counted {n : ℕ} (h : n ≤ 2 ^ 53) : (counted n).value = n := by
  unfold counted
  rw [Nat.min_eq_left h, value_ofInt h]

section Down

variable {x : Binary64}

theorem value_eq_div (x : Binary64) :
    x.value = ((x.signedSignificand * Nat.pow 2 x.exponent.toNat : ℤ) : ℚ) /
      (Nat.pow 2 (-x.exponent).toNat : ℕ) := by
  unfold value
  generalize x.exponent = e
  cases e with
  | ofNat k => simp
  | negSucc k => simp [Int.neg_negSucc, zpow_negSucc, div_eq_mul_inv]

theorem floorInt_eq (x : Binary64) : x.floorInt = ⌊x.value⌋ := by
  rw [value_eq_div, Rat.floor_intCast_div_natCast]
  rfl

theorem truncInt_of_whole {n : ℤ} (h : x.value = n) : x.truncInt = n := by
  have hpos : 0 < Nat.pow 2 (-x.exponent).toNat := Nat.two_pow_pos _
  have hden : ((Nat.pow 2 (-x.exponent).toNat : ℕ) : ℚ) ≠ 0 := Nat.cast_ne_zero.2 hpos.ne'
  rw [value_eq_div, div_eq_iff hden] at h
  norm_cast at h
  unfold truncInt
  rw [h]
  exact Int.mul_tdiv_cancel _ (Int.natCast_ne_zero.2 hpos.ne')

theorem abs_value_lt (h : x.exponent < 0) : |x.value| < 2 ^ 53 := by
  have hsignificand : x.significand < 2 ^ 53 := by
    have hweight : exponentWeight = 2 ^ 52 := rfl
    rcases x.grid_cases with ⟨-, hlt⟩ | ⟨-, -, hlt⟩
    · omega
    · omega
  rw [abs_value]
  unfold size
  have hscale : (2 : ℚ) ^ x.exponent ≤ 1 := zpow_le_one_of_nonpos₀ one_le_two h.le
  calc (x.significand : ℚ) * 2 ^ x.exponent ≤ x.significand * 1 :=
        mul_le_mul_of_nonneg_left hscale (Nat.cast_nonneg _)
    _ < 2 ^ 53 := by
        rw [mul_one]
        exact_mod_cast hsignificand

/-- Rounding down gives the greatest whole number that is at most a finite one. -/
theorem floor_of_finite (hx : x.Finite) : x.floor.Finite ∧ x.floor.value = ⌊x.value⌋ := by
  unfold floor
  rw [if_neg (Bool.eq_false_iff.1 hx.isNaN), hx.isInfinite, Bool.false_or]
  by_cases he : 0 ≤ x.exponent
  · rw [if_pos (decide_eq_true he)]
    have hden : (Nat.pow 2 (-x.exponent).toNat : ℕ) = 1 := by
      rw [Int.toNat_of_nonpos (Int.neg_nonpos_of_nonneg he)]
    refine ⟨hx, ?_⟩
    rw [value_eq_div, hden, Nat.cast_one, div_one, Int.floor_intCast]
  · rw [if_neg (by simpa using he), floorInt_eq]
    have hlt := abs_lt.1 (abs_value_lt (Int.not_le.1 he))
    have hlow : -2 ^ 53 ≤ ⌊x.value⌋ := Int.le_floor.2 (by push_cast; exact hlt.1.le)
    have hhigh : ⌊x.value⌋ < 2 ^ 53 := Int.floor_lt.2 (by push_cast; exact hlt.2)
    obtain ⟨y, hy, hsize⟩ := exists_whole (k := ⌊x.value⌋.natAbs) (by omega)
    have hmagnitude : (ofQuotient x.isNegative ⌊x.value⌋.natAbs 1).magnitude = y.magnitude := by
      rw [magnitude_ofQuotient _ Nat.one_pos, Nat.cast_one, div_one, ← hsize, rounded_size hy]
    refine ⟨by rwa [Finite, hmagnitude], ?_⟩
    rw [value_eq, isNegative_ofQuotient, size_congr hmagnitude, hsize]
    cases hsign : x.isNegative with
    | true =>
      have hvalue : x.value ≤ 0 := by
        rw [value_eq, hsign, if_pos rfl]
        exact neg_nonpos.2 x.size_nonneg
      have hfloor : ⌊x.value⌋ ≤ 0 := by
        have hle := Int.floor_mono hvalue
        rwa [Int.floor_zero] at hle
      rw [if_pos rfl, ← Int.cast_natCast, ← Int.cast_neg, Int.ofNat_natAbs_of_nonpos hfloor,
        Int.neg_neg]
    | false =>
      have hvalue : 0 ≤ x.value := by
        rw [value_eq, hsign, if_neg Bool.false_ne_true]
        exact x.size_nonneg
      rw [if_neg Bool.false_ne_true, ← Int.cast_natCast,
        Int.natAbs_of_nonneg (Int.floor_nonneg.2 hvalue)]

/-- The whole part of a finite number as an integer, if it lies between the bounds. -/
theorem clampToInt_floor (hx : x.Finite) {lo hi : ℤ} (hlo : lo ≤ ⌊x.value⌋) (hhi : ⌊x.value⌋ ≤ hi) :
    clampToInt lo hi x.floor = ⌊x.value⌋ := by
  obtain ⟨hfinite, hvalue⟩ := floor_of_finite hx
  unfold clampToInt
  rw [if_neg (Bool.eq_false_iff.1 hfinite.isNaN), if_neg (Bool.eq_false_iff.1 hfinite.isInfinite),
    truncInt_of_whole hvalue, min_eq_right hhi, max_eq_right hlo]

end Down

end SeriesQuery.Binary64
