import SeriesQuery.Proofs.Binary64.Rounding

/-!
# Finite numbers in double precision

Finite numbers are ordered by their values, and a sum, product or quotient has the magnitude to
which the exact one is rounded. So the difference of two different numbers is not zero, a quotient
that is at most one is finite, and no number is lost unless two zeros or two infinities meet.
-/

namespace SeriesQuery.Binary64

def value (x : Binary64) : ℚ := x.signedSignificand * 2 ^ x.exponent

section Values

variable {x y : Binary64}

theorem value_eq (x : Binary64) : x.value = if x.isNegative then -x.size else x.size := by
  unfold value signedSignificand size
  split
  · push_cast
    ring
  · push_cast
    ring

theorem abs_value (x : Binary64) : |x.value| = x.size := by
  rw [value_eq]
  split
  · rw [abs_neg, abs_of_nonneg x.size_nonneg]
  · exact abs_of_nonneg x.size_nonneg

theorem size_congr (h : x.magnitude = y.magnitude) : x.size = y.size := by
  unfold size significand exponent
  rw [h]

theorem value_neg (x : Binary64) : x.neg.value = -x.value := by
  rw [value_eq, value_eq, isNegative_neg, size_congr x.magnitude_neg]
  cases x.isNegative <;> simp

theorem value_eq_zero_iff : x.value = 0 ↔ x.magnitude = 0 := by
  rw [← abs_eq_zero, abs_value, size_eq_zero_iff]

/-- Finite numbers are ordered by their values. -/
theorem key_lt_iff (hx : x.Finite) (hy : y.Finite) : x.key < y.key ↔ x.value < y.value := by
  have hsize := x.size_nonneg
  have hsize' := y.size_nonneg
  rw [value_eq, value_eq]
  unfold key
  cases x.isNegative <;> cases y.isNegative <;>
    simp only [Bool.false_eq_true, if_true, if_false, neg_lt_neg_iff, Nat.cast_lt]
  · exact (size_lt_iff hx hy).symm
  · exact iff_of_false (by omega) (by linarith)
  · constructor <;> intro h <;> by_contra hle
    · have hx : x.magnitude = 0 := size_eq_zero_iff.1 (by linarith)
      have hy : y.magnitude = 0 := size_eq_zero_iff.1 (by linarith)
      omega
    · have hx : x.size = 0 := size_eq_zero_iff.2 (by omega)
      have hy : y.size = 0 := size_eq_zero_iff.2 (by omega)
      linarith
  · exact (size_lt_iff hy hx).symm

theorem key_le_iff (hx : x.Finite) (hy : y.Finite) : x.key ≤ y.key ↔ x.value ≤ y.value := by
  rw [← not_lt, key_lt_iff hy hx, not_lt]

theorem value_zero : zero.value = 0 := value_eq_zero_iff.2 (by decide)

theorem value_nonneg (hx : x.Finite) (h : 0 ≤ x.key) : 0 ≤ x.value := by
  rw [← value_zero, ← key_le_iff finite_zero hx]
  exact h

theorem key_eq_magnitude (h : 0 ≤ x.key) : x.key = x.magnitude := by
  unfold key at *
  split
  · next hsign =>
    rw [if_pos hsign] at h
    omega
  · rfl

theorem key_le_magnitude (x : Binary64) : x.key ≤ x.magnitude := by
  unfold key
  split <;> omega

theorem finite_of_key_le (hnonneg : 0 ≤ x.key) (hy : y.Finite) (hle : x.key ≤ y.key) :
    x.Finite := by
  have hmagnitude := key_eq_magnitude hnonneg
  have hbound := y.key_le_magnitude
  unfold Finite at *
  omega

theorem isZero_iff : x.isZero = true ↔ x.key = 0 := by
  unfold isZero key
  rw [decide_eq_true_eq]
  split <;> omega

/-- Both zeros equal zero and nothing else does. -/
theorem numeric_isZero (x : Binary64) : Numeric.eq x Numeric.zero = x.isZero := by
  have hzero : (Numeric.zero : Binary64) = zero := by decide
  have hkey : zero.key = 0 := by decide
  have hnan : zero.isNaN = false := by decide
  rw [hzero, Bool.eq_iff_iff, isZero_iff]
  change eq x zero = true ↔ _
  unfold eq
  rw [hkey, hnan, Bool.not_false, Bool.and_true, Bool.and_eq_true, decide_eq_true_eq,
    and_iff_right_iff_imp, Bool.not_eq_true']
  intro h
  have hmagnitude : x.magnitude = 0 := of_decide_eq_true (isZero_iff.2 h)
  rw [isNaN_eq_false_iff, hmagnitude]
  exact Nat.zero_le _

end Values

section Propagate

variable {x y : Binary64}

theorem isNaN_quiet (h : x.isNaN = true) : x.quiet.isNaN = true := by
  have hmagnitude : x.quiet.magnitude = x.magnitude ||| 0x8000000000000 := by
    unfold quiet magnitude
    rw [UInt64.toNat_or]
    exact Nat.or_mod_two_pow (n := 63)
  unfold isNaN at *
  rw [decide_eq_true_eq] at *
  rw [hmagnitude]
  exact h.trans_le Nat.left_le_or

theorem propagate_of_numbers (hx : x.isNaN = false) (hy : y.isNaN = false) (result : Binary64) :
    propagate x y result = result := by
  unfold propagate
  rw [hx, hy, if_neg Bool.false_ne_true, if_neg Bool.false_ne_true]

theorem isNaN_propagate_right (hx : x.isNaN = false) (hy : y.isNaN = true) (result : Binary64) :
    (propagate x y result).isNaN = true := by
  unfold propagate
  rw [hx, if_neg Bool.false_ne_true, if_pos hy]
  exact isNaN_quiet hy

end Propagate

section Sums

variable {x y : Binary64}

theorem two_pow_toNat_mul {e e' : ℤ} (h : e' ≤ e) : (2 : ℚ) ^ (e - e').toNat * 2 ^ e' = 2 ^ e := by
  rw [← zpow_natCast, Int.toNat_of_nonneg (sub_nonneg.2 h), ← zpow_add₀ two_ne_zero,
    sub_add_cancel]

theorem scaled_addFinite (x y : Binary64) :
    ((x.signedSignificand * Nat.pow 2 (x.exponent - min x.exponent y.exponent).toNat +
      y.signedSignificand * Nat.pow 2 (y.exponent - min x.exponent y.exponent).toNat : ℤ) : ℚ) *
        2 ^ min x.exponent y.exponent = x.value + y.value := by
  unfold value
  push_cast
  rw [add_mul, mul_assoc, mul_assoc]
  simp only [Nat.pow_eq, Nat.cast_pow, Nat.cast_ofNat]
  rw [two_pow_toNat_mul (min_le_left _ _), two_pow_toNat_mul (min_le_right _ _)]

theorem magnitude_ofScaled (negative : Bool) (n : ℕ) (e : ℤ) :
    (ofScaled negative n e).magnitude = rounded (n * 2 ^ e) := by
  have hpos : 0 < Nat.pow 2 (-e).toNat := Nat.pow_pos Nat.two_pos
  unfold ofScaled
  rw [magnitude_ofQuotient negative hpos]
  congr 1
  have hscaled := div_scaled n 1 (-e)
  simpa [neg_neg] using hscaled

theorem magnitude_addFinite (x y : Binary64) :
    (addFinite x y).magnitude = rounded |x.value + y.value| := by
  have hpow : (0 : ℚ) < 2 ^ min x.exponent y.exponent := zpow_pos two_pos _
  rw [← scaled_addFinite]
  unfold addFinite
  simp only
  generalize x.signedSignificand * _ + y.signedSignificand * _ = sum
  split
  · next h =>
    rw [h, magnitude_ofMagnitude (by decide), Int.cast_zero, zero_mul, abs_zero, rounded_zero]
  · rw [magnitude_ofScaled, abs_mul, abs_of_pos hpow, Nat.cast_natAbs, Int.cast_abs]

theorem add_of_finite (hx : x.Finite) (hy : y.Finite) : add x y = addFinite x y := by
  unfold add
  rw [propagate_of_numbers hx.isNaN hy.isNaN, hx.isInfinite, hy.isInfinite,
    if_neg Bool.false_ne_true, if_neg Bool.false_ne_true]

theorem sub_of_finite (hx : x.Finite) (hy : y.Finite) : sub x y = addFinite x y.neg := by
  unfold sub
  rw [propagate_of_numbers hx.isNaN hy.isNaN, add_of_finite hx hy.neg]

theorem magnitude_sub (hx : x.Finite) (hy : y.Finite) :
    (sub x y).magnitude = rounded |x.value - y.value| := by
  rw [sub_of_finite hx hy, magnitude_addFinite, value_neg, sub_eq_add_neg]

theorem isNaN_sub (hx : x.Finite) (hy : y.Finite) : (sub x y).isNaN = false := by
  rw [isNaN_eq_false_iff, magnitude_sub hx hy]
  exact rounded_le _

theorem magnitude_sub_zero (hx : x.Finite) : (sub x zero).magnitude = x.magnitude := by
  rw [magnitude_sub hx finite_zero, value_zero, sub_zero, abs_value, rounded_size hx]

theorem magnitude_sub_mono {z : Binary64} (hx : x.Finite) (hy : y.Finite) (hz : z.Finite)
    (hyx : y.value ≤ x.value) (hxz : x.value ≤ z.value) :
    (sub x y).magnitude ≤ (sub z y).magnitude := by
  rw [magnitude_sub hx hy, magnitude_sub hz hy]
  refine rounded_mono (abs_nonneg _) ?_
  rw [abs_of_nonneg (by linarith), abs_of_nonneg (by linarith)]
  linarith

theorem finite_sub (hx : x.Finite) (hy : y.Finite) (hnonneg : 0 ≤ y.value)
    (hle : y.value ≤ x.value) : (sub x y).Finite := by
  have hbound : |x.value - y.value| ≤ x.size := by
    rw [← abs_value x, abs_of_nonneg (by linarith), abs_of_nonneg (by linarith)]
    linarith
  unfold Finite
  rw [magnitude_sub hx hy]
  exact ((rounded_mono (abs_nonneg _) hbound).trans_eq (rounded_size hx)).trans_lt hx

theorem exists_multiple (x : Binary64) : ∃ n : ℤ, x.value = n * 2 ^ (-1074 : ℤ) := by
  have hexponent : -1074 ≤ x.exponent := by
    rcases x.grid_cases with ⟨h, -⟩ | ⟨h, -⟩ <;> omega
  refine ⟨x.signedSignificand * 2 ^ (x.exponent - -1074).toNat, ?_⟩
  rw [value, Int.cast_mul, Int.cast_pow, Int.cast_ofNat, mul_assoc, two_pow_toNat_mul hexponent]

theorem rounded_smallest : rounded (2 ^ (-1074 : ℤ)) = 1 := by
  have hsmallest : (ofMagnitude false 1).size = 2 ^ (-1074 : ℤ) := by
    have hsignificand : (ofMagnitude false 1).significand = 1 := by decide
    have hexponent : (ofMagnitude false 1).exponent = -1074 := by decide
    rw [size, hsignificand, hexponent, Nat.cast_one, one_mul]
  rw [← hsmallest, rounded_size (by decide)]
  decide

/-- The difference of different numbers is at least the smallest one. -/
theorem magnitude_sub_pos (hx : x.Finite) (hy : y.Finite) (hlt : y.value < x.value) :
    0 < (sub x y).magnitude := by
  have hpow : (0 : ℚ) < 2 ^ (-1074 : ℤ) := zpow_pos two_pos _
  obtain ⟨m, hm⟩ := x.exists_multiple
  obtain ⟨n, hn⟩ := y.exists_multiple
  have hmultiple : 1 ≤ m - n := by
    rw [hm, hn] at hlt
    have hmn : n < m := by exact_mod_cast lt_of_mul_lt_mul_right hlt hpow.le
    omega
  have hgap : (2 : ℚ) ^ (-1074 : ℤ) ≤ |x.value - y.value| := by
    rw [abs_of_pos (sub_pos.2 hlt), hm, hn, ← sub_mul]
    exact le_mul_of_one_le_left hpow.le (by exact_mod_cast hmultiple)
  rw [magnitude_sub hx hy]
  exact Nat.one_pos.trans_le (rounded_smallest.symm.trans_le (rounded_mono hpow.le hgap))

theorem isNaN_add (hx : x.Finite) : (add x y).isNaN = y.isNaN := by
  cases hnan : y.isNaN with
  | true => exact isNaN_propagate_right hx.isNaN hnan _
  | false =>
    cases hinfinite : y.isInfinite with
    | true =>
      unfold add
      rw [propagate_of_numbers hx.isNaN hnan, hx.isInfinite, if_neg Bool.false_ne_true,
        if_pos hinfinite, hnan]
    | false =>
      rw [add_of_finite hx (finite_of_not hnan hinfinite), isNaN_eq_false_iff, magnitude_addFinite]
      exact rounded_le _

end Sums

section Products

variable {x y : Binary64}

theorem mul_of_finite (hx : x.Finite) (hy : y.Finite) :
    mul x y = ofScaled (x.isNegative != y.isNegative) (x.significand * y.significand)
      (x.exponent + y.exponent) := by
  unfold mul
  rw [propagate_of_numbers hx.isNaN hy.isNaN, hx.isInfinite, hy.isInfinite, Bool.or_self,
    if_neg Bool.false_ne_true]

theorem isNaN_mul_of_finite (hx : x.Finite) (hy : y.Finite) : (mul x y).isNaN = false := by
  rw [mul_of_finite hx hy, isNaN_eq_false_iff, magnitude_ofScaled]
  exact rounded_le _

theorem isZero_of_isInfinite (h : x.isInfinite = true) : x.isZero = false := by
  unfold isZero
  rw [isInfinite_iff.1 h]
  decide

/-- A product with an infinity is lost if and only if the other factor is zero. -/
theorem isNaN_mul_finite_right (hx : x.isNaN = false) (hy : y.Finite) :
    (mul x y).isNaN = (x.isInfinite && y.isZero) := by
  cases hinfinite : x.isInfinite with
  | false => exact isNaN_mul_of_finite (finite_of_not hx hinfinite) hy
  | true =>
    unfold mul
    rw [propagate_of_numbers hx hy.isNaN, hinfinite, isZero_of_isInfinite hinfinite, Bool.true_or,
      if_pos rfl, Bool.false_or, Bool.true_and]
    cases y.isZero with
    | true =>
      rw [if_pos rfl]
      decide
    | false => cases x.isNegative != y.isNegative <;> decide

theorem isNaN_mul_right (hx : x.isNaN = false) (hy : y.isNaN = true) :
    (mul x y).isNaN = true := isNaN_propagate_right hx hy _

theorem key_mul_nonneg (hx : x.Finite) (hy : y.Finite) (hkey : 0 ≤ x.key) (hkey' : 0 ≤ y.key) :
    0 ≤ (mul x y).key := by
  -- a factor with a sign is a zero
  have hzero {z : Binary64} (h : 0 ≤ z.key) (hsign : z.isNegative = true) : z.significand = 0 := by
    unfold key at h
    rw [if_pos hsign] at h
    exact significand_eq_zero_iff.2 (by omega)
  have hmul := mul_of_finite hx hy
  have hmagnitude := congrArg magnitude hmul
  rw [magnitude_ofScaled] at hmagnitude
  cases hs : (mul x y).isNegative with
  | false =>
    unfold key
    rw [if_neg (by rw [hs]; exact Bool.false_ne_true)]
    exact Int.natCast_nonneg _
  | true =>
    rw [hmul, ofScaled, isNegative_ofQuotient, bne_iff_ne] at hs
    have hproduct : x.significand * y.significand = 0 := by
      cases hsx : x.isNegative with
      | true => rw [hzero hkey hsx, Nat.zero_mul]
      | false =>
        rw [hzero hkey' (by cases hsy : y.isNegative <;> simp_all), Nat.mul_zero]
    rw [hproduct, Nat.cast_zero, zero_mul, rounded_zero] at hmagnitude
    exact (isZero_iff.1 (decide_eq_true hmagnitude)).ge

theorem significand_pos (h : x.isZero = false) : 0 < x.significand := by
  refine Nat.pos_of_ne_zero fun hzero => ?_
  unfold isZero at h
  rw [decide_eq_false_iff_not] at h
  exact h (significand_eq_zero_iff.1 hzero)

theorem magnitude_div (hx : x.Finite) (hy : y.Finite) (hzero : y.isZero = false) :
    (div x y).magnitude = rounded (x.size / y.size) := by
  have hden : 0 < y.significand * Nat.pow 2 (-(x.exponent - y.exponent)).toNat :=
    scaled_pos (significand_pos hzero) _
  have hscaled := div_scaled x.significand y.significand (-(x.exponent - y.exponent))
  rw [neg_neg] at hscaled
  unfold div
  rw [propagate_of_numbers hx.isNaN hy.isNaN, hx.isInfinite, hy.isInfinite, hzero,
    if_neg Bool.false_ne_true, if_neg Bool.false_ne_true, if_neg Bool.false_ne_true,
    magnitude_ofQuotient _ hden, hscaled]
  congr 1
  unfold size
  rw [zpow_neg, zpow_sub₀ two_ne_zero]
  field_simp

theorem isNaN_div_zero (hx : x.isZero = true) (hy : y.isZero = true) :
    (div x y).isNaN = true := by
  have hfinite {z : Binary64} (h : z.isZero = true) : z.Finite := by
    unfold isZero at h
    unfold Finite
    rw [of_decide_eq_true h]
    decide
  unfold div
  rw [propagate_of_numbers (hfinite hx).isNaN (hfinite hy).isNaN, (hfinite hx).isInfinite,
    (hfinite hy).isInfinite, if_neg Bool.false_ne_true, if_neg Bool.false_ne_true, if_pos hy,
    if_pos hx]
  decide

theorem finite_div (hx : x.Finite) (hy : y.Finite) (hzero : y.isZero = false)
    (hle : x.magnitude ≤ y.magnitude) : (div x y).Finite := by
  have hone : rounded 1 < infinityMagnitude := by decide
  have hsize : x.size / y.size ≤ 1 :=
    div_le_one_of_le₀ (not_lt.1 (mt (size_lt_iff hy hx).1 hle.not_gt)) y.size_nonneg
  unfold Finite
  rw [magnitude_div hx hy hzero]
  exact (rounded_mono (div_nonneg x.size_nonneg y.size_nonneg) hsize).trans_lt hone

end Products

end SeriesQuery.Binary64
