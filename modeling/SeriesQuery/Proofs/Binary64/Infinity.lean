import SeriesQuery.SampleValue

/-!
# Infinite numbers

What the arithmetic of double precision makes of an infinity. A difference with an infinity is
infinite unless both operands are the same infinity, and a multiple of the infinity is infinite
if the factor is positive and no number if it is zero.
-/

namespace SeriesQuery.Binary64

open Numeric (maximum)

theorem magnitude_lt (x : Binary64) : x.magnitude < signWeight := Nat.mod_lt _ (by decide)

theorem ext_magnitude {x y : Binary64} (hm : x.magnitude = y.magnitude)
    (hs : x.isNegative = y.isNegative) : x = y := by
  have hx := x.bits.toNat_lt
  have hy := y.bits.toNat_lt
  unfold isNegative at hs
  unfold magnitude at hm
  rw [decide_eq_decide] at hs
  unfold signWeight at hm hs
  have hbits : x.bits = y.bits := UInt64.toNat_inj.1 (by omega)
  exact congrArg Binary64.mk hbits

theorem toNat_abs (x : Binary64) : x.abs.bits.toNat = x.magnitude := by
  unfold abs magnitude signWeight
  rw [UInt64.toNat_and]
  exact Nat.and_two_pow_sub_one_eq_mod _ 63

@[simp] theorem magnitude_abs (x : Binary64) : x.abs.magnitude = x.magnitude := by
  have hmod : x.abs.bits.toNat % signWeight = x.magnitude := by
    rw [toNat_abs, Nat.mod_eq_of_lt x.magnitude_lt]
  exact hmod

@[simp] theorem isNegative_abs (x : Binary64) : x.abs.isNegative = false := by
  have h := x.magnitude_lt
  unfold isNegative
  rw [toNat_abs, decide_eq_false_iff_not]
  omega

@[simp] theorem magnitude_neg (x : Binary64) : x.neg.magnitude = x.magnitude := by
  unfold neg magnitude
  rw [UInt64.toNat_xor]
  have h := Nat.xor_mod_two_pow (a := x.bits.toNat) (b := 0x8000000000000000) (n := 63)
  simpa [signWeight] using h

@[simp] theorem isNegative_neg (x : Binary64) : x.neg.isNegative = !x.isNegative := by
  have hdiv : (x.bits.toNat ^^^ 0x8000000000000000) / 0x8000000000000000 =
      x.bits.toNat / 0x8000000000000000 ^^^ 1 := Nat.xor_div_two_pow (n := 63)
  have hlt := x.bits.toNat_lt
  have hbit : x.bits.toNat / 0x8000000000000000 = 0 ∨ x.bits.toNat / 0x8000000000000000 = 1 := by
    omega
  unfold neg isNegative
  rw [UInt64.toNat_xor, ← decide_not, decide_eq_decide]
  simp only [signWeight, UInt64.reduceToNat]
  rcases hbit with hbit | hbit <;> rw [hbit] at hdiv <;> simp at hdiv <;> omega

@[simp] theorem isNaN_infinity : infinity.isNaN = false := by decide

@[simp] theorem isInfinite_infinity : infinity.isInfinite = true := by decide

@[simp] theorem isZero_infinity : infinity.isZero = false := by decide

@[simp] theorem isNegative_infinity : infinity.isNegative = false := by decide

@[simp] theorem magnitude_infinity : infinity.magnitude = infinityMagnitude := by decide

theorem key_infinity : infinity.key = infinityMagnitude := by decide

theorem isInfinite_iff {x : Binary64} : x.isInfinite = true ↔ x.magnitude = infinityMagnitude :=
  decide_eq_true_iff

theorem key_le_infinity {x : Binary64} (h : x.isNaN = false) : x.key ≤ infinity.key := by
  unfold isNaN at h
  rw [decide_eq_false_iff_not] at h
  rw [key_infinity]
  unfold key
  split <;> omega

theorem abs_of_isInfinite {x : Binary64} (h : x.isInfinite = true) : x.abs = infinity :=
  ext_magnitude (by rw [magnitude_abs, isInfinite_iff.1 h, magnitude_infinity]) (by simp)

theorem numeric_isInfinite (x : Binary64) : Numeric.isInfinite x = x.isInfinite := by
  have hkey : (neg infinity).key = -(infinityMagnitude : Int) := by decide
  have hnan : (neg infinity).isNaN = false := by decide
  change (eq x infinity || eq x (neg infinity)) = _
  unfold eq
  rw [key_infinity, hkey, isNaN_infinity, hnan, Bool.eq_iff_iff, isInfinite_iff]
  unfold key isNaN
  simp only [Bool.or_eq_true, Bool.and_eq_true, Bool.not_eq_true', decide_eq_false_iff_not,
    decide_eq_true_eq, Bool.not_false, and_true]
  cases hs : x.isNegative with
  | true =>
    simp only [if_true, infinityMagnitude]
    omega
  | false =>
    simp only [Bool.false_eq_true, if_false, infinityMagnitude]
    omega

def Finite (x : Binary64) : Prop := x.magnitude < infinityMagnitude

section Finite

variable {x : Binary64}

theorem isNaN_eq_false_iff : x.isNaN = false ↔ x.magnitude ≤ infinityMagnitude := by
  unfold isNaN
  rw [decide_eq_false_iff_not, Nat.not_lt]

theorem Finite.isNaN (h : x.Finite) : x.isNaN = false := isNaN_eq_false_iff.2 (Nat.le_of_lt h)

theorem Finite.isInfinite (h : x.Finite) : x.isInfinite = false := decide_eq_false (Nat.ne_of_lt h)

theorem Finite.neg (h : x.Finite) : x.neg.Finite := by rwa [Finite, magnitude_neg]

theorem finite_of_not (hnan : x.isNaN = false) (hinfinite : x.isInfinite = false) : x.Finite :=
  Nat.lt_of_le_of_ne (isNaN_eq_false_iff.1 hnan) (of_decide_eq_false hinfinite)

theorem finite_zero : zero.Finite := by
  unfold Finite
  decide

theorem numeric_isFinite : Numeric.isFinite x = true ↔ x.Finite := by
  unfold Numeric.isFinite
  rw [numeric_isInfinite, Bool.and_eq_true, Bool.not_eq_true', Bool.not_eq_true']
  exact ⟨fun h => finite_of_not h.1 h.2, fun h => ⟨h.isNaN, h.isInfinite⟩⟩

end Finite

theorem maximum_infinity_left {x : Binary64} (h : x.isNaN = false) :
    maximum infinity x = infinity := by
  have hle := key_le_infinity h
  have hlt : lt infinity x = false := by
    unfold lt
    simp only [Bool.and_eq_false_iff, decide_eq_false_iff_not, Int.not_lt]
    exact .inr hle
  change (if infinity.isNaN || lt infinity x then x else infinity) = _
  rw [isNaN_infinity, hlt]
  rfl

theorem maximum_infinity_right {x : Binary64} (h : x.isNaN = false) :
    maximum x infinity = infinity := by
  change (if x.isNaN || lt x infinity then infinity else x) = _
  rw [h, Bool.false_or]
  split
  · rfl
  · next hlt =>
    have hkey : infinity.key ≤ x.key := by simpa [lt, h] using hlt
    have hmagnitude : x.magnitude ≤ infinityMagnitude := by simpa [isNaN] using h
    rw [key_infinity] at hkey
    unfold key at hkey
    cases hs : x.isNegative with
    | true =>
      simp only [hs, if_true, infinityMagnitude] at hkey
      omega
    | false =>
      simp only [hs, Bool.false_eq_true, if_false] at hkey
      exact ext_magnitude (by rw [magnitude_infinity]; omega) hs

theorem le_infinity : Numeric.le infinity infinity = true := by decide

theorem mul_infinity {x : Binary64} (h : lt zero x = true) : mul x infinity = infinity := by
  unfold lt at h
  simp only [Bool.and_eq_true, Bool.not_eq_true', decide_eq_true_eq] at h
  obtain ⟨⟨-, hnan⟩, hkey⟩ := h
  rw [show zero.key = 0 by decide] at hkey
  unfold key at hkey
  cases hs : x.isNegative with
  | true =>
    simp only [hs, if_true] at hkey
    omega
  | false =>
    have hzero : x.isZero = false := by
      simp only [hs, Bool.false_eq_true, if_false] at hkey
      unfold isZero
      rw [decide_eq_false_iff_not]
      omega
    simp [mul, propagate, hnan, hzero, hs]
    rfl

theorem isNaN_mul_infinity {x : Binary64} (h : x.isZero = true) :
    (mul x infinity).isNaN = true := by
  have hmagnitude : x.magnitude = 0 := by simpa [isZero] using h
  have hnan : x.isNaN = false := by
    unfold isNaN
    rw [hmagnitude]
    decide
  simp [mul, propagate, hnan, h]
  rfl

theorem isInfinite_sub {x y : Binary64} (hx : x.isNaN = false) (hy : y.isNaN = false)
    (hinfinite : x.isInfinite = true ∨ y.isInfinite = true) (hne : eq x y = false) :
    (sub x y).isInfinite = true := by
  have hnan : y.neg.isNaN = false := by rwa [isNaN, magnitude_neg, ← isNaN]
  have hneg : y.neg.isInfinite = y.isInfinite := by unfold isInfinite; rw [magnitude_neg]
  cases hxi : x.isInfinite with
  | false =>
    have hyi : y.isInfinite = true := hinfinite.resolve_left (by simp [hxi])
    simp [sub, add, propagate, hx, hy, hnan, hneg, hxi, hyi]
  | true =>
    cases hyi : y.isInfinite with
    | false => simp [sub, add, propagate, hx, hy, hnan, hneg, hxi, hyi]
    | true =>
      -- infinities that differ have different signs, so the difference adds up
      have hsign : x.isNegative ≠ y.isNegative := by
        intro hs
        obtain rfl : x = y :=
          ext_magnitude ((isInfinite_iff.1 hxi).trans (isInfinite_iff.1 hyi).symm) hs
        simp [eq, hx] at hne
      simp [sub, add, propagate, hx, hy, hnan, hneg, hxi, hyi, hsign]

end SeriesQuery.Binary64
