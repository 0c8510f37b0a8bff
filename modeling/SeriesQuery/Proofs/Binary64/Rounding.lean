import Mathlib.Algebra.Order.Field.Power
import Mathlib.Data.Rat.Cast.Order
import Mathlib.Tactic.FieldSimp
import Mathlib.Tactic.Linarith
import Mathlib.Tactic.NormNum
import Mathlib.Tactic.Positivity
import Mathlib.Tactic.Ring
import SeriesQuery.Proofs.Binary64.Infinity

/-!
# Rounding to double precision

The magnitude of a rounded quotient depends on the value of the quotient alone. It does not fall
as the value grows, and the value of a finite number is rounded to that number, so rounding never
crosses a number of the format.
-/

namespace SeriesQuery

section RoundQuotient

variable {num den num' den' k : ℕ}

theorem lt_roundQuotient_iff (hden : 0 < den) : k < roundQuotient num den ↔
    (2 * k + 1) * den < 2 * num ∨ (2 * k + 1) * den = 2 * num ∧ k % 2 = 1 := by
  have hrest : num % den < den := Nat.mod_lt num hden
  have hnum : den * (num / den) + num % den = num := Nat.div_add_mod num den
  have hmul : (2 * k + 1) * den = 2 * (den * k) + den := by ring
  unfold roundQuotient
  simp only
  generalize num / den = below at *
  generalize num % den = rest at *
  rw [hmul]
  rcases Nat.lt_trichotomy k below with hk | rfl | hk
  · have hle : den * k + den ≤ den * below := by nlinarith
    split_ifs <;> omega
  · split_ifs <;> omega
  · have hle : den * below + den ≤ den * k := by nlinarith
    split_ifs <;> omega

/-- A quotient is rounded above an integer if it is past the middle behind it. -/
theorem lt_roundQuotient_iff_div (hden : 0 < den) : k < roundQuotient num den ↔
    (k + 1 / 2 : ℚ) < num / den ∨ (k + 1 / 2 : ℚ) = num / den ∧ k % 2 = 1 := by
  have hpos : (0 : ℚ) < den := Nat.cast_pos.2 hden
  rw [lt_roundQuotient_iff hden, lt_div_iff₀ hpos, eq_div_iff hpos.ne', ← Nat.cast_lt (α := ℚ),
    ← Nat.cast_inj (R := ℚ)]
  push_cast
  refine or_congr ?_ (and_congr_left' ?_)
  · constructor <;> intro h <;> linarith
  · constructor <;> intro h <;> linarith

theorem roundQuotient_mono (hden : 0 < den) (hden' : 0 < den')
    (h : (num : ℚ) / den ≤ num' / den') : roundQuotient num den ≤ roundQuotient num' den' := by
  refine le_of_forall_lt fun k hk => ?_
  rw [lt_roundQuotient_iff_div hden] at hk
  rw [lt_roundQuotient_iff_div hden']
  rcases hk with hlt | ⟨heq, hodd⟩
  · exact .inl (hlt.trans_le h)
  · rcases h.lt_or_eq with hlt | heq'
    · exact .inl (heq.trans_lt hlt)
    · exact .inr ⟨heq.trans heq', hodd⟩

theorem roundQuotient_eq_of_div (hden : 0 < den) (h : (num : ℚ) / den = k) :
    roundQuotient num den = k := by
  rw [div_eq_iff (Nat.cast_pos.2 hden).ne'] at h
  obtain rfl : num = k * den := by exact_mod_cast h
  unfold roundQuotient
  rw [Nat.mul_div_cancel k hden, Nat.mul_mod_left]
  exact if_pos hden

theorem roundQuotient_le (hden : 0 < den) (h : (num : ℚ) / den ≤ k) :
    roundQuotient num den ≤ k := by
  have hself : roundQuotient k 1 = k := roundQuotient_eq_of_div Nat.one_pos (by simp)
  exact (roundQuotient_mono hden Nat.one_pos (by simpa using h)).trans_eq hself

theorem le_roundQuotient (hden : 0 < den) (h : (k : ℚ) ≤ num / den) :
    k ≤ roundQuotient num den := by
  have hself : roundQuotient k 1 = k := roundQuotient_eq_of_div Nat.one_pos (by simp)
  exact hself.symm.trans_le (roundQuotient_mono Nat.one_pos hden (by simpa using h))

end RoundQuotient

section QuotientLog2

variable {num den : ℕ}

/-- A power of two is moved into a quotient. -/
theorem div_scaled (num den : ℕ) (e : ℤ) :
    ((num * Nat.pow 2 (-e).toNat : ℕ) : ℚ) / (den * Nat.pow 2 e.toNat : ℕ) =
      num / den / 2 ^ e := by
  rcases le_total 0 e with he | he
  · obtain ⟨n, rfl⟩ := Int.eq_ofNat_of_zero_le he
    simp [div_div]
  · obtain ⟨n, hn⟩ := Int.eq_ofNat_of_zero_le (neg_nonneg.2 he)
    obtain rfl : e = -n := by omega
    simp [mul_div_right_comm]

theorem zpow_le_div_iff (hden : 0 < den) (e : ℤ) : (2 : ℚ) ^ e ≤ num / den ↔
    den * Nat.pow 2 e.toNat ≤ num * Nat.pow 2 (-e).toNat := by
  have hpos : (0 : ℚ) < (den * Nat.pow 2 e.toNat : ℕ) :=
    Nat.cast_pos.2 (Nat.mul_pos hden (Nat.pow_pos Nat.two_pos))
  rw [← Nat.cast_le (α := ℚ), ← one_le_div hpos, div_scaled, one_le_div (zpow_pos two_pos e)]

theorem zpow_quotientLog2 (hnum : 0 < num) (hden : 0 < den) :
    (2 : ℚ) ^ quotientLog2 num den ≤ num / den ∧
      (num / den : ℚ) < 2 ^ (quotientLog2 num den + 1) := by
  have hpos : (0 : ℚ) < den := Nat.cast_pos.2 hden
  have hnumLow : (2 : ℚ) ^ (num.log2 : ℤ) ≤ num := by
    exact_mod_cast Nat.log2_self_le hnum.ne'
  have hnumHigh : (num : ℚ) < 2 ^ (num.log2 + 1 : ℤ) := by
    exact_mod_cast Nat.lt_log2_self
  have hdenLow : (2 : ℚ) ^ (den.log2 : ℤ) ≤ den := by
    exact_mod_cast Nat.log2_self_le hden.ne'
  have hdenHigh : (den : ℚ) < 2 ^ (den.log2 + 1 : ℤ) := by
    exact_mod_cast Nat.lt_log2_self
  -- the logarithms of both numbers leave two candidates
  have hlow : (2 : ℚ) ^ (num.log2 - den.log2 - 1 : ℤ) ≤ num / den := by
    rw [le_div_iff₀ hpos]
    calc (2 : ℚ) ^ (num.log2 - den.log2 - 1 : ℤ) * den
        ≤ 2 ^ (num.log2 - den.log2 - 1 : ℤ) * 2 ^ (den.log2 + 1 : ℤ) := by gcongr
      _ = 2 ^ (num.log2 : ℤ) := by rw [← zpow_add₀ two_ne_zero]; congr 1; ring
      _ ≤ num := hnumLow
  have hhigh : (num / den : ℚ) < 2 ^ (num.log2 - den.log2 + 1 : ℤ) := by
    rw [div_lt_iff₀ hpos]
    calc (num : ℚ) < 2 ^ (num.log2 + 1 : ℤ) := hnumHigh
      _ = 2 ^ (num.log2 - den.log2 + 1 : ℤ) * 2 ^ (den.log2 : ℤ) := by
        rw [← zpow_add₀ two_ne_zero]; congr 1; ring
      _ ≤ 2 ^ (num.log2 - den.log2 + 1 : ℤ) * den := by gcongr
  have hcompare : _ ↔ den * _ ≤ num * _ := zpow_le_div_iff hden (num.log2 - den.log2 : ℤ)
  unfold quotientLog2
  simp only
  split
  · next h => exact ⟨hcompare.2 h, hhigh⟩
  · next h =>
    rw [sub_add_cancel]
    exact ⟨hlow, not_le.1 (mt hcompare.1 h)⟩

theorem quotientLog2_mono {num' den' : ℕ} (hnum : 0 < num) (hden : 0 < den) (hnum' : 0 < num')
    (hden' : 0 < den') (h : (num : ℚ) / den ≤ num' / den') :
    quotientLog2 num den ≤ quotientLog2 num' den' := by
  have hlt := ((zpow_quotientLog2 hnum hden).1.trans h).trans_lt (zpow_quotientLog2 hnum' hden').2
  have hexponent := (zpow_lt_zpow_iff_right₀ one_lt_two).1 hlt
  omega

theorem quotientLog2_eq (hnum : 0 < num) (hden : 0 < den) {e : ℤ} (hlow : (2 : ℚ) ^ e ≤ num / den)
    (hhigh : (num / den : ℚ) < 2 ^ (e + 1)) : quotientLog2 num den = e := by
  obtain ⟨hlow', hhigh'⟩ := zpow_quotientLog2 hnum hden
  have hle := (zpow_lt_zpow_iff_right₀ one_lt_two).1 (hlow.trans_lt hhigh')
  have hge := (zpow_lt_zpow_iff_right₀ one_lt_two).1 (hlow'.trans_lt hhigh)
  omega

end QuotientLog2

namespace Binary64

theorem magnitude_ofMagnitude {negative : Bool} {m : ℕ} (h : m < signWeight) :
    (ofMagnitude negative m).magnitude = m := by
  unfold ofMagnitude magnitude
  unfold signWeight at *
  rw [UInt64.toNat_ofNat']
  split <;> omega

theorem isNegative_ofMagnitude {negative : Bool} {m : ℕ} (h : m < signWeight) :
    (ofMagnitude negative m).isNegative = negative := by
  unfold ofMagnitude isNegative
  unfold signWeight at *
  rw [UInt64.toNat_ofNat']
  cases negative <;> simp <;> omega

/-- The exponent of the numbers between which a quotient lies. -/
def gridExponent (num den : ℕ) : ℤ := max (quotientLog2 num den - 52) (-1074)

def gridPoint (num den : ℕ) : ℕ :=
  roundQuotient (num * Nat.pow 2 (-gridExponent num den).toNat)
    (den * Nat.pow 2 (gridExponent num den).toNat)

theorem ofQuotient_eq (negative : Bool) {num : ℕ} (den : ℕ) (h : 0 < num) :
    ofQuotient negative num den = ofMagnitude negative
      (min ((gridExponent num den + 1074).toNat * exponentWeight + gridPoint num den)
        infinityMagnitude) := if_neg h.ne'

section Quotient

variable {num den num' den' : ℕ}

theorem scaled_pos (hden : 0 < den) (e : ℤ) : 0 < den * Nat.pow 2 e.toNat :=
  Nat.mul_pos hden (Nat.pow_pos Nat.two_pos)

theorem gridPoint_le (hnum : 0 < num) (hden : 0 < den) :
    gridPoint num den ≤ 2 * exponentWeight := by
  refine roundQuotient_le (scaled_pos hden _) ?_
  have hexponent : quotientLog2 num den + 1 ≤ 53 + gridExponent num den := by
    unfold gridExponent
    omega
  have hlt := (zpow_quotientLog2 hnum hden).2
  rw [div_scaled, div_le_iff₀ (zpow_pos two_pos _)]
  calc (num / den : ℚ) ≤ 2 ^ (quotientLog2 num den + 1) := hlt.le
    _ ≤ 2 ^ (53 + gridExponent num den) := zpow_le_zpow_right₀ one_le_two hexponent
    _ = (2 * exponentWeight : ℕ) * 2 ^ gridExponent num den := by
      rw [zpow_add₀ two_ne_zero]
      norm_num [exponentWeight]

theorem le_gridPoint (hnum : 0 < num) (hden : 0 < den) (h : -1074 < gridExponent num den) :
    exponentWeight ≤ gridPoint num den := by
  refine le_roundQuotient (scaled_pos hden _) ?_
  have hexponent : quotientLog2 num den = 52 + gridExponent num den := by
    unfold gridExponent at *
    omega
  have hle := (zpow_quotientLog2 hnum hden).1
  rw [div_scaled, le_div_iff₀ (zpow_pos two_pos _)]
  calc (exponentWeight : ℚ) * 2 ^ gridExponent num den
      = 2 ^ (52 + gridExponent num den) := by
        rw [zpow_add₀ two_ne_zero]
        norm_num [exponentWeight]
    _ ≤ num / den := hexponent ▸ hle

/-- On one grid the larger quotient has the larger multiple. On a coarser grid it is past all
multiples of the finer one. -/
theorem grid_mono (hnum : 0 < num) (hden : 0 < den) (hnum' : 0 < num') (hden' : 0 < den')
    (h : (num : ℚ) / den ≤ num' / den') :
    (gridExponent num den + 1074).toNat * exponentWeight + gridPoint num den ≤
      (gridExponent num' den' + 1074).toNat * exponentWeight + gridPoint num' den' := by
  have hlog := quotientLog2_mono hnum hden hnum' hden' h
  have hexponent : gridExponent num den ≤ gridExponent num' den' := by
    unfold gridExponent
    omega
  rcases hexponent.eq_or_lt with heq | hlt
  · have hpoint : gridPoint num den ≤ gridPoint num' den' := by
      unfold gridPoint
      refine roundQuotient_mono (scaled_pos hden _) (scaled_pos hden' _) ?_
      rw [div_scaled, div_scaled, heq]
      exact div_le_div_of_nonneg_right h (zpow_pos two_pos _).le
    rw [heq]
    exact Nat.add_le_add_left hpoint _
  · have hlow : -1074 ≤ gridExponent num den := le_max_right _ _
    have hpoint := gridPoint_le hnum hden
    have hpoint' := le_gridPoint hnum' hden' (hlow.trans_lt hlt)
    have hstep : (gridExponent num den + 1074).toNat + 1 ≤
        (gridExponent num' den' + 1074).toNat := by omega
    have hweight := Nat.mul_le_mul_right exponentWeight hstep
    rw [Nat.add_mul] at hweight
    omega

@[simp] theorem magnitude_ofQuotient_zero (negative : Bool) (den : ℕ) :
    (ofQuotient negative 0 den).magnitude = 0 := by
  unfold ofQuotient
  rw [if_pos rfl, magnitude_ofMagnitude (by decide)]

theorem magnitude_ofQuotient_eq (negative : Bool) (hnum : 0 < num) :
    (ofQuotient negative num den).magnitude =
      min ((gridExponent num den + 1074).toNat * exponentWeight + gridPoint num den)
        infinityMagnitude := by
  have hlt : infinityMagnitude < signWeight := by decide
  rw [ofQuotient_eq negative den hnum,
    magnitude_ofMagnitude ((Nat.min_le_right _ _).trans_lt hlt)]

theorem magnitude_ofQuotient_le (negative : Bool) (num den : ℕ) :
    (ofQuotient negative num den).magnitude ≤ infinityMagnitude := by
  rcases num.eq_zero_or_pos with rfl | hnum
  · rw [magnitude_ofQuotient_zero]
    exact Nat.zero_le _
  · rw [magnitude_ofQuotient_eq negative hnum]
    exact Nat.min_le_right _ _

theorem isNegative_ofQuotient (negative : Bool) (num den : ℕ) :
    (ofQuotient negative num den).isNegative = negative := by
  rcases num.eq_zero_or_pos with rfl | hnum
  · cases negative <;> rfl
  · have hlt : infinityMagnitude < signWeight := by decide
    rw [ofQuotient_eq negative den hnum,
      isNegative_ofMagnitude ((Nat.min_le_right _ _).trans_lt hlt)]

theorem magnitude_ofQuotient_mono (negative negative' : Bool) (hden : 0 < den) (hden' : 0 < den')
    (h : (num : ℚ) / den ≤ num' / den') :
    (ofQuotient negative num den).magnitude ≤ (ofQuotient negative' num' den').magnitude := by
  rcases num.eq_zero_or_pos with rfl | hnum
  · rw [magnitude_ofQuotient_zero]
    exact Nat.zero_le _
  · have hpos : (0 : ℚ) < num / den := by positivity
    have hnum' : 0 < num' := by
      rcases num'.eq_zero_or_pos with rfl | hnum'
      · rw [Nat.cast_zero, zero_div] at h
        exact absurd h (not_le.2 hpos)
      · exact hnum'
    rw [magnitude_ofQuotient_eq negative hnum, magnitude_ofQuotient_eq negative' hnum']
    exact min_le_min_right _ (grid_mono hnum hden hnum' hden' h)

end Quotient

/-- The magnitude of the number nearest to a fraction that is not negative. -/
def rounded (r : ℚ) : ℕ := (ofQuotient false r.num.natAbs r.den).magnitude

theorem magnitude_ofQuotient (negative : Bool) {num den : ℕ} (hden : 0 < den) :
    (ofQuotient negative num den).magnitude = rounded (num / den) := by
  have hself : (((num / den : ℚ).num.natAbs : ℕ) : ℚ) / (num / den : ℚ).den = num / den := by
    have hnonneg : 0 ≤ (num / den : ℚ).num := Rat.num_nonneg.2 (by positivity)
    conv_rhs => rw [← Rat.num_div_den (num / den : ℚ)]
    rw [Nat.cast_natAbs, abs_of_nonneg hnonneg]
  have hpos : 0 < (num / den : ℚ).den := Rat.den_pos _
  exact le_antisymm (magnitude_ofQuotient_mono _ _ hden hpos hself.ge)
    (magnitude_ofQuotient_mono _ _ hpos hden hself.le)

theorem rounded_le (r : ℚ) : rounded r ≤ infinityMagnitude := magnitude_ofQuotient_le ..

theorem rounded_mono {r r' : ℚ} (hr : 0 ≤ r) (h : r ≤ r') : rounded r ≤ rounded r' := by
  have hself {r : ℚ} (hr : 0 ≤ r) : ((r.num.natAbs : ℕ) : ℚ) / r.den = r := by
    rw [Nat.cast_natAbs, abs_of_nonneg (Rat.num_nonneg.2 hr), Rat.num_div_den]
  refine magnitude_ofQuotient_mono _ _ r.den_pos r'.den_pos ?_
  rwa [hself hr, hself (hr.trans h)]

@[simp] theorem rounded_zero : rounded 0 = 0 := rfl

def size (x : Binary64) : ℚ := x.significand * 2 ^ x.exponent

section Size

variable {x y : Binary64}

theorem size_nonneg (x : Binary64) : 0 ≤ x.size := by
  unfold size
  positivity

theorem magnitude_eq_grid (x : Binary64) :
    x.magnitude = (x.exponent + 1074).toNat * exponentWeight + x.significand := by
  have hdiv := Nat.div_add_mod' x.magnitude exponentWeight
  unfold exponent significand
  split
  · simp
  · next h =>
    obtain ⟨n, hn⟩ := Nat.exists_eq_succ_of_ne_zero h
    have hexponent : (((n.succ : ℕ) : ℤ) - 1075 + 1074).toNat = n := by omega
    rw [hn] at hdiv ⊢
    rw [hexponent]
    rw [Nat.succ_mul] at hdiv
    omega

theorem grid_cases (x : Binary64) : x.exponent = -1074 ∧ x.significand < exponentWeight ∨
    -1074 ≤ x.exponent ∧ exponentWeight ≤ x.significand ∧
      x.significand < 2 * exponentWeight := by
  have hweight : 0 < exponentWeight := by decide
  have hrest : x.magnitude % exponentWeight < exponentWeight := Nat.mod_lt _ hweight
  unfold exponent significand
  split
  · next h => exact .inl ⟨rfl, (Nat.div_eq_zero_iff_lt hweight).1 h⟩
  · next h =>
    have hpos : 0 < x.magnitude / exponentWeight := Nat.pos_of_ne_zero h
    generalize x.magnitude / exponentWeight = n at *
    exact .inr ⟨by omega, by omega, by omega⟩

theorem significand_eq_zero_iff : x.significand = 0 ↔ x.magnitude = 0 := by
  have hweight : 0 < exponentWeight := by decide
  have hgrid := x.magnitude_eq_grid
  rcases x.grid_cases with ⟨hexponent, -⟩ | ⟨-, hlarge, -⟩
  · rw [hexponent] at hgrid
    simp only [Int.reduceNeg, Int.reduceAdd, Int.toNat_zero, Nat.zero_mul, Nat.zero_add] at hgrid
    rw [hgrid]
  · omega

theorem size_eq_zero_iff : x.size = 0 ↔ x.magnitude = 0 := by
  have hpow : (2 : ℚ) ^ x.exponent ≠ 0 := (zpow_pos two_pos _).ne'
  unfold size
  rw [mul_eq_zero, or_iff_left hpow, Nat.cast_eq_zero, significand_eq_zero_iff]

theorem gridExponent_of_size {num den : ℕ} (hnum : 0 < num) (hden : 0 < den)
    (h : (num / den : ℚ) = x.size) : gridExponent num den = x.exponent := by
  have hpow : (0 : ℚ) < 2 ^ x.exponent := zpow_pos two_pos _
  have hbound {k : ℕ} (hk : x.significand < 2 ^ k) : (num / den : ℚ) < 2 ^ (k + x.exponent) := by
    rw [h, size, zpow_add₀ two_ne_zero, zpow_natCast]
    exact mul_lt_mul_of_pos_right (by exact_mod_cast hk) hpow
  unfold gridExponent
  rcases x.grid_cases with ⟨hexponent, hsmall⟩ | ⟨hexponent, hlarge, hbelow⟩
  · have hlog := (zpow_quotientLog2 hnum hden).1.trans_lt (hbound (k := 52) hsmall)
    have hlt := (zpow_lt_zpow_iff_right₀ one_lt_two).1 hlog
    rw [hexponent] at hlt ⊢
    push_cast at hlt
    omega
  · have hlow : (2 : ℚ) ^ (52 + x.exponent) ≤ num / den := by
      rw [h, size, zpow_add₀ two_ne_zero]
      exact mul_le_mul_of_nonneg_right (by exact_mod_cast hlarge) hpow.le
    have hhigh : (num / den : ℚ) < 2 ^ (52 + x.exponent + 1) := by
      have hsum : 52 + x.exponent + 1 = (53 : ℕ) + x.exponent := by omega
      rw [hsum]
      exact hbound hbelow
    rw [quotientLog2_eq hnum hden hlow hhigh]
    omega

theorem magnitude_ofQuotient_of_size (negative : Bool) {num den : ℕ} (hden : 0 < den)
    (hfinite : x.magnitude < infinityMagnitude) (h : (num / den : ℚ) = x.size) :
    (ofQuotient negative num den).magnitude = x.magnitude := by
  rcases num.eq_zero_or_pos with rfl | hnum
  · rw [Nat.cast_zero, zero_div] at h
    rw [magnitude_ofQuotient_zero, size_eq_zero_iff.1 h.symm]
  · have hexponent := gridExponent_of_size hnum hden h
    have hpoint : gridPoint num den = x.significand := by
      unfold gridPoint
      refine roundQuotient_eq_of_div (scaled_pos hden _) ?_
      rw [div_scaled, h, hexponent, size, mul_div_cancel_right₀ _ (zpow_pos two_pos _).ne']
    rw [magnitude_ofQuotient_eq negative hnum, hexponent, hpoint, ← magnitude_eq_grid]
    exact Nat.min_eq_left hfinite.le

theorem rounded_size (h : x.magnitude < infinityMagnitude) : rounded x.size = x.magnitude := by
  refine magnitude_ofQuotient_of_size false (Rat.den_pos _) h ?_
  rw [Nat.cast_natAbs, abs_of_nonneg (Rat.num_nonneg.2 x.size_nonneg), Rat.num_div_den]

theorem size_lt_iff (hx : x.magnitude < infinityMagnitude) (hy : y.magnitude < infinityMagnitude) :
    x.size < y.size ↔ x.magnitude < y.magnitude := by
  have hmono {x y : Binary64} (hx : x.magnitude < infinityMagnitude)
      (hy : y.magnitude < infinityMagnitude) (h : x.size ≤ y.size) :
      x.magnitude ≤ y.magnitude := by
    rw [← rounded_size hx, ← rounded_size hy]
    exact rounded_mono x.size_nonneg h
  constructor
  · intro h
    refine (hmono hx hy h.le).lt_of_ne fun heq => ?_
    have hsize : x.size = y.size := by
      unfold size significand exponent
      rw [heq]
    exact h.ne hsize
  · intro h
    exact not_le.1 fun hle => not_le.2 h (hmono hy hx hle)

end Size

end Binary64

end SeriesQuery
