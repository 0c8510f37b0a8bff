import Mathlib.Data.List.Forall2
import SeriesQuery.Proofs.Binary64.Infinity
import SeriesQuery.QueryResult

/-!
# Approximate equality

Values are approximately equal if they have one shape and their numbers are close in pairs. Close
numbers are both no numbers, or equal, or finite with a small difference. An infinite number is
moreover close to every number under a positive tolerance, because the tolerance is taken relative
to the larger number and is then infinite as well.
-/

namespace SeriesQuery

open Numeric

variable {α : Type}

namespace Value

def SamplesAlike (R : α → α → Prop) (a b : List (Sample α)) : Prop :=
  List.Forall₂ (fun x y => x.timestamp = y.timestamp ∧ R x.value y.value) a b

def SeriesAlike {ν : Type} (R : ν → ν → Prop) (a b : SeriesMap ν) : Prop :=
  List.Forall₂ (fun x y => x.1 = y.1 ∧ R x.2 y.2) a.toList b.toList

/-- Values of one kind and one shape with related numbers. -/
def Alike (R : α → α → Prop) : Value α → Value α → Prop
  | scalar a, scalar b => R a b
  | string a, string b => a = b
  | vector a, vector b => SeriesAlike R a b
  | matrix a, matrix b => SeriesAlike (SamplesAlike R) a b
  | _, _ => False

def contents : Value α → List α
  | scalar v => [v]
  | string _ => []
  | vector series => series.values
  | matrix series => series.values.flatMap (·.map Sample.value)

theorem all_zip_iff {β : Type} {p : β × β → Bool} {a b : List β} :
    (a.length == b.length && (a.zip b).all p) = true ↔
      List.Forall₂ (fun x y => p (x, y) = true) a b := by
  rw [Bool.and_eq_true, beq_iff_eq, List.all_eq_true, List.forall₂_iff_zip]
  exact and_congr_right fun _ => ⟨fun h _ _ hmem => h _ hmem, fun h _ hmem => h hmem⟩

theorem mono_of_mem {β : Type} {R S : β → β → Prop} {a b : List β} (h : List.Forall₂ R a b)
    (hmono : ∀ x ∈ a, ∀ y ∈ b, R x y → S x y) : List.Forall₂ S a b := by
  rw [List.forall₂_iff_zip] at h ⊢
  refine ⟨h.1, fun {x y} hmem => ?_⟩
  obtain ⟨hx, hy⟩ := List.of_mem_zip hmem
  exact hmono x hx y hy (h.2 hmem)

section Related

variable {related : α → α → Bool} {R : α → α → Prop}

theorem sameSamples_iff (h : ∀ x y, related x y = true ↔ R x y) {a b : List (Sample α)} :
    sameSamples related a b = true ↔ SamplesAlike R a b := by
  unfold sameSamples SamplesAlike
  rw [all_zip_iff]
  simp only [Bool.and_eq_true, beq_iff_eq, h]

theorem sameSeries_iff {ν : Type} {related : ν → ν → Bool} {R : ν → ν → Prop}
    (h : ∀ x y, related x y = true ↔ R x y) {a b : SeriesMap ν} :
    sameSeries related a b = true ↔ SeriesAlike R a b := by
  unfold sameSeries SeriesAlike SortedMap.size
  rw [all_zip_iff]
  simp only [Bool.and_eq_true, beq_iff_eq, h]

theorem related_iff (h : ∀ x y, related x y = true ↔ R x y) (a b : Value α) :
    a.related related b = true ↔ a.Alike R b := by
  cases a with
  | scalar x =>
    cases b with
    | scalar y => exact h x y
    | _ => exact iff_of_false nofun nofun
  | string s =>
    cases b with
    | string t => exact beq_iff_eq
    | _ => exact iff_of_false nofun nofun
  | vector series =>
    cases b with
    | vector series' => exact sameSeries_iff h
    | _ => exact iff_of_false nofun nofun
  | matrix series =>
    cases b with
    | matrix series' => exact sameSeries_iff (R := SamplesAlike R) fun _ _ => sameSamples_iff h
    | _ => exact iff_of_false nofun nofun

end Related

/-- The numbers in values of one shape are related in another way if each two of them are. -/
theorem Alike.mono_of_contents {R S : α → α → Prop} {a b : Value α} (h : a.Alike R b)
    (hmono : ∀ x ∈ a.contents, ∀ y ∈ b.contents, R x y → S x y) : a.Alike S b := by
  cases a with
  | scalar x =>
    cases b with
    | scalar y => exact hmono x (.head _) y (.head _) h
    | _ => exact h
  | string s =>
    cases b with
    | string t => exact h
    | _ => exact h
  | vector series =>
    cases b with
    | vector series' =>
      refine mono_of_mem h fun x hx y hy hxy => ⟨hxy.1, hmono _ ?_ _ ?_ hxy.2⟩
      · exact List.mem_map_of_mem hx
      · exact List.mem_map_of_mem hy
    | _ => exact h
  | matrix series =>
    cases b with
    | matrix series' =>
      refine mono_of_mem h fun x hx y hy hxy => ⟨hxy.1, mono_of_mem hxy.2 ?_⟩
      refine fun s hs t ht hst => ⟨hst.1, hmono _ ?_ _ ?_ hst.2⟩
      · exact List.mem_flatMap.2 ⟨x.2, List.mem_map_of_mem hx, List.mem_map_of_mem hs⟩
      · exact List.mem_flatMap.2 ⟨y.2, List.mem_map_of_mem hy, List.mem_map_of_mem ht⟩
    | _ => exact h

end Value

section Close

variable [Numeric α]

/-- No number with no number, equal numbers, or finite numbers that differ by no more than the
tolerance. -/
def Close (epsilon x y : α) : Prop :=
  (isNaN x = true ∧ isNaN y = true) ∨ eq x y = true ∨
    (isFinite x = true ∧ isFinite y = true ∧
      le (abs (x - y)) (epsilon * maximum (maximum (abs x) (abs y)) one) = true)

instance (epsilon x y : α) : Decidable (Close epsilon x y) :=
  inferInstanceAs (Decidable (_ ∨ _))

/-- Numbers of which one is infinite, under a positive tolerance. -/
def Blurred (epsilon x y : α) : Prop :=
  lt zero epsilon = true ∧ isNaN x = false ∧ isNaN y = false ∧
    (isInfinite x = true ∨ isInfinite y = true)

end Close

section Tolerance

variable {epsilon x y : Binary64}

theorem isFinite_iff : isFinite x = true ↔ isNaN x = false ∧ isInfinite x = false := by
  unfold isFinite
  rw [Bool.and_eq_true, Bool.not_eq_true', Bool.not_eq_true']

theorem isNaN_abs : isNaN (abs x) = isNaN x := by
  change x.abs.isNaN = x.isNaN
  unfold Binary64.isNaN
  rw [Binary64.magnitude_abs]

theorem abs_eq_infinity (h : isInfinite x = true) : abs x = Binary64.infinity :=
  Binary64.abs_of_isInfinite (Binary64.numeric_isInfinite x ▸ h)

theorem maximum_of_infinite (hx : isNaN x = false) (hy : isNaN y = false)
    (hinfinite : isInfinite x = true ∨ isInfinite y = true) :
    maximum (maximum (abs x) (abs y)) one = Binary64.infinity := by
  have hone : (one : Binary64).isNaN = false := by decide
  rcases hinfinite with h | h
  · rw [abs_eq_infinity h, Binary64.maximum_infinity_left (isNaN_abs.trans hy),
      Binary64.maximum_infinity_left hone]
  · rw [abs_eq_infinity h, Binary64.maximum_infinity_right (isNaN_abs.trans hx),
      Binary64.maximum_infinity_left hone]

theorem isZero_of_nonneg (h : le zero x = true) (hpos : lt zero x = false) : x.isZero = true := by
  have hkey : (zero : Binary64).key = 0 := by decide
  unfold le at h
  rw [hpos, Bool.false_or] at h
  change Binary64.eq _ _ = true at h
  unfold Binary64.eq at h
  rw [hkey] at h
  simp only [Bool.and_eq_true, decide_eq_true_eq] at h
  have hx : x.key = 0 := h.2.symm
  unfold Binary64.key at hx
  unfold Binary64.isZero
  rw [decide_eq_true_eq]
  split at hx <;> omega

theorem within_of_infinite (hnonneg : le zero epsilon = true) (hx : isNaN x = false)
    (hy : isNaN y = false) (hinfinite : isInfinite x = true ∨ isInfinite y = true)
    (hne : eq x y = false) :
    le (abs (x - y)) (epsilon * maximum (maximum (abs x) (abs y)) one) = lt zero epsilon := by
  have hsub : abs (x - y) = Binary64.infinity := by
    refine Binary64.abs_of_isInfinite (Binary64.isInfinite_sub hx hy ?_ hne)
    rwa [Binary64.numeric_isInfinite, Binary64.numeric_isInfinite] at hinfinite
  rw [hsub, maximum_of_infinite hx hy hinfinite]
  change le Binary64.infinity (epsilon.mul Binary64.infinity) = _
  cases hpos : lt zero epsilon with
  | true =>
    rw [Binary64.mul_infinity hpos]
    exact Binary64.le_infinity
  | false =>
    -- zero times the infinity is no number, and nothing is at most that
    have hzero : epsilon.isZero = true := isZero_of_nonneg hnonneg hpos
    have hnan : (epsilon.mul Binary64.infinity).isNaN = true := Binary64.isNaN_mul_infinity hzero
    unfold le
    change (Binary64.lt _ _ || Binary64.eq _ _) = false
    simp [Binary64.lt, Binary64.eq, hnan]

theorem isNaN_of_eq (h : eq x y = true) : isNaN x = false ∧ isNaN y = false := by
  change Binary64.eq x y = true at h
  unfold Binary64.eq at h
  simp only [Bool.and_eq_true, Bool.not_eq_true'] at h
  exact h.1

/-- Numbers are found close if they are, or if one of them is infinite. -/
theorem close_iff (hnonneg : le zero epsilon = true) :
    Value.close epsilon x y = true ↔ Close epsilon x y ∨ Blurred epsilon x y := by
  unfold Value.close Close Blurred
  by_cases hnan : isNaN x = true ∨ isNaN y = true
  · have heq : eq x y = false := by
      rw [Bool.eq_false_iff]
      intro h
      obtain ⟨hx, hy⟩ := isNaN_of_eq h
      simp [hx, hy] at hnan
    rcases hnan with h | h <;> simp [h, heq, isFinite_iff]
  · obtain ⟨hx, hy⟩ : isNaN x = false ∧ isNaN y = false := by simpa using hnan
    cases heq : eq x y with
    | true => simp [hx, hy]
    | false =>
      by_cases hinfinite : isInfinite x = true ∨ isInfinite y = true
      · rw [within_of_infinite hnonneg hx hy hinfinite heq]
        rcases hinfinite with h | h <;> simp [hx, hy, h, isFinite_iff]
      · obtain ⟨hx', hy'⟩ : isInfinite x = false ∧ isInfinite y = false := by simpa using hinfinite
        simp [hx, hy, hx', hy', isFinite_iff]

theorem approxEq_iff_alike (hnonneg : le zero epsilon = true) (a b : Value Binary64) :
    a.approxEq epsilon b = true ↔ a.Alike (fun x y => Close epsilon x y ∨ Blurred epsilon x y) b :=
  Value.related_iff (fun _ _ => close_iff hnonneg) a b

/-- Infinities aside, or without tolerance, values are found equal if their numbers are close. -/
theorem approxEq_iff_close (hnonneg : le zero epsilon = true) {a b : Value Binary64}
    (h : lt zero epsilon = false ∨ ∀ x ∈ a.contents ++ b.contents, isInfinite x = false) :
    a.approxEq epsilon b = true ↔ a.Alike (Close epsilon) b := by
  rw [approxEq_iff_alike hnonneg]
  constructor
  · intro halike
    refine halike.mono_of_contents fun x hx y hy hxy => hxy.resolve_right ?_
    rintro ⟨hpos, -, -, hinfinite⟩
    rcases h with hzero | hfinite
    · rw [hzero] at hpos
      cases hpos
    · rw [hfinite x (List.mem_append_left _ hx), hfinite y (List.mem_append_right _ hy)]
        at hinfinite
      rcases hinfinite with h | h <;> cases h
  · exact fun halike => halike.mono_of_contents fun _ _ _ _ => .inl

end Tolerance

theorem QueryResult.approxEq_iff [Numeric α] {epsilon : α} {r s : QueryResult α} :
    r.approxEq epsilon s = true ↔ r.frames = s.frames ∧
      List.Forall₂ (fun a b => a.approxEq epsilon b = true) r.steps.toList s.steps.toList := by
  unfold approxEq
  rw [Bool.and_eq_true, decide_eq_true_eq, List.all_eq_true, List.forall₂_iff_zip]
  refine and_congr_right fun hframes => ?_
  have hlen : r.steps.toList.length = s.steps.toList.length := by
    rw [Vector.length_toList, Vector.length_toList, hframes]
  exact ⟨fun h => ⟨hlen, fun {a b} hmem => h (a, b) hmem⟩, fun h x hmem => h.2 hmem⟩

/-- Under a tolerance that is not negative, values are approximately equal exactly if they have one
kind and shape, the same metrics and timestamps, and close numbers, except that an infinite number
also passes for close to any number once the tolerance is positive. -/
theorem approximate_equality {epsilon : Binary64} (hnonneg : le zero epsilon = true) :
    (∀ a b : Value Binary64,
      a.approxEq epsilon b = true ↔
        a.Alike (fun x y => Close epsilon x y ∨ Blurred epsilon x y) b) ∧
    (∀ a b : Value Binary64,
      (lt zero epsilon = false ∨ ∀ x ∈ a.contents ++ b.contents, isInfinite x = false) →
        (a.approxEq epsilon b = true ↔ a.Alike (Close epsilon) b)) ∧
    ∀ r s : QueryResult Binary64,
      r.approxEq epsilon s = true ↔ r.frames = s.frames ∧
        List.Forall₂ (Value.Alike fun x y => Close epsilon x y ∨ Blurred epsilon x y)
          r.steps.toList s.steps.toList := by
  refine ⟨approxEq_iff_alike hnonneg, fun a b h => approxEq_iff_close hnonneg h, fun r s => ?_⟩
  rw [QueryResult.approxEq_iff]
  simp only [approxEq_iff_alike hnonneg]

/-- One part in a thousand million. -/
def Binary64.billionth : Binary64 := .ofDecimal false 1 (-9)

theorem third_of_tenths_approximate :
    le zero Binary64.billionth = true ∧
      (Value.scalar (Binary64.ofDecimal false 1 (-1) + Binary64.ofDecimal false 2 (-1))).Alike
        (Close Binary64.billionth) (.scalar (Binary64.ofDecimal false 3 (-1))) := by
  have hnonneg : le zero Binary64.billionth = true := by decide +kernel
  obtain ⟨-, hclose, -⟩ := approximate_equality hnonneg
  exact ⟨hnonneg, (hclose _ _ (.inr (by decide +kernel))).1 (by decide +kernel)⟩

/-- The infinity passes for close to one, and to its negative. -/
theorem infinity_close_to_one :
    (Value.scalar Binary64.infinity).approxEq Binary64.billionth (.scalar one) = true ∧
    ¬(Value.scalar Binary64.infinity).Alike (Close Binary64.billionth) (.scalar one) ∧
    (Value.scalar Binary64.infinity).approxEq Binary64.billionth
      (.scalar (-Binary64.infinity)) = true ∧
    ¬(Value.scalar Binary64.infinity).Alike (Close Binary64.billionth)
      (.scalar (-Binary64.infinity)) := by
  refine ⟨by decide +kernel, ?_, by decide +kernel, ?_⟩
  · change ¬Close Binary64.billionth Binary64.infinity one
    decide +kernel
  · change ¬Close Binary64.billionth Binary64.infinity (-Binary64.infinity)
    decide +kernel

end SeriesQuery
