import Mathlib.Algebra.Order.Floor.Semifield
import Mathlib.Data.Rat.Floor
import SeriesQuery.Proofs.Aggregation
import SeriesQuery.Proofs.Binary64.Operations
import SeriesQuery.Proofs.NumericOrder

/-!
# Selecting the first values

The order in which values are selected is that of a rank, and sorting keeps values of one rank in
the order of their positions. So the values that are selected are the first ones of a strict order,
and there are as many as the whole part of the parameter says.
-/

namespace SeriesQuery

open Numeric

section Stable

variable {α : Type} {le : α → α → Bool} {Earlier : α → α → Prop}

theorem pairwise_mergeSort_stable
    (trans : ∀ a b c, le a b = true → le b c = true → le a c = true)
    (total : ∀ a b, (le a b || le b a) = true) {l : List α} (h : l.Pairwise Earlier) :
    (l.mergeSort le).Pairwise fun a b => le a b = true ∧ (le b a = true → Earlier a b) := by
  induction l with
  | nil => simp
  | cons a l ih =>
    obtain ⟨hfirst, hrest⟩ := List.pairwise_cons.1 h
    -- the first element goes before all that are not strictly less
    obtain ⟨l₁, l₂, hsorted, hsorted', hless⟩ := List.mergeSort_cons trans total a l
    have hle := List.pairwise_mergeSort trans total (a :: l)
    have hl₂ : ∀ b ∈ l₂, b ∈ l := by
      intro b hb
      have hmem : b ∈ l.mergeSort le := by
        rw [hsorted']
        exact List.mem_append_right _ hb
      exact List.mem_mergeSort.1 hmem
    replace ih := ih hrest
    rw [hsorted'] at ih
    rw [hsorted] at hle ⊢
    rw [List.pairwise_append] at ih hle ⊢
    obtain ⟨ih₁, ih₂, ih₁₂⟩ := ih
    obtain ⟨-, hle₂, -⟩ := hle
    refine ⟨ih₁, List.pairwise_cons.2 ⟨fun b hb => ?_, ih₂⟩, fun b hb c hc => ?_⟩
    · exact ⟨List.rel_of_pairwise_cons hle₂ hb, fun _ => hfirst b (hl₂ b hb)⟩
    · rcases List.mem_cons.1 hc with rfl | hc
      · have hnot : le c b = false := by simpa using hless b hb
        have hle : le b c = true := by simpa [hnot] using total c b
        exact ⟨hle, fun h => absurd h (by simp [hnot])⟩
      · exact ih₁₂ b hb c hc

end Stable

namespace Binary64

/-- The rank of a value: that of a NaN is behind those of the numbers, which come by their total
order or, if the largest come first, by its converse. -/
def rank (largest : Bool) (x : Binary64) : Bool ×ₗ ℤ :=
  if x.isNaN then toLex (true, 0)
  else toLex (false, if largest then -x.totalKey else x.totalKey)

theorem isLE_selectionOrder (largest : Bool) (x y : Binary64) :
    (Statistics.selectionOrder largest x y).isLE = true ↔ x.rank largest ≤ y.rank largest := by
  have hcompare (a b : Binary64) : (Numeric.totalCompare a b).isLE = true ↔
      a.totalKey ≤ b.totalKey := isLE_totalCompare a b
  have hx : Numeric.isNaN x = x.isNaN := rfl
  have hy : Numeric.isNaN y = y.isNaN := rfl
  unfold Statistics.selectionOrder rank
  rw [hx, hy]
  cases x.isNaN <;> cases y.isNaN <;> cases largest <;>
    simp [Prod.Lex.toLex_le_toLex, hcompare]

/-- Truncation takes the whole part of a number that is not negative. -/
theorem truncInt_eq_floor {x : Binary64} (h : x.isNegative = false) :
    x.truncInt = (⌊x.value⌋₊ : ℤ) := by
  have hvalue : x.value = ((x.significand * Nat.pow 2 x.exponent.toNat : ℕ) : ℚ) /
      (Nat.pow 2 (-x.exponent).toNat : ℕ) := by
    have hscaled := div_scaled x.significand 1 (-x.exponent)
    rw [neg_neg, Nat.one_mul] at hscaled
    rw [hscaled, value_eq, h]
    simp [size]
  rw [hvalue, Nat.floor_div_eq_div]
  unfold truncInt signedSignificand
  rw [h]
  exact (Int.ofNat_tdiv _ _).symm

theorem key_pos_of_one_le {k : Binary64} (hnan : k.isNaN = false) (hone : lt k one = false) :
    0 < k.key := by
  have hkey : ¬ k.key < (one : Binary64).key := by
    rw [← orderedBy_key.lt_iff hnan (by decide)]
    exact Bool.eq_false_iff.1 hone
  have hpos : 0 < (one : Binary64).key := by decide
  omega

theorem isNegative_of_key_pos {x : Binary64} (h : 0 < x.key) : x.isNegative = false := by
  unfold key at h
  by_contra hsign
  rw [if_pos (Bool.not_eq_false _ ▸ hsign)] at h
  omega

/-- The index that a parameter of at least one becomes: its whole part, as far as an index goes. -/
theorem toIndex_eq {k : Binary64} (hnan : k.isNaN = false) (hone : lt k one = false) :
    toIndex k =
      if k.isInfinite then 0xffffffffffffffff else min 0xffffffffffffffff ⌊k.value⌋₊ := by
  have hsign : k.isNegative = false := isNegative_of_key_pos (key_pos_of_one_le hnan hone)
  change (k.clampToInt 0 0xffffffffffffffff).toNat = _
  unfold clampToInt
  rw [hnan, hsign, truncInt_eq_floor hsign]
  cases k.isInfinite <;> simp only [Bool.false_eq_true, if_true, if_false] <;> omega

end Binary64

namespace Statistics

/-- One position goes before another one if its value has the smaller rank, or the same rank and
it comes earlier. -/
def Precedes (largest : Bool) (values : List Binary64) (i j : ℕ) : Prop :=
  ∃ x y, values[i]? = some x ∧ values[j]? = some y ∧
    (x.rank largest < y.rank largest ∨ x.rank largest = y.rank largest ∧ i < j)

/-- Positions of values, each once, in the order in which they precede each other. No other
position precedes one of them. -/
structure SelectsFirst (largest : Bool) (values : List Binary64) (positions : List ℕ) : Prop where
  valid : ∀ i ∈ positions, i < values.length
  distinct : positions.Nodup
  ordered : positions.Pairwise (Precedes largest values)
  first : ∀ i ∈ positions, ∀ j < values.length, j ∉ positions → Precedes largest values i j

variable {largest : Bool} {values : List Binary64}

/-- The values with their positions in the order of selection. -/
def ranked (largest : Bool) (values : List Binary64) : List (Binary64 × ℕ) :=
  values.zipIdx.mergeSort fun a b => (selectionOrder largest a.1 b.1).isLE

theorem mem_ranked_iff {e : Binary64 × ℕ} :
    e ∈ ranked largest values ↔ values[e.2]? = some e.1 := by
  unfold ranked
  rw [List.mem_mergeSort, List.mem_zipIdx_iff_getElem?]

theorem pairwise_ranked (largest : Bool) (values : List Binary64) :
    (ranked largest values).Pairwise fun a b => Precedes largest values a.2 b.2 := by
  have hearlier : values.zipIdx.Pairwise fun a b => a.2 < b.2 := by
    rw [← List.pairwise_map (f := Prod.snd) (R := (· < ·)), List.zipIdx_map_snd]
    exact List.pairwise_lt_range' 1
  have hstable : (ranked largest values).Pairwise fun a b =>
      (selectionOrder largest a.1 b.1).isLE = true ∧
        ((selectionOrder largest b.1 a.1).isLE = true → a.2 < b.2) := by
    apply pairwise_mergeSort_stable _ _ hearlier
    · intro a b c hab hbc
      rw [Binary64.isLE_selectionOrder] at *
      exact hab.trans hbc
    · intro a b
      rw [Bool.or_eq_true, Binary64.isLE_selectionOrder, Binary64.isLE_selectionOrder]
      exact le_total _ _
  apply hstable.imp_of_mem
  intro a b ha hb h
  rw [Binary64.isLE_selectionOrder, Binary64.isLE_selectionOrder] at h
  refine ⟨a.1, b.1, mem_ranked_iff.1 ha, mem_ranked_iff.1 hb, ?_⟩
  rcases h.1.lt_or_eq with hlt | heq
  · exact .inl hlt
  · exact .inr ⟨heq, h.2 heq.ge⟩

theorem Precedes.ne {i j : ℕ} (h : Precedes largest values i j) : i ≠ j := by
  rintro rfl
  obtain ⟨x, y, hx, hy, hlt | ⟨-, hlt⟩⟩ := h
  · obtain rfl : x = y := Option.some.inj (hx.symm.trans hy)
    exact hlt.false
  · exact hlt.false

theorem selectsFirst_take (largest : Bool) (values : List Binary64) (count : ℕ) :
    SelectsFirst largest values (((ranked largest values).take count).map Prod.snd) := by
  have hpairwise := pairwise_ranked largest values
  rw [← List.take_append_drop count (ranked largest values), List.pairwise_append] at hpairwise
  obtain ⟨htaken, -, hfirst⟩ := hpairwise
  have hordered := List.pairwise_map.2 htaken
  refine ⟨?valid, hordered.imp Precedes.ne, hordered, ?first⟩
  case valid =>
    intro i hi
    obtain ⟨e, he, rfl⟩ := List.mem_map.1 hi
    exact (List.getElem?_eq_some_iff.1 (mem_ranked_iff.1 (List.mem_of_mem_take he))).1
  case first =>
    intro i hi j hj hnot
    obtain ⟨e, he, rfl⟩ := List.mem_map.1 hi
    have hmem : (values[j], j) ∈ ranked largest values :=
      mem_ranked_iff.2 (List.getElem?_eq_getElem hj)
    rw [← List.take_append_drop count (ranked largest values)] at hmem
    rcases List.mem_append.1 hmem with htake | hdrop
    · exact absurd (List.mem_map_of_mem htake) hnot
    · exact hfirst e he _ hdrop

/-- No values are selected by a NaN or by a parameter below one. Any other parameter selects the
first values in the order of their ranks, as many as its whole part says or as there are, provided
that sixty-four bits can hold their number. -/
theorem select_first_of_ranking (largest : Bool) (k : Binary64) (values : List Binary64) :
    (k.isNaN = true ∨ Binary64.lt k one = true → select largest k values = []) ∧
      (k.isNaN = false → Binary64.lt k one = false →
        SelectsFirst largest values (select largest k values) ∧
          (values.length ≤ 0xffffffffffffffff → (select largest k values).length =
            if k.isInfinite then values.length else min ⌊k.value⌋₊ values.length)) := by
  constructor
  · intro h
    exact if_pos (Bool.or_eq_true_iff.2 h)
  · intro hnan hone
    have hselect : select largest k values =
        ((ranked largest values).take (toIndex k)).map Prod.snd := by
      have hnot : ¬ (isNaN k || lt k one) = true :=
        Bool.eq_false_iff.1 (Bool.or_eq_false_iff.2 ⟨hnan, hone⟩)
      rw [List.map_take]
      exact if_neg hnot
    have hranked : (ranked largest values).length = values.length := by
      rw [ranked, List.length_mergeSort, List.length_zipIdx]
    rw [hselect]
    refine ⟨selectsFirst_take largest values _, fun hlength => ?_⟩
    rw [List.length_map, List.length_take, hranked, Binary64.toIndex_eq hnan hone]
    split <;> omega

def nineTwice : List Binary64 :=
  [⟨0x4014000000000000⟩, Binary64.nan, ⟨0x4022000000000000⟩, ⟨0x3ff0000000000000⟩,
    ⟨0x4022000000000000⟩]

def betweenTwoAndThree : Binary64 := ⟨0x4004000000000000⟩

theorem select_betweenTwoAndThree_nineTwice :
    select true betweenTwoAndThree nineTwice = [2, 4] := by
  have hindex : toIndex betweenTwoAndThree = 2 := by decide +kernel
  have hone : (isNaN betweenTwoAndThree || lt betweenTwoAndThree one) = false := by decide +kernel
  unfold select
  rw [hindex, hone]
  simp +decide [nineTwice, List.mergeSort, List.MergeSort.Internal.splitInTwo]

theorem nines_selected_first :
    SelectsFirst true nineTwice [2, 4] ∧
      [2, 4].length = min ⌊betweenTwoAndThree.value⌋₊ nineTwice.length := by
  obtain ⟨-, hselect⟩ := select_first_of_ranking true betweenTwoAndThree nineTwice
  obtain ⟨hfirst, hcount⟩ := hselect (by decide) (by decide)
  rw [select_betweenTwoAndThree_nineTwice] at hfirst hcount
  exact ⟨hfirst, hcount (by decide)⟩

end Statistics

end SeriesQuery
