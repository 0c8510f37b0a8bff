import Mathlib.Algebra.BigOperators.Ring.Finset
import Mathlib.Data.List.Dedup
import Mathlib.Data.List.Induction
import SeriesQuery.Proofs.Binary64.WholeNumbers
import SeriesQuery.Statistics

/-!
# Counting occurrences

The list of occurrences has one entry for each text that has been met, with the number of times it
has been met. A further text raises its own entry by one, or gets an entry of its own.
-/

namespace SeriesQuery

open Numeric

section Tally

variable {κ : Type} [DecidableEq κ]

def timesIn (items : List κ) (x : κ) : ℕ := items.count x

def tally (items : List κ) : List (κ × Binary64) :=
  items.dedup.map fun x => (x, Binary64.counted (timesIn items x))

theorem map_fst_tally (items : List κ) : (tally items).map Prod.fst = items.dedup := by
  unfold tally
  rw [List.map_map]
  exact List.map_id _

theorem nodup_tally (items : List κ) : ((tally items).map Prod.fst).Nodup := by
  rw [map_fst_tally]
  exact items.nodup_dedup

theorem mem_tally_iff {items : List κ} {x : κ} {n : Binary64} :
    (x, n) ∈ tally items ↔ x ∈ items ∧ n = Binary64.counted (timesIn items x) := by
  unfold tally
  rw [List.mem_map]
  constructor
  · rintro ⟨y, hy, heq⟩
    cases heq
    exact ⟨List.mem_dedup.1 hy, rfl⟩
  · rintro ⟨hx, rfl⟩
    exact ⟨x, List.mem_dedup.2 hx, rfl⟩

/-- Every item is counted once, as long as double precision tells the counts apart. -/
theorem sum_tally {items : List κ} (h : items.length ≤ 2 ^ 53) :
    ((tally items).map fun c => c.2.value).sum = items.length := by
  have hvalue : (tally items).map (fun c => c.2.value) =
      (items.dedup.map fun x => items.count x).map (Nat.cast : ℕ → ℚ) := by
    unfold tally
    rw [List.map_map, List.map_map]
    apply List.map_congr_left
    intro x _
    exact Binary64.value_counted (List.count_le_length.trans h)
  rw [hvalue, ← Nat.cast_list_sum, List.sum_map_count_dedup_eq_length]

end Tally

namespace Statistics

section AddOccurrence

variable {f : String → Binary64} {keys : List String} {t : String}

theorem addOccurrence_of_notMem (h : t ∉ keys) :
    addOccurrence (keys.map fun x => (x, f x)) t = keys.map (fun x => (x, f x)) ++ [(t, one)] := by
  induction keys with
  | nil => rfl
  | cons key rest ih =>
    rw [List.mem_cons, not_or] at h
    simp only [List.map_cons, addOccurrence, if_neg (Ne.symm h.1), ih h.2, List.cons_append]

theorem addOccurrence_of_mem (hkeys : keys.Nodup) (h : t ∈ keys) :
    addOccurrence (keys.map fun x => (x, f x)) t =
      keys.map fun x => (x, if x = t then f x + one else f x) := by
  induction keys with
  | nil => cases h
  | cons key rest ih =>
    obtain ⟨hnot, hrest⟩ := List.nodup_cons.1 hkeys
    by_cases hkey : key = t
    · subst hkey
      have hsame : rest.map (fun x => (x, if x = key then f x + one else f x)) =
          rest.map fun x => (x, f x) := by
        apply List.map_congr_left
        intro x hx
        rw [if_neg (ne_of_mem_of_not_mem hx hnot)]
      simp only [List.map_cons, addOccurrence, if_true, hsame]
    · have ht := List.mem_of_ne_of_mem (Ne.symm hkey) h
      simp only [List.map_cons, addOccurrence, if_neg hkey, ih hrest ht]

end AddOccurrence

theorem occurrences_concat (texts : List String) (t : String) :
    (occurrences (texts ++ [t]) : List (String × Binary64)) =
      addOccurrence (occurrences texts) t := by
  unfold occurrences
  rw [List.foldl_append]
  rfl

theorem counted_count_concat (texts : List String) (t x : String) :
    Binary64.counted ((texts ++ [t]).count x) =
      if x = t then Binary64.counted (texts.count x) + one
      else Binary64.counted (texts.count x) := by
  rw [List.count_append, List.count_singleton]
  by_cases hx : x = t
  · rw [if_pos hx, if_pos (beq_iff_eq.2 hx.symm)]
    exact (Binary64.counted_succ _).symm
  · rw [if_neg hx, if_neg (by simpa using Ne.symm hx), Nat.add_zero]

/-- The keys are the texts met so far, and each has the count of its text. -/
theorem exists_keys_of_occurrences (texts : List String) :
    ∃ keys : List String, keys.Nodup ∧ (∀ x, x ∈ keys ↔ x ∈ texts) ∧
      occurrences texts = keys.map fun x => (x, Binary64.counted (texts.count x)) := by
  induction texts using List.reverseRecOn with
  | nil => exact ⟨[], List.nodup_nil, fun _ => Iff.rfl, rfl⟩
  | append_singleton texts t ih =>
    obtain ⟨keys, hnodup, hmem, hkeys⟩ := ih
    rw [occurrences_concat, hkeys]
    simp only [counted_count_concat]
    by_cases ht : t ∈ keys
    · refine ⟨keys, hnodup, ?_, addOccurrence_of_mem hnodup ht⟩
      intro x
      rw [List.mem_append, List.mem_singleton, ← hmem x, iff_self_or]
      rintro rfl
      exact ht
    · have hzero : texts.count t = 0 := List.count_eq_zero.2 (mt (hmem t).2 ht)
      refine ⟨keys ++ [t], hnodup.append (List.nodup_singleton t) (by simpa using ht), ?_, ?_⟩
      · intro x
        rw [List.mem_append, List.mem_append, hmem x]
      · have hone : Binary64.counted 0 + one = one := Binary64.counted_succ 0
        have hothers : keys.map (fun x => (x, if x = t then Binary64.counted (texts.count x) + one
            else Binary64.counted (texts.count x))) =
              keys.map fun x => (x, Binary64.counted (texts.count x)) := by
          apply List.map_congr_left
          intro x hx
          rw [if_neg (ne_of_mem_of_not_mem hx ht)]
        rw [addOccurrence_of_notMem ht, List.map_append, List.map_singleton, if_pos rfl, hzero,
          hone, hothers]

theorem occurrences_perm (texts : List String) : (occurrences texts).Perm (tally texts) := by
  obtain ⟨keys, hnodup, hmem, hkeys⟩ := exists_keys_of_occurrences texts
  rw [hkeys]
  refine List.Perm.map _ ((List.perm_ext_iff_of_nodup hnodup texts.nodup_dedup).2 fun x => ?_)
  rw [hmem, List.mem_dedup]

end Statistics

end SeriesQuery
