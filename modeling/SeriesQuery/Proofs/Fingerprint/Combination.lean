import Mathlib.Data.List.Nodup
import Mathlib.Data.List.Perm.Basic
import SeriesQuery.Fingerprint

/-!
# Combined hashes

The hashes of pairs are combined by exclusive or. The order of the pairs does not matter, and a
pair that two lists have in common adds the same to both fingerprints. They are equal exactly if
the hashes of the pairs that only one of the lists has cancel out.
-/

namespace SeriesQuery.Fingerprint

def pairHash (pair : String × String) : UInt64 := fnvBytes (pairBytes pair)

def combined (hashes : List UInt64) : UInt64 := hashes.foldr (· ^^^ ·) 0

@[simp] theorem combined_cons (h : UInt64) (rest : List UInt64) :
    combined (h :: rest) = h ^^^ combined rest := rfl

@[simp] theorem combined_append (hashes more : List UInt64) :
    combined (hashes ++ more) = combined hashes ^^^ combined more := by
  induction hashes with
  | nil => simp [combined]
  | cons h rest ih => simp [ih, UInt64.xor_assoc]

theorem combined_perm {hashes more : List UInt64} (h : hashes.Perm more) :
    combined hashes = combined more :=
  h.foldr_op_eq

theorem fnv_eq_combined (pairs : List (String × String)) :
    fnv pairs = fnvBasis ^^^ combined (pairs.map pairHash) := by
  have hfold (start : UInt64) :
      pairs.foldl (fun h pair => h ^^^ fnvBytes (pairBytes pair)) start =
        start ^^^ combined (pairs.map pairHash) := by
    induction pairs generalizing start with
    | nil => simp [combined]
    | cons pair rest ih =>
      rw [List.foldl_cons, ih, List.map_cons, combined_cons, UInt64.xor_assoc]
      rfl
  exact hfold fnvBasis

theorem fnv_perm {pairs pairs' : List (String × String)} (h : pairs.Perm pairs') :
    fnv pairs = fnv pairs' := by
  rw [fnv_eq_combined, fnv_eq_combined, combined_perm (h.map pairHash)]

def differing (pairs pairs' : List (String × String)) : List (String × String) :=
  pairs.filter (· ∉ pairs') ++ pairs'.filter (· ∉ pairs)

section Cancellation

variable {pairs pairs' : List (String × String)}

theorem mem_differing_iff {pair : String × String} :
    pair ∈ differing pairs pairs' ↔
      (pair ∈ pairs ∧ pair ∉ pairs') ∨ (pair ∈ pairs' ∧ pair ∉ pairs) := by
  simp [differing]

theorem nodup_differing (h : pairs.Nodup) (h' : pairs'.Nodup) : (differing pairs pairs').Nodup := by
  apply (h.filter _).append (h'.filter _)
  intro pair hmem hmem'
  simp only [List.mem_filter, decide_eq_true_eq] at hmem hmem'
  exact hmem.2 hmem'.1

theorem combined_split (pairs pairs' : List (String × String)) :
    combined (pairs.map pairHash) =
      combined ((pairs.filter (· ∈ pairs')).map pairHash) ^^^
        combined ((pairs.filter (· ∉ pairs')).map pairHash) := by
  have hperm : (pairs.filter (· ∈ pairs') ++ pairs.filter (· ∉ pairs')).Perm pairs := by
    simpa using List.filter_append_perm (· ∈ pairs') pairs
  rw [← combined_append, ← List.map_append, combined_perm (hperm.map pairHash)]

/-- What two lists have in common does not tell their fingerprints apart. -/
theorem fnv_eq_iff_cancel (h : pairs.Nodup) (h' : pairs'.Nodup) :
    fnv pairs = fnv pairs' ↔ combined ((differing pairs pairs').map pairHash) = 0 := by
  have hcommon : (pairs.filter (· ∈ pairs')).Perm (pairs'.filter (· ∈ pairs)) := by
    rw [List.perm_ext_iff_of_nodup (h.filter _) (h'.filter _)]
    intro pair
    simp [and_comm]
  rw [fnv_eq_combined, fnv_eq_combined, UInt64.xor_right_inj, combined_split pairs pairs',
    combined_split pairs' pairs, combined_perm (hcommon.map pairHash), UInt64.xor_right_inj,
    differing, List.map_append, combined_append, UInt64.xor_eq_zero_iff]

end Cancellation

end SeriesQuery.Fingerprint
