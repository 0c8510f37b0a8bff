import Mathlib.Data.List.Perm.Basic
import SeriesQuery.Fingerprint.Streaming

/-!
# Hashing as bytes arrive and all at once

A hash does not depend on how its bytes are cut into pieces, so feeding it label by label gives the
hash of the whole stream. Feeding only what a filter admits gives the hash of the admitted labels.
-/

namespace SeriesQuery

namespace Fingerprint

theorem flatten_pieces (pair : String × String) : (pieces pair).flatten = pairBytes pair := by
  simp [pieces, pairBytes]

theorem flatten_flatMap_pieces (pairs : List (String × String)) :
    (pairs.flatMap pieces).flatten = stream pairs := by
  induction pairs with
  | nil => rfl
  | cons pair rest ih =>
    rw [List.flatMap_cons, List.flatten_append, flatten_pieces, ih]
    rfl

theorem foldl_fnvUpdate (h : UInt64) (chunks : List (List UInt8)) :
    chunks.foldl fnvUpdate h = fnvUpdate h chunks.flatten :=
  List.foldl_flatten.symm

theorem foldl_fnvUpdate_pieces (pair : String × String) :
    (pieces pair).foldl fnvUpdate fnvBasis = fnvBytes (pairBytes pair) := by
  rw [foldl_fnvUpdate, flatten_pieces]
  rfl

namespace XxHash

theorem Lanes.absorbAll_append (l : Lanes) (bytes more : List UInt8) :
    l.absorbAll (bytes ++ more) =
      (l.absorbAll bytes).1.absorbAll ((l.absorbAll bytes).2 ++ more) := by
  fun_induction absorbAll l bytes with
  | case1 l bytes h ih =>
    have hlength : 32 ≤ (bytes ++ more).length := by
      rw [List.length_append]
      omega
    rw [l.absorbAll_of_le hlength, List.take_append_of_le_length h,
      List.drop_append_of_le_length h, ih]
  | case2 l bytes h => rfl

namespace State

@[simp] theorem update_nil (s : State) : s.update [] = s := by
  obtain ⟨lanes, pending, length, hpending⟩ := s
  simp [update, lanes.absorbAll_of_lt hpending]

theorem update_update (s : State) (bytes more : List UInt8) :
    (s.update bytes).update more = s.update (bytes ++ more) := by
  simp only [update, mk.injEq, List.length_append, ← List.append_assoc,
    s.lanes.absorbAll_append (s.pending ++ bytes) more, true_and]
  omega

theorem foldl_update (s : State) (chunks : List (List UInt8)) :
    chunks.foldl update s = s.update chunks.flatten := by
  induction chunks generalizing s with
  | nil => exact s.update_nil.symm
  | cons chunk rest ih => rw [List.foldl_cons, ih, update_update, List.flatten_cons]

theorem digest_update_start (bytes : List UInt8) : (start.update bytes).digest = hash bytes := by
  have hlength : 0 + bytes.length = bytes.length := Nat.zero_add _
  simp only [digest, update, start, hash, List.nil_append, hlength]

end State

end XxHash

end Fingerprint

theorem LabelFilter.feed_eq_foldl {σ : Type} (f : LabelFilter) (take : σ → String × String → σ)
    (s : σ) (pairs : List (String × String)) :
    f.feed take s pairs = (pairs.filter fun e => f.admits e.1).foldl take s := by
  induction pairs generalizing s with
  | nil => rfl
  | cons e rest ih =>
    cases he : f.admits e.1 with
    | true => simp [feed, he, ih]
    | false => simp [feed, he, ih]

namespace HashAlgorithm

open Fingerprint

theorem hashPairs_eq_hash (a : HashAlgorithm) (pairs : List (String × String)) :
    a.hashPairs pairs = a.hash pairs := by
  cases a with
  | fnv =>
    change pairs.foldl (fun h pair => h ^^^ (pieces pair).foldl fnvUpdate fnvBasis) fnvBasis = _
    simp only [foldl_fnvUpdate_pieces]
    rfl
  | xxHash =>
    change (pairs.foldl (fun s pair => (pieces pair).foldl XxHash.State.update s) _).digest = _
    rw [← List.foldl_flatMap, XxHash.State.foldl_update, flatten_flatMap_pieces,
      XxHash.State.digest_update_start]
    rfl

theorem fingerprint_eq_hash (a : HashAlgorithm) (labels : Labels) :
    a.fingerprint labels = a.hash labels.toList :=
  a.hashPairs_eq_hash labels.toList

theorem filteredFingerprint_eq_hash (a : HashAlgorithm) (labels : Labels) (f : LabelFilter) :
    a.filteredFingerprint labels f = a.hash (labels.admitted f) := by
  unfold filteredFingerprint
  simp only [f.feed_eq_foldl]
  exact a.hashPairs_eq_hash (labels.admitted f)

end HashAlgorithm

end SeriesQuery
