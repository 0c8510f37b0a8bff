import SeriesQuery.Proofs.Fingerprint.Combination
import SeriesQuery.Proofs.Fingerprint.Streaming
import SeriesQuery.Proofs.Series.Entries
import SeriesQuery.Proofs.Text.ByteOrder
import SeriesQuery.Proofs.Text.Quoted

/-!
# Hashed bytes are unambiguous

The separator is no byte of any text in UTF-8, so the first one ends the name, the second one the
value, and what follows are the other pairs. Different label sets are hashed from different bytes,
and they have one fingerprint only if the hash itself does not tell the bytes apart.
-/

namespace SeriesQuery

namespace Fingerprint

theorem utf8_eq_toByteArray (s : String) : utf8 s = s.toByteArray.data.toList := by
  rw [← String.utf8Encode_toList, List.utf8Encode, List.toList_data_toByteArray]
  rfl

theorem utf8_injective {s t : String} (h : utf8 s = utf8 t) : s = t := by
  rw [utf8_eq_toByteArray, utf8_eq_toByteArray] at h
  apply String.toByteArray_inj.1
  exact ByteArray.ext (Array.toList_inj.1 h)

/-- The first byte of an encoding begins with at most five ones. -/
theorem ne_separator_of_mem_utf8EncodeChar {c : Char} {b : UInt8}
    (h : b ∈ String.utf8EncodeChar c) : b ≠ separator := by
  have hbyte {n : Nat} (hn : n < 255) : UInt8.ofNat n ≠ separator := by
    intro heq
    have hsep : separator = UInt8.ofNat 255 := rfl
    rw [hsep, uint8_ofNat_inj (by omega) (by omega)] at heq
    omega
  revert h
  fun_cases String.utf8EncodeChar c
  all_goals
    intro h
    simp only [List.mem_cons, List.not_mem_nil, or_false] at h
    rcases h with rfl | rfl | rfl | rfl
  all_goals exact hbyte (by omega)

theorem ne_separator_of_mem_utf8 {s : String} {b : UInt8} (h : b ∈ utf8 s) : b ≠ separator := by
  obtain ⟨c, -, hb⟩ := List.mem_flatMap.1 h
  exact ne_separator_of_mem_utf8EncodeChar hb

theorem utf8_append_inj {s t : String} {rest rest' : List UInt8}
    (h : utf8 s ++ separator :: rest = utf8 t ++ separator :: rest') : s = t ∧ rest = rest' := by
  obtain ⟨htext, hrest⟩ := Text.append_cons_inj (P := (· ≠ separator))
    (fun _ => ne_separator_of_mem_utf8) (fun _ => ne_separator_of_mem_utf8) (by simp) (by simp) h
  exact ⟨utf8_injective htext, (List.cons.inj hrest).2⟩

theorem pairBytes_append_inj {pair pair' : String × String} {rest rest' : List UInt8}
    (h : pairBytes pair ++ rest = pairBytes pair' ++ rest') : pair = pair' ∧ rest = rest' := by
  simp only [pairBytes, List.append_assoc, List.cons_append, List.nil_append] at h
  obtain ⟨hname, hbehind⟩ := utf8_append_inj h
  obtain ⟨hvalue, hrest⟩ := utf8_append_inj hbehind
  exact ⟨Prod.ext hname hvalue, hrest⟩

theorem pairBytes_inj {pair pair' : String × String} :
    pairBytes pair = pairBytes pair' ↔ pair = pair' := by
  constructor
  · intro h
    rw [← List.append_nil (pairBytes pair), ← List.append_nil (pairBytes pair')] at h
    exact (pairBytes_append_inj h).1
  · rintro rfl
    rfl

theorem pairBytes_append_ne_nil (pair : String × String) (rest : List UInt8) :
    pairBytes pair ++ rest ≠ [] := by
  simp [pairBytes]

theorem stream_inj {pairs pairs' : List (String × String)} :
    stream pairs = stream pairs' ↔ pairs = pairs' := by
  constructor
  · intro h
    induction pairs generalizing pairs' with
    | nil =>
      cases pairs' with
      | nil => rfl
      | cons pair' rest' => exact absurd h.symm (pairBytes_append_ne_nil pair' (stream rest'))
    | cons pair rest ih =>
      cases pairs' with
      | nil => exact absurd h (pairBytes_append_ne_nil pair (stream rest))
      | cons pair' rest' =>
        obtain ⟨rfl, hrest⟩ := pairBytes_append_inj h
        rw [ih hrest]
  · rintro rfl
    rfl

def XxHash.Collide (bytes bytes' : List UInt8) : Prop := bytes ≠ bytes' ∧ hash bytes = hash bytes'

/-- Different byte sequences, one at least, whose hashes cancel out. -/
def Cancel (inputs : List (List UInt8)) : Prop :=
  inputs ≠ [] ∧ inputs.Nodup ∧ combined (inputs.map fnvBytes) = 0

instance (inputs : List (List UInt8)) : Decidable (Cancel inputs) :=
  inferInstanceAs (Decidable (_ ∧ _ ∧ _))

section LabelSets

variable {labels labels' : Labels}

theorem nodup_toList (labels : Labels) : labels.toList.Nodup := .of_map _ labels.nodup_keys

theorem differing_eq_nil_iff : differing labels.toList labels'.toList = [] ↔ labels = labels' := by
  constructor
  · intro h
    have hmem (pair : String × String) : pair ∈ labels.toList ↔ pair ∈ labels'.toList := by
      have hnot : pair ∉ differing labels.toList labels'.toList := by simp [h]
      rw [mem_differing_iff] at hnot
      tauto
    exact SortedMap.ext_toList (SortedMap.eq_of_mem_iff labels.ascending labels'.ascending hmem)
  · rintro rfl
    simp [differing]

/-- Order-free fingerprints are equal if the pairs that only one label set has cancel out. -/
theorem fnv_eq_iff :
    fnv labels.toList = fnv labels'.toList ↔
      labels = labels' ∨ Cancel ((differing labels.toList labels'.toList).map pairBytes) := by
  have hnodup : ((differing labels.toList labels'.toList).map pairBytes).Nodup :=
    (nodup_differing (nodup_toList labels) (nodup_toList labels')).map fun _ _ => pairBytes_inj.1
  have hhashes (pairs : List (String × String)) :
      (pairs.map pairBytes).map fnvBytes = pairs.map pairHash := List.map_map
  rw [fnv_eq_iff_cancel (nodup_toList labels) (nodup_toList labels'), Cancel, hhashes]
  constructor
  · intro hcancel
    by_cases heq : labels = labels'
    · exact .inl heq
    · have hne : (differing labels.toList labels'.toList).map pairBytes ≠ [] := by
        rwa [Ne, List.map_eq_nil_iff, differing_eq_nil_iff]
      exact .inr ⟨hne, hnodup, hcancel⟩
  · rintro (heq | ⟨-, -, hcancel⟩)
    · rw [differing_eq_nil_iff.2 heq]
      rfl
    · exact hcancel

theorem xxHash_eq_iff :
    xxHash labels.toList = xxHash labels'.toList ↔
      labels = labels' ∨ XxHash.Collide (stream labels.toList) (stream labels'.toList) := by
  constructor
  · intro hhash
    by_cases heq : labels = labels'
    · exact .inl heq
    · have hne : stream labels.toList ≠ stream labels'.toList := fun hstream =>
        heq (SortedMap.ext_toList (stream_inj.1 hstream))
      exact .inr ⟨hne, hhash⟩
  · rintro (rfl | ⟨-, hhash⟩)
    · rfl
    · exact hhash

end LabelSets

/-- The hashed bytes are the UTF-8 of each name and each value with the separator behind it, and
they tell apart any two lists of pairs, any two pairs and any two label sets. Label sets share a
fingerprint only if they are equal, if their streams collide or if the streams of the pairs that
only one of them has cancel out. -/
theorem label_streams_unambiguous :
    (∀ pairs : List (String × String),
      (pairs.flatMap pieces).flatten = stream pairs ∧
      stream pairs = pairs.flatMap fun pair =>
        pair.1.toByteArray.data.toList ++ 0xff :: (pair.2.toByteArray.data.toList ++ [0xff])) ∧
    (∀ pairs pairs', stream pairs = stream pairs' ↔ pairs = pairs') ∧
    (∀ pair pair', pairBytes pair = pairBytes pair' ↔ pair = pair') ∧
    ∀ labels labels' : Labels,
      (stream labels.toList = stream labels'.toList ↔ labels = labels') ∧
      (HashAlgorithm.xxHash.fingerprint labels = HashAlgorithm.xxHash.fingerprint labels' ↔
        labels = labels' ∨ XxHash.Collide (stream labels.toList) (stream labels'.toList)) ∧
      (HashAlgorithm.fnv.fingerprint labels = HashAlgorithm.fnv.fingerprint labels' ↔
        labels = labels' ∨ Cancel ((differing labels.toList labels'.toList).map pairBytes)) := by
  refine ⟨fun pairs => ⟨flatten_flatMap_pieces pairs, ?_⟩, fun pairs pairs' => stream_inj,
    fun pair pair' => pairBytes_inj, fun labels labels' => ⟨?_, ?_, ?_⟩⟩
  · simp only [← utf8_eq_toByteArray]
    rfl
  · rw [stream_inj]
    exact ⟨SortedMap.ext_toList, congrArg SortedMap.toList⟩
  · rw [HashAlgorithm.fingerprint_eq_hash, HashAlgorithm.fingerprint_eq_hash]
    exact xxHash_eq_iff
  · rw [HashAlgorithm.fingerprint_eq_hash, HashAlgorithm.fingerprint_eq_hash]
    exact fnv_eq_iff

/-- Eight pairs of each of two label sets have hashes that cancel out. -/
example :
    let names := ["a", "b", "c", "d", "e", "f", "g", "h"]
    let values := ["64956", "32630", "18936", "19676", "28399", "27488", "34502", "13000"]
    Cancel ((differing (names.zip values) (names.map (·, "0"))).map pairBytes) := by
  decide +kernel

end Fingerprint

end SeriesQuery
