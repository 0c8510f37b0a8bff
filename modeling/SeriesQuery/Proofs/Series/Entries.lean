import Mathlib.Data.List.Induction
import Mathlib.Data.List.Nodup
import Mathlib.Data.List.Perm.Basic
import SeriesQuery.SortedMap

/-!
# Entries of finite maps

What a map holds is told by its entries alone: entries with distinct keys may be inserted in any
order, and the entries of a map give the map back.
-/

open Std

namespace SeriesQuery.SortedMap

variable {κ ν μ μ' : Type} [Ord κ]

theorem filterMap_filterMap (m : SortedMap κ ν) (f : κ → ν → Option μ) (g : κ → μ → Option μ') :
    (m.filterMap f).filterMap g = m.filterMap fun k v => (f k v).bind (g k) := by
  refine ext_toList ?_
  simp only [filterMap, List.filterMap_filterMap]
  refine List.filterMap_congr fun e _ => ?_
  cases f e.1 e.2 <;> rfl

theorem filterMap_congr {m : SortedMap κ ν} {f g : κ → ν → Option μ}
    (h : ∀ e ∈ m.toList, f e.1 e.2 = g e.1 e.2) : m.filterMap f = m.filterMap g := by
  refine ext_toList (List.filterMap_congr fun e he => ?_)
  rw [h e he]

theorem values_filterMap (m : SortedMap κ ν) (f : κ → ν → Option μ) :
    (m.filterMap f).values = m.toList.filterMap fun e => f e.1 e.2 := by
  simp only [values, filterMap, List.map_filterMap, Option.map_map]
  exact List.filterMap_congr fun e _ => by cases f e.1 e.2 <;> rfl

variable [TransOrd κ] [LawfulEqOrd κ]

omit [TransOrd κ] in
theorem nodup_keys (m : SortedMap κ ν) : (m.toList.map Prod.fst).Nodup := by
  rw [List.nodup_iff_pairwise_ne, List.pairwise_map]
  refine m.ascending.imp fun {a b} hab heq => ?_
  simp [heq, ReflCmp.compare_self] at hab

theorem get?_mapValues (m : SortedMap κ ν) (f : κ → ν → μ) (k : κ) :
    (m.mapValues f).get? k = (m.get? k).map (f k) := by
  have h : m.mapValues f = m.filterMap fun k v => some (f k v) :=
    ext_toList (by simp [mapValues, filterMap])
  rw [h, get?_filterMap]
  cases m.get? k <;> rfl

theorem mapValues_insert (m : SortedMap κ ν) (f : κ → ν → μ) (k : κ) (v : ν) :
    (m.insert k v).mapValues f = (m.mapValues f).insert k (f k v) := by
  classical
  refine ext_get? fun k' => ?_
  rw [get?_mapValues, get?_insert, get?_insert, get?_mapValues]
  by_cases hk : k' = k
  · rw [if_pos hk, if_pos hk, hk]
    rfl
  · rw [if_neg hk, if_neg hk]

theorem alter_get? (m : SortedMap κ ν) (k : κ) : (m.alter k fun _ => m.get? k) = m := by
  classical
  refine ext_get? fun k' => ?_
  rw [get?_alter]
  by_cases hk : k' = k
  · rw [if_pos hk, hk]
  · rw [if_neg hk]

theorem mem_keys_iff {m : SortedMap κ ν} {k : κ} :
    k ∈ m.toList.map Prod.fst ↔ (m.get? k).isSome := by
  rw [Option.isSome_iff_exists]
  constructor
  · intro h
    obtain ⟨e, he, rfl⟩ := List.mem_map.1 h
    exact ⟨e.2, get?_eq_some_iff.2 he⟩
  · rintro ⟨v, hv⟩
    exact List.mem_map.2 ⟨(k, v), get?_eq_some_iff.1 hv, rfl⟩

theorem get?_filter (m : SortedMap κ ν) (keep : κ → Bool) (k : κ) :
    (m.filter fun k _ => keep k).get? k = if keep k then m.get? k else none := by
  refine Option.ext fun v => ?_
  rw [get?_eq_some_iff, filter, List.mem_filter]
  by_cases h : keep k = true
  · rw [if_pos h, get?_eq_some_iff]
    exact and_iff_left h
  · rw [if_neg h]
    exact iff_of_false (fun hmem => h hmem.2) nofun

theorem ofList_concat (entries : List (κ × ν)) (e : κ × ν) :
    ofList (entries ++ [e]) = (ofList entries).insert e.1 e.2 := by
  unfold ofList insertAll
  rw [List.foldl_append]
  rfl

variable [DecidableEq κ]

/-- Entries that are left out are not inserted, and no other entry shows at their keys. -/
theorem get?_ofList_filter (keep : κ → Bool) (entries : List (κ × ν)) (k : κ) :
    (ofList (entries.filter fun e => keep e.1)).get? k =
      if keep k then (ofList entries).get? k else none := by
  induction entries using List.reverseRecOn with
  | nil => simp [ofList, insertAll]
  | append_singleton entries e ih =>
    rw [List.filter_append, ofList_concat, get?_insert]
    by_cases he : keep e.1 = true
    · have hkept : ([e].filter fun e => keep e.1) = [e] := by simp [he]
      rw [hkept, ofList_concat, get?_insert, ih]
      by_cases hk : k = e.1
      · rw [if_pos hk, if_pos hk, hk, if_pos he]
      · rw [if_neg hk, if_neg hk]
    · have hleft : ([e].filter fun e => keep e.1) = [] := by simp [he]
      rw [hleft, List.append_nil, ih]
      by_cases hk : k = e.1
      · rw [hk, if_neg he, if_neg he]
      · rw [if_neg hk]

theorem get?_insertAll {m : SortedMap κ ν} {entries : List (κ × ν)} {k : κ} {v : ν}
    (h : (entries.map Prod.fst).Nodup) :
    (m.insertAll entries).get? k = some v ↔
      (k, v) ∈ entries ∨ k ∉ entries.map Prod.fst ∧ m.get? k = some v := by
  induction entries generalizing m with
  | nil => simp [insertAll]
  | cons e rest ih =>
    rw [List.map_cons, List.nodup_cons] at h
    change ((m.insert e.1 e.2).insertAll rest).get? k = some v ↔ _
    rw [ih h.2, get?_insert]
    by_cases hk : k = e.1
    · subst hk
      have hnot : ∀ w, (e.1, w) ∉ rest := fun w hw => h.1 (List.mem_map.2 ⟨_, hw, rfl⟩)
      simp only [hnot, h.1, false_or, not_false_eq_true, true_and, if_true, List.mem_cons,
        List.map_cons, not_true_eq_false, false_and, or_false, Option.some.injEq]
      exact ⟨fun hv => Prod.ext rfl hv.symm, fun he => (congrArg Prod.snd he).symm⟩
    · have hne : (k, v) ≠ e := fun he => hk (congrArg Prod.fst he)
      simp [hk, hne]

theorem get?_ofList {entries : List (κ × ν)} {k : κ} {v : ν} (h : (entries.map Prod.fst).Nodup) :
    (ofList entries).get? k = some v ↔ (k, v) ∈ entries := by
  rw [ofList, get?_insertAll h]
  simp

theorem ofList_perm {l l' : List (κ × ν)} (h : l.Perm l') (hl : (l.map Prod.fst).Nodup) :
    ofList l = ofList l' := by
  refine ext_get? fun k => Option.ext fun v => ?_
  rw [get?_ofList hl, get?_ofList ((h.map _).nodup_iff.1 hl)]
  exact h.mem_iff

theorem ofList_toList (m : SortedMap κ ν) : ofList m.toList = m := by
  refine ext_get? fun k => Option.ext fun v => ?_
  rw [get?_ofList m.nodup_keys, get?_eq_some_iff]

theorem mem_or_mem_of_insertAll {m : SortedMap κ ν} {entries : List (κ × ν)} {e : κ × ν}
    (h : e ∈ (m.insertAll entries).toList) : e ∈ m.toList ∨ e ∈ entries := by
  classical
  induction entries generalizing m with
  | nil => exact .inl h
  | cons a rest ih =>
    rcases ih h with hinsert | hrest
    · rw [← get?_eq_some_iff, get?_insert] at hinsert
      by_cases hk : e.1 = a.1
      · rw [if_pos hk, Option.some.injEq] at hinsert
        obtain rfl : e = a := Prod.ext hk hinsert.symm
        exact .inr (.head _)
      · rw [if_neg hk] at hinsert
        exact .inl (get?_eq_some_iff.1 hinsert)
    · exact .inr (.tail _ hrest)

theorem mem_of_mem_ofList {entries : List (κ × ν)} {e : κ × ν} (h : e ∈ (ofList entries).toList) :
    e ∈ entries :=
  (mem_or_mem_of_insertAll h).resolve_left nofun

/-- A key keeps being held when further entries are inserted. -/
theorem isSome_get?_insertAll (m : SortedMap κ ν) (entries : List (κ × ν)) (k : κ) :
    ((m.insertAll entries).get? k).isSome ↔ (m.get? k).isSome ∨ k ∈ entries.map Prod.fst := by
  induction entries generalizing m with
  | nil => simp [insertAll]
  | cons e rest ih =>
    change (((m.insert e.1 e.2).insertAll rest).get? k).isSome ↔ _
    rw [ih, get?_insert]
    by_cases hk : k = e.1 <;> simp [hk]

end SeriesQuery.SortedMap
