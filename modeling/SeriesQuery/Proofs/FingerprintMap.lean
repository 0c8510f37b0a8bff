import Mathlib.Data.List.Find
import Mathlib.Data.List.Nodup
import Mathlib.Data.List.Perm.Basic
import SeriesQuery.FingerprintMap
import SeriesQuery.Proofs.Series.Entries

/-!
# Lookups by fingerprint

A map is used with a fingerprint for each key and with equality as the test on keys. Then it is a
finite map whatever the fingerprints are: a change at one key shows at that key only, and its
entries have distinct keys.
-/

namespace SeriesQuery.FingerprintMap

variable {κ ν : Type}

theorem bucket_add (m : FingerprintMap κ ν) (f f' : Fingerprint) (k : κ) (v : ν) :
    (m.add f k v).bucket f' = if f' = f then m.bucket f ++ [(k, v)] else m.bucket f' := by
  unfold add bucket
  rw [SortedMap.get?_alter]
  by_cases h : f' = f
  · rw [if_pos h, if_pos h]
    rfl
  · rw [if_neg h, if_neg h]

theorem bucket_modify (m : FingerprintMap κ ν) (f f' : Fingerprint) (isKey : κ → Bool)
    (g : ν → ν) :
    (m.modify f isKey g).bucket f' =
      if f' = f then modifyFirst isKey g (m.bucket f) else m.bucket f' := by
  unfold modify bucket SortedMap.modify
  rw [SortedMap.get?_alter]
  by_cases h : f' = f
  · rw [if_pos h, if_pos h]
    cases m.buckets.get? f <;> rfl
  · rw [if_neg h, if_neg h]

theorem mem_toList_iff {m : FingerprintMap κ ν} {e : κ × ν} :
    e ∈ m.toList ↔ ∃ f, e ∈ m.bucket f := by
  simp only [toList, List.mem_flatMap]
  constructor
  · rintro ⟨⟨f, entries⟩, hmem, he⟩
    refine ⟨f, ?_⟩
    rw [bucket, SortedMap.get?_eq_some_iff.2 hmem]
    exact he
  · rintro ⟨f, he⟩
    unfold bucket at he
    cases hf : m.buckets.get? f with
    | none =>
      rw [hf] at he
      cases he
    | some entries =>
      rw [hf] at he
      exact ⟨(f, entries), SortedMap.get?_eq_some_iff.1 hf, he⟩

theorem map_fst_modifyFirst (isKey : κ → Bool) (g : ν → ν) (l : List (κ × ν)) :
    (modifyFirst isKey g l).map Prod.fst = l.map Prod.fst := by
  induction l with
  | nil => rfl
  | cons e rest ih =>
    unfold modifyFirst
    by_cases h : isKey e.1 = true
    · rw [if_pos h]
      rfl
    · rw [if_neg h, List.map_cons, ih, List.map_cons]

theorem modifyFirst_congr {isKey isKey' : κ → Bool} {l : List (κ × ν)}
    (h : ∀ e ∈ l, isKey e.1 = isKey' e.1) (g : ν → ν) :
    modifyFirst isKey g l = modifyFirst isKey' g l := by
  induction l with
  | nil => rfl
  | cons e rest ih =>
    unfold modifyFirst
    rw [h e (.head _), ih fun e' he' => h e' (.tail _ he')]

/-- The test on keys matters only on the keys under the fingerprint. -/
theorem modify_congr {m : FingerprintMap κ ν} {f : Fingerprint} (isKey isKey' : κ → Bool)
    (h : ∀ e ∈ m.bucket f, isKey e.1 = isKey' e.1) (g : ν → ν) :
    m.modify f isKey g = m.modify f isKey' g := by
  unfold modify
  refine congrArg FingerprintMap.mk (SortedMap.ext_get? fun f' => ?_)
  unfold SortedMap.modify
  rw [SortedMap.get?_alter, SortedMap.get?_alter]
  by_cases hf : f' = f
  · rw [if_pos hf, if_pos hf]
    unfold bucket at h
    cases hb : m.buckets.get? f with
    | none => rfl
    | some entries =>
      rw [hb] at h
      exact congrArg some (modifyFirst_congr h g)
  · rw [if_neg hf, if_neg hf]

theorem upsert_congr {m : FingerprintMap κ ν} {f : Fingerprint} (isKey isKey' : κ → Bool)
    (h : ∀ e ∈ m.bucket f, isKey e.1 = isKey' e.1) (k : κ) (v : ν) (g : ν → ν) :
    m.upsert f isKey k v g = m.upsert f isKey' k v g := by
  have hfind : m.find? f isKey = m.find? f isKey' := List.find?_congr h
  unfold upsert
  rw [hfind, modify_congr isKey isKey' h]

theorem find?_modifyFirst [DecidableEq κ] (k k' : κ) (g : ν → ν) (l : List (κ × ν)) :
    ((modifyFirst (· == k) g l).find? (·.1 == k')).map Prod.snd =
      if k' = k then ((l.find? (·.1 == k)).map Prod.snd).map g
      else (l.find? (·.1 == k')).map Prod.snd := by
  induction l with
  | nil => simp [modifyFirst]
  | cons e rest ih =>
    obtain ⟨k₀, v⟩ := e
    unfold modifyFirst
    by_cases hk : k₀ = k
    · subst hk
      by_cases hk' : k' = k₀
      · subst hk'
        simp
      · have hne : (k₀ == k') = false := beq_eq_false_iff_ne.2 (Ne.symm hk')
        simp [hk', hne]
    · have hne : (k₀ == k) = false := beq_eq_false_iff_ne.2 hk
      simp only [hne, Bool.false_eq_true, if_false, List.find?_cons]
      by_cases hk' : k₀ = k'
      · subst hk'
        simp [hk]
      · have hne' : (k₀ == k') = false := beq_eq_false_iff_ne.2 hk'
        simp only [hne']
        exact ih

section Lookup

variable [DecidableEq κ] {fp : κ → Fingerprint} {m : FingerprintMap κ ν}

def lookup (fp : κ → Fingerprint) (m : FingerprintMap κ ν) (k : κ) : Option ν :=
  (m.find? (fp k) (· == k)).map Prod.snd

theorem find?_eq_lookup (m : FingerprintMap κ ν) (k : κ) :
    m.find? (fp k) (· == k) = (lookup fp m k).map (k, ·) := by
  unfold lookup
  cases h : m.find? (fp k) (· == k) with
  | none => rfl
  | some e =>
    have hk : e.1 = k := by simpa using List.find?_some h
    rw [← hk]
    rfl

@[simp] theorem lookup_empty (k : κ) : lookup fp (empty : FingerprintMap κ ν) k = none := rfl

theorem lookup_add (m : FingerprintMap κ ν) (k k' : κ) (v : ν) :
    lookup fp (m.add (fp k) k v) k' =
      (lookup fp m k').or (if k' = k then some v else none) := by
  unfold lookup find?
  rw [bucket_add]
  by_cases hk : k' = k
  · subst hk
    rw [if_pos rfl, if_pos rfl, List.find?_append]
    cases (m.bucket (fp k')).find? (·.1 == k') <;> simp
  · rw [if_neg hk, Option.or_none]
    by_cases hf : fp k' = fp k
    · have hne : (k == k') = false := beq_eq_false_iff_ne.2 (Ne.symm hk)
      rw [if_pos hf, hf, List.find?_append]
      simp [hne]
    · rw [if_neg hf]

theorem lookup_modify (m : FingerprintMap κ ν) (k k' : κ) (g : ν → ν) :
    lookup fp (m.modify (fp k) (· == k) g) k' =
      if k' = k then (lookup fp m k).map g else lookup fp m k' := by
  unfold lookup find?
  rw [bucket_modify]
  by_cases hf : fp k' = fp k
  · rw [if_pos hf, find?_modifyFirst, hf]
  · have hk : k' ≠ k := fun h => hf (congrArg fp h)
    rw [if_neg hf, if_neg hk]

end Lookup

/-- Every entry is under the fingerprint of its key, and no key occurs twice. -/
structure Indexed (fp : κ → Fingerprint) (m : FingerprintMap κ ν) : Prop where
  fingerprint : ∀ {f : Fingerprint} {e : κ × ν}, e ∈ m.bucket f → fp e.1 = f
  distinct : ∀ f, ((m.bucket f).map Prod.fst).Nodup

namespace Indexed

variable {fp : κ → Fingerprint} {m : FingerprintMap κ ν}

protected theorem empty : Indexed fp (FingerprintMap.empty : FingerprintMap κ ν) :=
  ⟨nofun, fun _ => .nil⟩

theorem nodup_keys (h : Indexed fp m) : (m.toList.map Prod.fst).Nodup := by
  have hbucket : ∀ e ∈ m.buckets.toList, m.bucket e.1 = e.2 := by
    intro e he
    rw [bucket, SortedMap.get?_eq_some_iff.2 he]
    rfl
  rw [toList, List.map_flatMap, List.nodup_flatMap]
  refine ⟨fun e he => hbucket e he ▸ h.distinct e.1, ?_⟩
  refine List.Pairwise.imp_of_mem ?_ m.buckets.ascending
  intro a b ha hb hab k hka hkb
  obtain ⟨ea, hea, rfl⟩ := List.mem_map.1 hka
  obtain ⟨eb, heb, heq⟩ := List.mem_map.1 hkb
  rw [← hbucket a ha] at hea
  rw [← hbucket b hb] at heb
  have hfp : a.1 = b.1 := by
    rw [← h.fingerprint hea, ← h.fingerprint heb, heq]
  simp [hfp] at hab

theorem modify (h : Indexed fp m) (f : Fingerprint) (isKey : κ → Bool) (g : ν → ν) :
    Indexed fp (m.modify f isKey g) := by
  have hkeys : ∀ f', ((m.modify f isKey g).bucket f').map Prod.fst =
      (m.bucket f').map Prod.fst := by
    intro f'
    rw [bucket_modify]
    by_cases hf : f' = f
    · rw [if_pos hf, map_fst_modifyFirst, hf]
    · rw [if_neg hf]
  constructor
  · intro f' e he
    have hmem := List.mem_map_of_mem (f := Prod.fst) he
    rw [hkeys] at hmem
    obtain ⟨e', he', heq⟩ := List.mem_map.1 hmem
    rw [← heq]
    exact h.fingerprint he'
  · intro f'
    rw [hkeys]
    exact h.distinct f'

variable [DecidableEq κ]

theorem mem_toList_iff_lookup (h : Indexed fp m) {k : κ} {v : ν} :
    (k, v) ∈ m.toList ↔ lookup fp m k = some v := by
  have hfind : lookup fp m k = some v ↔ (k, v) ∈ m.bucket (fp k) := by
    have hd := h.distinct (fp k)
    unfold lookup find?
    generalize m.bucket (fp k) = entries at hd ⊢
    induction entries with
    | nil => simp
    | cons e rest ih =>
      obtain ⟨k₀, v₀⟩ := e
      rw [List.map_cons, List.nodup_cons] at hd
      by_cases hk : k₀ = k
      · subst hk
        have hnot : (k₀, v) ∉ rest := fun hmem => hd.1 (List.mem_map.2 ⟨_, hmem, rfl⟩)
        simp [hnot, eq_comm]
      · have hne : (k₀ == k) = false := beq_eq_false_iff_ne.2 hk
        rw [List.find?_cons]
        simp only [hne, ih hd.2, List.mem_cons, Prod.mk.injEq]
        exact ⟨.inr, fun hor => hor.resolve_left fun heq => hk heq.1.symm⟩
  rw [hfind, mem_toList_iff]
  constructor
  · rintro ⟨f, hf⟩
    rwa [h.fingerprint hf]
  · exact fun hf => ⟨_, hf⟩

theorem add (h : Indexed fp m) {k : κ} (v : ν) (hk : lookup fp m k = none) :
    Indexed fp (m.add (fp k) k v) := by
  have hnot : ∀ e ∈ m.bucket (fp k), e.1 ≠ k := by
    intro e he heq
    have hmem : (k, e.2) ∈ m.toList := mem_toList_iff.2 ⟨fp k, heq ▸ he⟩
    rw [h.mem_toList_iff_lookup, hk] at hmem
    cases hmem
  constructor
  · intro f e he
    rw [bucket_add] at he
    by_cases hf : f = fp k
    · rw [if_pos hf] at he
      rcases List.mem_append.1 he with he | he
      · rw [hf]
        exact h.fingerprint he
      · rw [hf, List.mem_singleton.1 he]
    · rw [if_neg hf] at he
      exact h.fingerprint he
  · intro f
    rw [bucket_add]
    by_cases hf : f = fp k
    · rw [if_pos hf, List.map_append, List.nodup_append]
      refine ⟨h.distinct _, by simp, fun a ha b hb => ?_⟩
      obtain ⟨e, he, rfl⟩ := List.mem_map.1 ha
      rw [List.map_singleton, List.mem_singleton] at hb
      rw [hb]
      exact hnot e he
    · rw [if_neg hf]
      exact h.distinct f

/-- Maps that hold the same at every key list the same entries, whatever their fingerprints. -/
theorem perm_toList {fp' : κ → Fingerprint} {m' : FingerprintMap κ ν} (h : Indexed fp m)
    (h' : Indexed fp' m') (heq : ∀ k, lookup fp m k = lookup fp' m' k) :
    m.toList.Perm m'.toList := by
  refine (List.perm_ext_iff_of_nodup h.nodup_keys.of_map h'.nodup_keys.of_map).2 ?_
  intro e
  rw [h.mem_toList_iff_lookup, h'.mem_toList_iff_lookup, heq]

end Indexed

section Insert

variable [DecidableEq κ] {fp : κ → Fingerprint} {m : FingerprintMap κ ν}

variable (fp) in
theorem lookup_findOrInsert (m : FingerprintMap κ ν) (k k' : κ) (v : ν) :
    lookup fp (m.findOrInsert (fp k) (· == k) k v).2.2 k' =
      if k' = k then some ((lookup fp m k).getD v) else lookup fp m k' := by
  unfold findOrInsert
  rw [find?_eq_lookup]
  cases hk : lookup fp m k with
  | none =>
    simp only [Option.map_none, lookup_add]
    by_cases h : k' = k
    · subst h
      simp [hk]
    · simp [h]
  | some old =>
    simp only [Option.map_some]
    by_cases h : k' = k
    · subst h
      simp [hk]
    · simp [h]

variable (fp) in
theorem isNew_findOrInsert (m : FingerprintMap κ ν) (k : κ) (v : ν) :
    (m.findOrInsert (fp k) (· == k) k v).2.1 = (lookup fp m k).isNone := by
  unfold findOrInsert
  rw [find?_eq_lookup]
  cases lookup fp m k <;> rfl

theorem lookup_upsert (m : FingerprintMap κ ν) (k k' : κ) (v : ν) (g : ν → ν) :
    lookup fp (m.upsert (fp k) (· == k) k v g) k' =
      if k' = k then some ((lookup fp m k).elim v g) else lookup fp m k' := by
  unfold upsert
  rw [find?_eq_lookup, Option.isSome_map]
  cases hk : lookup fp m k with
  | none =>
    simp only [Option.isSome_none, Bool.false_eq_true, if_false, lookup_add]
    by_cases h : k' = k
    · subst h
      simp [hk]
    · simp [h]
  | some old =>
    simp only [Option.isSome_some, if_true, lookup_modify, hk]
    by_cases h : k' = k <;> simp [h]

theorem Indexed.upsert (h : Indexed fp m) (k : κ) (v : ν) (g : ν → ν) :
    Indexed fp (m.upsert (fp k) (· == k) k v g) := by
  unfold FingerprintMap.upsert
  rw [find?_eq_lookup, Option.isSome_map]
  cases hk : lookup fp m k with
  | none => exact h.add v hk
  | some old => exact h.modify _ _ g

end Insert

end SeriesQuery.FingerprintMap
