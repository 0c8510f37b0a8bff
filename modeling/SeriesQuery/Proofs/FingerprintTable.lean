import SeriesQuery.Proofs.FingerprintMap

/-!
# Tables keyed by fingerprint are finite maps

A call names its key to the table only by a fingerprint and a test. If equal keys come with equal
fingerprints and each test tells the key of its call from those of the other calls, then the table
answers as a finite map does, however many keys share a fingerprint. It counts and lists one entry
for each inserted key, by fingerprint and then in the order in which they were added.
-/

namespace SeriesQuery

variable {κ ν : Type}

namespace SortedMap

variable [Ord κ] [Std.TransOrd κ] [Std.LawfulEqOrd κ] [DecidableEq κ]

theorem insert_insertIfNew (m : SortedMap κ ν) (k : κ) (v w : ν) :
    (m.insertIfNew k v).insert k w = m.insert k w := by
  refine ext_get? fun k' => ?_
  unfold insertIfNew
  rw [get?_insert, get?_insert, get?_alter]
  by_cases hk : k' = k
  · rw [if_pos hk, if_pos hk]
  · rw [if_neg hk, if_neg hk, if_neg hk]

end SortedMap

namespace FingerprintTable

open FingerprintMap (Indexed lookup modifyFirst)

def toMap (t : FingerprintTable κ ν) : FingerprintMap κ ν := ⟨t.buckets⟩

theorem find?_toMap (t : FingerprintTable κ ν) (f : Fingerprint) (isKey : κ → Bool) :
    t.toMap.find? f isKey = t.find? f isKey := by
  unfold find? FingerprintMap.find? FingerprintMap.bucket toMap
  cases t.buckets.get? f <;> rfl

/-- A bucket that is made for a lookup is filled at once, so no empty one is left behind. -/
theorem findOrInsert_eq (t : FingerprintTable κ ν) (f : Fingerprint) (isKey : κ → Bool) (k : κ)
    (v : ν) (change : ν → ν) :
    t.findOrInsert f isKey k v change =
      match t.find? f isKey with
      | some e => ((change e.2, false), ⟨(t.toMap.modify f isKey change).buckets, t.size⟩)
      | none => ((change v, true), ⟨(t.toMap.add f k (change v)).buckets, t.size + 1⟩) := by
  have hbucket : ((t.buckets.insertIfNew f []).get? f).getD [] = t.toMap.bucket f := by
    unfold SortedMap.insertIfNew
    rw [SortedMap.get?_alter, if_pos rfl]
    rfl
  have hfind : (t.toMap.bucket f).find? (fun e => isKey e.1) = t.find? f isKey := find?_toMap ..
  unfold findOrInsert
  simp only [hbucket, hfind, SortedMap.insert_insertIfNew]
  cases hfound : t.find? f isKey with
  | none =>
    have hadd : t.buckets.insert f (t.toMap.bucket f ++ [(k, change v)]) =
        (t.toMap.add f k (change v)).buckets := by
      refine SortedMap.ext_get? fun f' => ?_
      unfold FingerprintMap.add
      rw [SortedMap.get?_insert, SortedMap.get?_alter]
      rfl
    rw [hadd]
  | some e =>
    have hmodify : t.buckets.insert f (modifyFirst isKey change (t.toMap.bucket f)) =
        (t.toMap.modify f isKey change).buckets := by
      refine SortedMap.ext_get? fun f' => ?_
      unfold FingerprintMap.modify SortedMap.modify
      rw [SortedMap.get?_insert, SortedMap.get?_alter]
      by_cases hf : f' = f
      · rw [if_pos hf, if_pos hf]
        unfold find? at hfound
        unfold FingerprintMap.bucket toMap
        cases hget : t.buckets.get? f with
        | some entries => rfl
        | none =>
          rw [hget] at hfound
          cases hfound
      · rw [if_neg hf, if_neg hf]
        rfl
    rw [hmodify]

theorem fingerprint_of_mem {fp : κ → Fingerprint} {t : FingerprintTable κ ν}
    (h : Indexed fp t.toMap) {b : Fingerprint × List (κ × ν)} (hb : b ∈ t.buckets.toList)
    {e : κ × ν} (he : e ∈ b.2) : fp e.1 = b.1 := by
  refine h.fingerprint ?_
  unfold FingerprintMap.bucket toMap
  rw [SortedMap.get?_eq_some_iff.2 hb]
  exact he

/-- The entries with a fingerprint stand together in the order of their bucket. -/
theorem filter_toList {fp : κ → Fingerprint} {t : FingerprintTable κ ν} (h : Indexed fp t.toMap)
    (f : Fingerprint) : (t.toList.filter fun e => fp e.1 = f) = t.toMap.bucket f := by
  have hbucket : ∀ b ∈ t.buckets.toList,
      (b.2.filter fun e => fp e.1 = f) = if b.1 = f then b.2 else [] := by
    intro b hb
    have hfp : ∀ e ∈ b.2, fp e.1 = b.1 := fun e he => fingerprint_of_mem h hb he
    by_cases hf : b.1 = f
    · rw [if_pos hf, List.filter_eq_self]
      intro e he
      simpa [hf] using hfp e he
    · rw [if_neg hf, List.filter_eq_nil_iff]
      intro e he
      simpa [hfp e he] using hf
  unfold toList FingerprintMap.bucket toMap
  rw [List.filter_flatMap, List.flatMap_congr hbucket]
  cases hget : t.buckets.get? f with
  | none =>
    refine List.flatMap_eq_nil_iff.2 fun b hb => if_neg fun hf => ?_
    rw [← hf, SortedMap.get?_eq_some_iff.2 hb] at hget
    cases hget
  | some entries =>
    obtain ⟨before, after, hsplit⟩ :=
      List.append_of_mem (SortedMap.get?_eq_some_iff.1 hget)
    have hdistinct := t.buckets.nodup_keys
    rw [hsplit, List.map_append, List.map_cons, List.nodup_middle, List.nodup_cons,
      ← List.map_append] at hdistinct
    have hother : ∀ b ∈ before ++ after, (if b.1 = f then b.2 else []) = [] := fun b hb =>
      if_neg fun hf => hdistinct.1 (List.mem_map.2 ⟨b, hb, hf⟩)
    rw [hsplit, List.flatMap_append, List.flatMap_cons, if_pos rfl,
      List.flatMap_eq_nil_iff.2 fun b hb => hother b (List.mem_append_left _ hb),
      List.flatMap_eq_nil_iff.2 fun b hb => hother b (List.mem_append_right _ hb),
      List.append_nil]
    rfl

theorem fingerprints_ascending {fp : κ → Fingerprint} {t : FingerprintTable κ ν}
    (h : Indexed fp t.toMap) : (t.toList.map fun e => fp e.1).Pairwise (· ≤ ·) := by
  have hfp : ∀ b ∈ t.buckets.toList, ∀ e ∈ b.2, fp e.1 = b.1 := fun b hb e he =>
    fingerprint_of_mem h hb he
  unfold toList
  rw [List.pairwise_map, List.pairwise_flatMap]
  refine ⟨fun b hb => ?_, List.Pairwise.imp_of_mem (fun {b b'} hb hb' hlt e he e' he' => ?_)
    t.buckets.ascending⟩
  · refine List.pairwise_of_forall_mem_list fun e he e' he' => ?_
    rw [hfp b hb e he, hfp b hb e' he']
    exact UInt64.le_refl _
  · rw [hfp b hb e he, hfp b' hb' e' he']
    exact Std.isLE_compare.1 (by rw [hlt]; rfl)

inductive Request (ν : Type)
  | find
  | modify (change : ν → ν)
  | insert (first : ν) (change : ν → ν)

/-- A request for a key that is named by a fingerprint and a test. -/
structure Call (κ ν : Type) where
  fingerprint : Fingerprint
  key : κ
  isKey : κ → Bool
  request : Request ν

inductive Answer (κ ν : Type)
  | found (entry : Option (κ × ν))
  | changed (value : Option ν)
  | stored (value : ν) (isNew : Bool)

def Call.perform (c : Call κ ν) (t : FingerprintTable κ ν) : Answer κ ν × FingerprintTable κ ν :=
  match c.request with
  | .find => (.found (t.find? c.fingerprint c.isKey), t)
  | .modify change =>
    let (value, changed) := t.modify c.fingerprint c.isKey change
    (.changed value, changed)
  | .insert first change =>
    let ((value, isNew), changed) := t.findOrInsert c.fingerprint c.isKey c.key first change
    (.stored value isNew, changed)

def run (calls : List (Call κ ν)) : FingerprintTable κ ν :=
  calls.foldl (fun t c => (c.perform t).2) .empty

/-- Equal keys come with equal fingerprints, and each test tells the key of its call. -/
structure WellKeyed (fp : κ → Fingerprint) (calls : List (Call κ ν)) : Prop where
  fingerprint : ∀ c ∈ calls, c.fingerprint = fp c.key
  isKey : ∀ c ∈ calls, ∀ c' ∈ calls, c.isKey c'.key = true ↔ c'.key = c.key

theorem WellKeyed.of_append {fp : κ → Fingerprint} {calls more : List (Call κ ν)}
    (h : WellKeyed fp (calls ++ more)) : WellKeyed fp calls :=
  ⟨fun c hc => h.fingerprint c (List.mem_append_left _ hc), fun c hc c' hc' =>
    h.isKey c (List.mem_append_left _ hc) c' (List.mem_append_left _ hc')⟩

namespace Request

/-- What a finite map answers where it holds a value or none. -/
def answer (k : κ) (old : Option ν) : Request ν → Answer κ ν
  | find => .found (old.map (k, ·))
  | modify change => .changed (old.map change)
  | insert first change => .stored (change (old.getD first)) old.isNone

def leaves (old : Option ν) : Request ν → Option ν
  | find => old
  | modify change => old.map change
  | insert first change => some (change (old.getD first))

def isInsert : Request ν → Bool
  | insert _ _ => true
  | _ => false

end Request

variable [DecidableEq κ]

/-- The value that calls leave at a key, if any. -/
def held (calls : List (Call κ ν)) (k : κ) : Option ν :=
  calls.foldl (fun old c => if c.key = k then c.request.leaves old else old) none

/-- The distinct keys that calls insert, in the order of their first insertions. -/
def insertedKeys (calls : List (Call κ ν)) : List κ :=
  ((calls.filter (·.request.isInsert)).map (·.key)).eraseDups

theorem held_concat (calls : List (Call κ ν)) (c : Call κ ν) (k : κ) :
    held (calls ++ [c]) k =
      if c.key = k then c.request.leaves (held calls k) else held calls k := by
  unfold held
  rw [List.foldl_append]
  rfl

theorem mem_insertedKeys_iff {calls : List (Call κ ν)} {k : κ} :
    k ∈ insertedKeys calls ↔ ∃ c ∈ calls, c.request.isInsert = true ∧ c.key = k := by
  simp [insertedKeys, List.mem_eraseDups, and_assoc]

theorem insertedKeys_concat (calls : List (Call κ ν)) (c : Call κ ν) :
    insertedKeys (calls ++ [c]) =
      if c.request.isInsert = true ∧ c.key ∉ insertedKeys calls then insertedKeys calls ++ [c.key]
      else insertedKeys calls := by
  unfold insertedKeys
  rw [List.filter_append, List.map_append, List.eraseDups_append]
  by_cases hinsert : c.request.isInsert = true
  · by_cases hmem : c.key ∈ (calls.filter (·.request.isInsert)).map (·.key)
    · simp [hinsert, hmem, List.mem_eraseDups, List.removeAll]
    · simp [hinsert, hmem, List.mem_eraseDups, List.removeAll, List.eraseDups_cons]
  · simp [hinsert, List.removeAll]

theorem isSome_held_iff (calls : List (Call κ ν)) (k : κ) :
    (held calls k).isSome ↔ k ∈ insertedKeys calls := by
  induction calls using List.reverseRecOn with
  | nil => simp [held, insertedKeys]
  | append_singleton calls c ih =>
    rw [held_concat, mem_insertedKeys_iff]
    rw [mem_insertedKeys_iff] at ih
    simp only [List.mem_append, List.mem_singleton, or_and_right, exists_or, exists_eq_left, ← ih]
    by_cases hk : c.key = k
    · rw [if_pos hk]
      cases c.request <;> simp [Request.leaves, Request.isInsert, hk]
    · simp [hk]

/-- A table that holds what calls left at each key, with their keys in the order of insertion. -/
structure Follows (fp : κ → Fingerprint) (calls : List (Call κ ν)) (t : FingerprintTable κ ν) :
    Prop where
  indexed : Indexed fp t.toMap
  lookup_eq : ∀ k, lookup fp t.toMap k = held calls k
  keys : ∀ f, (t.toMap.bucket f).map Prod.fst = (insertedKeys calls).filter (fp · = f)
  counted : t.size = (insertedKeys calls).length

namespace Follows

variable {fp : κ → Fingerprint} {calls : List (Call κ ν)} {c : Call κ ν}
  {t : FingerprintTable κ ν}

protected theorem empty : Follows fp ([] : List (Call κ ν)) .empty :=
  ⟨.empty, fun _ => rfl, fun _ => rfl, rfl⟩

/-- On the keys that are there the test of a further call is equality with its key. -/
theorem isKey_eq (h : Follows fp calls t) (hkeyed : WellKeyed fp (calls ++ [c])) :
    ∀ e ∈ t.toMap.bucket (fp c.key), c.isKey e.1 = (e.1 == c.key) := by
  intro e he
  have hmem := List.mem_map_of_mem (f := Prod.fst) he
  rw [h.keys, List.mem_filter, mem_insertedKeys_iff] at hmem
  obtain ⟨⟨c', hc', -, hkey⟩, -⟩ := hmem
  have htest := hkeyed.isKey c (by simp) c' (List.mem_append_left _ hc')
  rw [Bool.eq_iff_iff, beq_iff_eq, ← hkey]
  exact htest

theorem find?_eq (h : Follows fp calls t) (hkeyed : WellKeyed fp (calls ++ [c])) :
    t.find? c.fingerprint c.isKey = (held calls c.key).map (c.key, ·) := by
  rw [hkeyed.fingerprint c (by simp), ← find?_toMap, ← h.lookup_eq,
    ← FingerprintMap.find?_eq_lookup]
  exact List.find?_congr (h.isKey_eq hkeyed)

/-- A call that adds no key may change the value at its own. -/
theorem modify (h : Follows fp calls t) (hkeyed : WellKeyed fp (calls ++ [c])) {change : ν → ν}
    (hleaves : c.request.leaves (held calls c.key) = (held calls c.key).map change)
    (hkeys : insertedKeys (calls ++ [c]) = insertedKeys calls) :
    Follows fp (calls ++ [c]) ⟨(t.toMap.modify c.fingerprint c.isKey change).buckets, t.size⟩ := by
  have hmodify : t.toMap.modify c.fingerprint c.isKey change =
      t.toMap.modify (fp c.key) (· == c.key) change := by
    rw [hkeyed.fingerprint c (by simp)]
    exact FingerprintMap.modify_congr _ _ (h.isKey_eq hkeyed) change
  rw [hmodify]
  refine ⟨h.indexed.modify _ _ _, fun k => ?_, fun f => ?_, hkeys ▸ h.counted⟩
  · rw [held_concat]
    refine (FingerprintMap.lookup_modify t.toMap c.key k change).trans ?_
    rw [h.lookup_eq, h.lookup_eq]
    by_cases hk : c.key = k
    · rw [if_pos hk, if_pos hk.symm, ← hk, hleaves]
    · rw [if_neg hk, if_neg (Ne.symm hk)]
  · rw [hkeys, ← h.keys]
    refine (congrArg _ (FingerprintMap.bucket_modify ..)).trans ?_
    by_cases hf : f = fp c.key
    · rw [if_pos hf, FingerprintMap.map_fst_modifyFirst, hf]
    · rw [if_neg hf]

theorem add (h : Follows fp calls t) (hkeyed : WellKeyed fp (calls ++ [c])) {v : ν}
    (hinsert : c.request.isInsert = true) (hnone : held calls c.key = none)
    (hleaves : c.request.leaves none = some v) :
    Follows fp (calls ++ [c]) ⟨(t.toMap.add c.fingerprint c.key v).buckets, t.size + 1⟩ := by
  have hnew : c.key ∉ insertedKeys calls := by
    rw [← isSome_held_iff, hnone]
    exact nofun
  have hkeys : insertedKeys (calls ++ [c]) = insertedKeys calls ++ [c.key] := by
    rw [insertedKeys_concat, if_pos ⟨hinsert, hnew⟩]
  rw [hkeyed.fingerprint c (by simp)]
  refine ⟨h.indexed.add v ((h.lookup_eq c.key).trans hnone), fun k => ?_, fun f => ?_, ?_⟩
  · rw [held_concat]
    refine (FingerprintMap.lookup_add t.toMap c.key k v).trans ?_
    rw [h.lookup_eq]
    by_cases hk : c.key = k
    · rw [if_pos hk, if_pos hk.symm, ← hk, hnone, hleaves]
      rfl
    · rw [if_neg hk, if_neg (Ne.symm hk), Option.or_none]
  · rw [hkeys, List.filter_append, ← h.keys]
    refine (congrArg _ (FingerprintMap.bucket_add ..)).trans ?_
    by_cases hf : f = fp c.key
    · simp [hf]
    · simp [hf, Ne.symm hf]
  · rw [hkeys, List.length_append, ← h.counted]
    rfl

/-- A call is answered as by a finite map, and the table goes on following the calls. -/
theorem perform (h : Follows fp calls t) (hkeyed : WellKeyed fp (calls ++ [c])) :
    (c.perform t).1 = c.request.answer c.key (held calls c.key) ∧
      Follows fp (calls ++ [c]) (c.perform t).2 := by
  have hfind := h.find?_eq hkeyed
  have hkeys := insertedKeys_concat calls c
  unfold Call.perform
  cases hrequest : c.request with
  | find =>
    rw [hrequest, if_neg (by simp [Request.isInsert])] at hkeys
    refine ⟨congrArg Answer.found hfind, h.indexed, fun k => ?_, fun f => ?_, ?_⟩
    · rw [held_concat, hrequest, h.lookup_eq]
      exact (ite_self _).symm
    · rw [hkeys, h.keys]
    · rw [hkeys, h.counted]
  | modify change =>
    rw [hrequest, if_neg (by simp [Request.isInsert])] at hkeys
    refine ⟨congrArg Answer.changed ?_, h.modify hkeyed (by rw [hrequest]; rfl) hkeys⟩
    change (t.find? c.fingerprint c.isKey).map _ = _
    rw [hfind, Option.map_map]
    rfl
  | insert first change =>
    dsimp only
    rw [findOrInsert_eq, hfind]
    cases hheld : held calls c.key with
    | none =>
      refine ⟨rfl, h.add hkeyed (by rw [hrequest]; rfl) hheld (by rw [hrequest]; rfl)⟩
    | some old =>
      have hmem : c.key ∈ insertedKeys calls := by
        rw [← isSome_held_iff, hheld]
        rfl
      rw [if_neg fun hnew => hnew.2 hmem] at hkeys
      exact ⟨rfl, h.modify hkeyed (by rw [hheld, hrequest]; rfl) hkeys⟩

theorem run (hkeyed : WellKeyed fp calls) : Follows fp calls (FingerprintTable.run calls) := by
  induction calls using List.reverseRecOn with
  | nil => exact .empty
  | append_singleton calls c ih =>
    have hstep : FingerprintTable.run (calls ++ [c]) =
        (c.perform (FingerprintTable.run calls)).2 := by
      unfold FingerprintTable.run
      rw [List.foldl_append]
      rfl
    rw [hstep]
    exact ((ih hkeyed.of_append).perform hkeyed).2

end Follows

/-- Every call is answered as by a finite map, so an insertion is told to be the first one of its
key exactly if it is. In the end each inserted key has one entry, all of them are counted, and
they are listed by fingerprint and then in the order of their first insertions. -/
theorem calls_answered_by_key (fp : κ → Fingerprint) {calls : List (Call κ ν)}
    (h : WellKeyed fp calls) :
    let t := run calls
    (∀ before c after, calls = before ++ c :: after →
      (c.perform (run before)).1 = c.request.answer c.key (held before c.key) ∧
        (held before c.key = none ↔
          ∀ c' ∈ before, c'.request.isInsert = true → c'.key ≠ c.key)) ∧
      (t.toList.map Prod.fst).Nodup ∧
      (∀ k v, (k, v) ∈ t.toList ↔ held calls k = some v) ∧
      (insertedKeys calls).Nodup ∧ t.size = (insertedKeys calls).length ∧
      (t.toList.map Prod.fst).Perm (insertedKeys calls) ∧
      (t.toList.map fun e => fp e.1).Pairwise (· ≤ ·) ∧
      ∀ f, (t.toList.map Prod.fst).filter (fp · = f) =
        (insertedKeys calls).filter (fp · = f) := by
  intro t
  have hfollows : Follows fp calls t := .run h
  have hkeys : ∀ f, (t.toList.map Prod.fst).filter (fp · = f) =
      (insertedKeys calls).filter (fp · = f) := by
    intro f
    rw [← hfollows.keys, ← filter_toList hfollows.indexed, List.filter_map]
    rfl
  have hperm : (t.toList.map Prod.fst).Perm (insertedKeys calls) := by
    rw [List.perm_iff_count]
    intro k
    have hcount := congrArg (List.count k) (hkeys (fp k))
    rwa [List.count_filter (by simp), List.count_filter (by simp)] at hcount
  refine ⟨?_, hfollows.indexed.nodup_keys, fun k v => ?_, ?_, hfollows.counted, hperm,
    fingerprints_ascending hfollows.indexed, hkeys⟩
  · rintro before c after rfl
    rw [List.append_cons] at h
    have hbefore : Follows fp before (run before) := .run h.of_append.of_append
    refine ⟨(hbefore.perform h.of_append).1, ?_⟩
    rw [← Option.not_isSome_iff_eq_none, isSome_held_iff, mem_insertedKeys_iff]
    simp only [not_exists, not_and, ne_eq]
  · rw [← hfollows.lookup_eq]
    exact hfollows.indexed.mem_toList_iff_lookup
  · exact hperm.nodup_iff.1 hfollows.indexed.nodup_keys

/-- Two keys with one fingerprint, the first of which is inserted a second time. -/
def sharedCalls : List (Call String Nat) :=
  [⟨42, "a", (· == "a"), .insert 1 (· + 1)⟩, ⟨42, "b", (· == "b"), .insert 10 id⟩,
    ⟨42, "a", (· == "a"), .insert 0 id⟩, ⟨42, "b", (· == "b"), .find⟩]

theorem sharedCalls_answered :
    WellKeyed (fun _ => 42) sharedCalls ∧
      ((sharedCalls[2].perform (run (sharedCalls.take 2))).1 = .stored 2 false) ∧
      ((sharedCalls[3].perform (run (sharedCalls.take 3))).1 = .found (some ("b", 10))) ∧
      (run sharedCalls).size = 2 ∧ (run sharedCalls).toList.map Prod.fst = ["a", "b"] := by
  have h : WellKeyed (fun _ => 42) sharedCalls := ⟨by decide, by decide⟩
  obtain ⟨hanswers, -, -, -, hsize, -, -, hkeys⟩ := calls_answered_by_key (fun _ => 42) h
  refine ⟨h, ?_, ?_, hsize.trans (by decide), ?_⟩
  · exact (hanswers (sharedCalls.take 2) sharedCalls[2] (sharedCalls.drop 3) rfl).1
  · exact (hanswers (sharedCalls.take 3) sharedCalls[3] [] rfl).1
  · have hall := hkeys 42
    rw [List.filter_eq_self.2 (by simp), List.filter_eq_self.2 (by simp)] at hall
    exact hall

end FingerprintTable

end SeriesQuery
