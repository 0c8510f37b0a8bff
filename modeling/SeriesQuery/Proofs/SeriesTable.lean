import SeriesQuery.Proofs.Series.Buckets

/-!
# Tables of series are finite maps

Whatever is done to a table, its buckets stay ordered and without gaps and its entries stay
counted. It answers as a finite map on which the same was done, and its entries are those of that
map in the same order. Tables are therefore equal if they hold equal values.
-/

open Std

namespace SeriesQuery.SeriesTable

open SortedMap (lookup alterEntries)

variable {ν μ : Type}

/-- No bucket is empty, every bucket holds entries of its fingerprint in order of their labels,
and all entries are counted. -/
structure WellFormed (t : SeriesTable ν) : Prop where
  nonempty : ∀ fp entries, t.buckets.get? fp = some entries → entries ≠ []
  bucketed : ∀ fp entries, t.buckets.get? fp = some entries → Bucketed fp entries
  counted : t.size = t.toList.length

theorem length_toList (t : SeriesTable ν) :
    t.toList.length = (t.buckets.toList.map fun e => e.2.length).sum := List.length_flatMap

theorem mem_toList_iff_bucket {t : SeriesTable ν} {e : Metric × ν} :
    e ∈ t.toList ↔ ∃ fp entries, t.buckets.get? fp = some entries ∧ e ∈ entries := by
  unfold toList
  rw [List.mem_flatMap]
  constructor
  · rintro ⟨⟨fp, entries⟩, hmem, he⟩
    exact ⟨fp, entries, SortedMap.get?_eq_some_iff.2 hmem, he⟩
  · rintro ⟨fp, entries, hget, he⟩
    exact ⟨(fp, entries), SortedMap.get?_eq_some_iff.1 hget, he⟩

theorem bucket_withBucket (t : SeriesTable ν) (fp fp' : Fingerprint)
    (entries : List (Metric × ν)) (size : Nat) :
    (t.withBucket fp entries size).bucket fp' = if fp' = fp then entries else t.bucket fp' := by
  unfold withBucket bucket
  rw [SortedMap.get?_alter]
  by_cases hfp : fp' = fp
  · rw [if_pos hfp, if_pos hfp]
    cases entries <;> rfl
  · rw [if_neg hfp, if_neg hfp]

theorem length_toList_withBucket (t : SeriesTable ν) (fp : Fingerprint)
    (entries : List (Metric × ν)) (size : Nat) :
    (t.withBucket fp entries size).toList.length + (t.bucket fp).length =
      t.toList.length + entries.length := by
  have hsum := SortedMap.sum_alterEntries List.length fp
    (fun _ => if entries.isEmpty then none else some entries) t.buckets.toList
  have hold : ((lookup fp t.buckets.toList).map List.length).getD 0 = (t.bucket fp).length := by
    unfold bucket SortedMap.get?
    cases lookup fp t.buckets.toList <;> rfl
  have hnew : ((if entries.isEmpty then none else some entries).map List.length).getD 0 =
      entries.length := by
    cases entries <;> rfl
  rw [hold, hnew] at hsum
  rw [length_toList, length_toList]
  exact hsum

/-- The table with a bucket changed at one key, as an ascending list is changed there. -/
def alterAt (t : SeriesTable ν) (m : Metric) (f : Option ν → Option ν) (size : Nat) :
    SeriesTable ν :=
  t.withBucket m.fingerprint (alterEntries m f (t.bucket m.fingerprint)) size

namespace WellFormed

variable {t : SeriesTable ν}

protected theorem empty : WellFormed (SeriesTable.empty : SeriesTable ν) := ⟨nofun, nofun, rfl⟩

theorem bucketed_bucket (h : t.WellFormed) (fp : Fingerprint) : Bucketed fp (t.bucket fp) := by
  unfold bucket
  cases hget : t.buckets.get? fp with
  | none => exact ⟨nofun, .nil⟩
  | some entries => exact h.bucketed fp entries hget

theorem get?_eq_lookup (h : t.WellFormed) (m : Metric) :
    t.get? m = lookup m (t.bucket m.fingerprint) :=
  SortedMap.find?_eq_lookup (h.bucketed_bucket m.fingerprint).ascending_compare m

theorem mem_toList_iff (h : t.WellFormed) {m : Metric} {v : ν} :
    (m, v) ∈ t.toList ↔ t.get? m = some v := by
  rw [h.get?_eq_lookup, mem_toList_iff_bucket,
    SortedMap.lookup_eq_some_iff (h.bucketed_bucket m.fingerprint).ascending_compare]
  constructor
  · rintro ⟨fp, entries, hget, he⟩
    obtain rfl : m.fingerprint = fp := (h.bucketed fp entries hget).fingerprint _ he
    unfold bucket
    rw [hget]
    exact he
  · intro he
    unfold bucket at he
    cases hget : t.buckets.get? m.fingerprint with
    | none =>
      rw [hget] at he
      cases he
    | some entries =>
      rw [hget] at he
      exact ⟨m.fingerprint, entries, hget, he⟩

theorem ascending_toList (h : t.WellFormed) :
    t.toList.Pairwise fun a b => compare a.1 b.1 = .lt := by
  have hbucketed : ∀ e ∈ t.buckets.toList, Bucketed e.1 e.2 := fun e he =>
    h.bucketed e.1 e.2 (SortedMap.get?_eq_some_iff.2 he)
  unfold toList
  rw [List.pairwise_flatMap]
  refine ⟨fun e he => (hbucketed e he).ascending_compare, ?_⟩
  refine List.Pairwise.imp_of_mem (fun {a b} ha hb hab => ?_) t.buckets.ascending
  intro x hx y hy
  have hlt : compare x.1.fingerprint y.1.fingerprint = .lt := by
    rw [(hbucketed a ha).fingerprint x hx, (hbucketed b hb).fingerprint y hy]
    exact hab
  change (compare x.1.fingerprint y.1.fingerprint).then (Metric.compareLabels x.1 y.1) = .lt
  rw [hlt]
  rfl

theorem get?_alterAt (h : t.WellFormed) (m m' : Metric) (f : Option ν → Option ν) (size : Nat) :
    (t.alterAt m f size).get? m' = if m' = m then f (t.get? m) else t.get? m' := by
  have hbucket := h.bucketed_bucket m.fingerprint
  rw [h.get?_eq_lookup m]
  unfold alterAt get?
  rw [bucket_withBucket]
  by_cases hfp : m'.fingerprint = m.fingerprint
  · rw [if_pos hfp, SortedMap.find?_eq_lookup (hbucket.alterEntries f).ascending_compare,
      SortedMap.lookup_alterEntries hbucket.ascending_compare, hfp,
      SortedMap.find?_eq_lookup hbucket.ascending_compare]
  · have hm : m' ≠ m := fun hm => hfp (congrArg Metric.fingerprint hm)
    rw [if_neg hfp, if_neg hm]

/-- A change at one key keeps a table well-formed if it is counted. -/
theorem alterAt (h : t.WellFormed) {m : Metric} {f : Option ν → Option ν} {size : Nat}
    (hsize : size + (t.get? m).toList.length = t.size + (f (t.get? m)).toList.length) :
    (t.alterAt m f size).WellFormed := by
  have hbucket := h.bucketed_bucket m.fingerprint
  have hget (fp : Fingerprint) (entries : List (Metric × ν)) :
      (t.alterAt m f size).buckets.get? fp = some entries →
        entries ≠ [] ∧ Bucketed fp entries := by
    unfold SeriesTable.alterAt withBucket
    rw [SortedMap.get?_alter]
    intro hget
    by_cases hfp : fp = m.fingerprint
    · rw [if_pos hfp] at hget
      split at hget
      · cases hget
      · next hsome =>
        cases hget
        exact ⟨by simpa using hsome, hfp ▸ hbucket.alterEntries f⟩
    · rw [if_neg hfp] at hget
      exact ⟨h.nonempty fp entries hget, h.bucketed fp entries hget⟩
  refine ⟨fun fp entries hentries => (hget fp entries hentries).1,
    fun fp entries hentries => (hget fp entries hentries).2, ?_⟩
  have hlength := length_toList_withBucket t m.fingerprint
    (alterEntries m f (t.bucket m.fingerprint)) size
  have hbucketLength := SortedMap.length_alterEntries m f (t.bucket m.fingerprint)
  rw [← h.get?_eq_lookup] at hbucketLength
  have hcounted := h.counted
  change size = (t.withBucket m.fingerprint _ size).toList.length
  omega

end WellFormed

theorem write_eq {t : SeriesTable ν} (h : t.WellFormed) (m : Metric) (value : Option ν → ν) :
    t.write m value = (t.get? m, t.alterAt m (fun old => some (value old))
      (t.size + if (t.get? m).isSome then 0 else 1)) := by
  have hbucket := h.bucketed_bucket m.fingerprint
  rw [h.get?_eq_lookup]
  unfold write alterAt
  generalize t.bucket m.fingerprint = entries at hbucket
  rcases search_spec hbucket with ⟨before, v, after, rfl, hsearch⟩ |
    ⟨before, after, rfl, hbefore, hafter, hsearch⟩
  · dsimp only
    rw [hsearch, lookup_present hbucket, alterEntries_present hbucket]
    dsimp only
    rw [getElem?_at_length, modify_at_length]
    rfl
  · dsimp only
    have hnone : lookup m (before ++ after) = none := by
      rw [SortedMap.lookup_append hbefore]
      exact SortedMap.lookup_eq_none_of_forall_lt hafter
    rw [hsearch, hnone, SortedMap.alterEntries_append hbefore,
      SortedMap.alterEntries_absent hafter]
    dsimp only
    rw [insertIdx_at_length]
    rfl

theorem modify_eq {t : SeriesTable ν} (h : t.WellFormed) (m : Metric) (change : ν → ν) :
    t.modify m change = ((t.get? m).map change, t.alterAt m (Option.map change) t.size) := by
  unfold modify alterAt
  rw [modifyFirst_eq_alterEntries (h.bucketed_bucket m.fingerprint).ascending_compare]

theorem remove_of_none {t : SeriesTable ν} (h : t.WellFormed) {m : Metric}
    (hnone : t.get? m = none) : t.remove m = (none, t) := by
  have hbucket := h.bucketed_bucket m.fingerprint
  rw [h.get?_eq_lookup] at hnone
  unfold remove
  rcases findIdx?_spec hbucket with ⟨before, v, after, hentries, -⟩ | ⟨-, hfound⟩
  · rw [hentries] at hbucket hnone
    rw [lookup_present hbucket] at hnone
    cases hnone
  · dsimp only
    rw [hfound]

theorem remove_of_some {t : SeriesTable ν} (h : t.WellFormed) {m : Metric} {v : ν}
    (hsome : t.get? m = some v) :
    t.remove m = (some v, t.alterAt m (fun _ => none) (t.size - 1)) := by
  have hbucket := h.bucketed_bucket m.fingerprint
  rw [h.get?_eq_lookup] at hsome
  unfold remove alterAt
  generalize t.bucket m.fingerprint = entries at hbucket hsome
  rcases findIdx?_spec hbucket with ⟨before, v', after, rfl, hfound⟩ | ⟨hnone, -⟩
  · dsimp only
    rw [lookup_present hbucket] at hsome
    rw [hfound, alterEntries_present hbucket]
    dsimp only
    rw [getElem?_at_length, eraseIdx_at_length, ← hsome]
    rfl
  · rw [hnone] at hsome
    cases hsome

section Retaining

variable {entries : List (Metric × ν)} {fp : Fingerprint}

theorem retainIn_eq (h : Bucketed fp entries) (keep : Metric → ν → Option μ) :
    retainIn keep entries =
      ((⟨entries, h.ascending_compare⟩ : SeriesMap ν).filterMap keep).toList := rfl

theorem lookup_retainIn (h : Bucketed fp entries) (keep : Metric → ν → Option μ) (m : Metric) :
    lookup m (retainIn keep entries) = (lookup m entries).bind (keep m) :=
  SortedMap.get?_filterMap ⟨entries, h.ascending_compare⟩ keep m

theorem bucketed_retainIn (h : Bucketed fp entries) (keep : Metric → ν → Option μ) :
    Bucketed fp (retainIn keep entries) := by
  refine .of_ascending_compare (fun e he => ?_) ?_
  · obtain ⟨e', he', hkept⟩ := List.mem_filterMap.1 he
    obtain ⟨v, -, rfl⟩ := Option.map_eq_some_iff.1 hkept
    exact h.fingerprint e' he'
  · rw [retainIn_eq h]
    exact SortedMap.ascending _

theorem get?_of_bucket_retainIn {t : SeriesTable ν} {t' : SeriesTable μ} (h : t.WellFormed)
    {keep : Metric → ν → Option μ}
    (hbucket : ∀ fp, t'.bucket fp = retainIn keep (t.bucket fp)) (m : Metric) :
    t'.get? m = (t.get? m).bind (keep m) := by
  have hbucketed := h.bucketed_bucket m.fingerprint
  rw [h.get?_eq_lookup, ← lookup_retainIn hbucketed keep]
  unfold get?
  rw [hbucket]
  exact SortedMap.find?_eq_lookup (bucketed_retainIn hbucketed keep).ascending_compare m

end Retaining

theorem bucket_retain (t : SeriesTable ν) (keep : Metric → ν → Option ν) (fp : Fingerprint) :
    (t.retain keep).bucket fp = retainIn keep (t.bucket fp) := by
  unfold retain bucket
  dsimp only
  rw [SortedMap.get?_filterMap]
  cases t.buckets.get? fp with
  | none => rfl
  | some entries =>
    rw [Option.bind_some, Option.getD_some]
    cases retainIn keep entries <;> rfl

theorem retainIn_some (f : Metric → ν → μ) (entries : List (Metric × ν)) :
    retainIn (fun m v => some (f m v)) entries = entries.map fun e => (e.1, f e.1 e.2) := by
  unfold retainIn
  simp only [Option.map_some]
  exact congrFun List.filterMap_eq_map entries

theorem bucket_mapValues (t : SeriesTable ν) (f : Metric → ν → μ) (fp : Fingerprint) :
    (t.mapValues f).bucket fp = retainIn (fun m v => some (f m v)) (t.bucket fp) := by
  rw [retainIn_some]
  unfold mapValues bucket
  dsimp only
  rw [SortedMap.get?_mapValues]
  cases t.buckets.get? fp <;> rfl

theorem sum_retained (keep : Metric → ν → Option ν) (l : List (Fingerprint × List (Metric × ν))) :
    ((l.filterMap fun e => (if (retainIn keep e.2).isEmpty then none else
          some (retainIn keep e.2)).map (e.1, ·)).map fun e => e.2.length).sum +
        (l.map fun e => e.2.length - (retainIn keep e.2).length).sum =
      (l.map fun e => e.2.length).sum := by
  induction l with
  | nil => rfl
  | cons e rest ih =>
    have hle : (retainIn keep e.2).length ≤ e.2.length := List.length_filterMap_le _ _
    rw [List.map_cons, List.sum_cons, List.map_cons, List.sum_cons]
    by_cases hnone : (retainIn keep e.2).isEmpty = true
    · have hlength : (retainIn keep e.2).length = 0 := by simpa using hnone
      rw [List.filterMap_cons_none (by rw [if_pos hnone]; rfl)]
      omega
    · rw [List.filterMap_cons_some (by rw [if_neg hnone]; rfl), List.map_cons, List.sum_cons]
      dsimp only
      omega

namespace WellFormed

variable {t : SeriesTable ν}

theorem retain (h : t.WellFormed) (keep : Metric → ν → Option ν) : (t.retain keep).WellFormed := by
  have hget (fp : Fingerprint) (entries : List (Metric × ν)) :
      (t.retain keep).buckets.get? fp = some entries → entries ≠ [] ∧ Bucketed fp entries := by
    unfold SeriesTable.retain
    dsimp only
    rw [SortedMap.get?_filterMap, Option.bind_eq_some_iff]
    rintro ⟨before, hbefore, hkept⟩
    split at hkept
    · cases hkept
    · next hsome =>
      cases hkept
      exact ⟨by simpa using hsome, bucketed_retainIn (h.bucketed fp before hbefore) keep⟩
  refine ⟨fun fp entries hentries => (hget fp entries hentries).1,
    fun fp entries hentries => (hget fp entries hentries).2, ?_⟩
  have hsum := sum_retained keep t.buckets.toList
  have hcounted := h.counted
  rw [length_toList] at hcounted ⊢
  unfold SeriesTable.retain SortedMap.filterMap SortedMap.values
  dsimp only
  rw [List.map_map]
  change t.size - (t.buckets.toList.map fun e => e.2.length - (retainIn keep e.2).length).sum = _
  omega

theorem mapValues (h : t.WellFormed) (f : Metric → ν → μ) : (t.mapValues f).WellFormed := by
  have hget (fp : Fingerprint) (entries : List (Metric × μ)) :
      (t.mapValues f).buckets.get? fp = some entries → entries ≠ [] ∧ Bucketed fp entries := by
    unfold SeriesTable.mapValues
    dsimp only
    rw [SortedMap.get?_mapValues, Option.map_eq_some_iff]
    rintro ⟨before, hbefore, rfl⟩
    refine ⟨by simpa using h.nonempty fp before hbefore, ?_⟩
    rw [← retainIn_some]
    exact bucketed_retainIn (h.bucketed fp before hbefore) _
  refine ⟨fun fp entries hentries => (hget fp entries hentries).1,
    fun fp entries hentries => (hget fp entries hentries).2, ?_⟩
  have hcounted := h.counted
  rw [length_toList] at hcounted ⊢
  unfold SeriesTable.mapValues SortedMap.mapValues
  dsimp only
  rw [List.map_map, hcounted]
  simp only [Function.comp_def, List.length_map]

end WellFormed

/-- A well-formed table answers as a finite map. -/
structure Represents (t : SeriesTable ν) (r : SeriesMap ν) : Prop where
  wellFormed : t.WellFormed
  get?_eq : ∀ m, t.get? m = r.get? m

namespace Represents

variable {t : SeriesTable ν} {r : SeriesMap ν}

protected theorem empty : Represents (SeriesTable.empty : SeriesTable ν) .empty :=
  ⟨.empty, fun _ => rfl⟩

theorem toList_eq (h : Represents t r) : t.toList = r.toList := by
  refine SortedMap.eq_of_mem_iff h.wellFormed.ascending_toList r.ascending fun ⟨m, v⟩ => ?_
  rw [h.wellFormed.mem_toList_iff, h.get?_eq, SortedMap.get?_eq_some_iff]

theorem alterAt (h : Represents t r) {m : Metric} {f : Option ν → Option ν} {size : Nat}
    (hsize : size + (t.get? m).toList.length = t.size + (f (t.get? m)).toList.length) :
    Represents (t.alterAt m f size) (r.alter m f) := by
  refine ⟨h.wellFormed.alterAt hsize, fun m' => ?_⟩
  rw [h.wellFormed.get?_alterAt, SortedMap.get?_alter, h.get?_eq, h.get?_eq]

theorem write (h : Represents t r) (m : Metric) (value : Option ν → ν) :
    (t.write m value).1 = r.get? m ∧
      Represents (t.write m value).2 (r.alter m fun old => some (value old)) := by
  rw [write_eq h.wellFormed]
  refine ⟨h.get?_eq m, h.alterAt ?_⟩
  cases t.get? m with
  | none => rfl
  | some v => rfl

theorem modify (h : Represents t r) (m : Metric) (change : ν → ν) :
    (t.modify m change).1 = (r.get? m).map change ∧
      Represents (t.modify m change).2 (r.modify m change) := by
  rw [modify_eq h.wellFormed]
  refine ⟨congrArg (Option.map change) (h.get?_eq m), h.alterAt ?_⟩
  cases t.get? m with
  | none => rfl
  | some v => rfl

theorem remove (h : Represents t r) (m : Metric) :
    (t.remove m).1 = r.get? m ∧ Represents (t.remove m).2 (r.erase m) := by
  rw [← h.get?_eq]
  cases hget : t.get? m with
  | none =>
    rw [remove_of_none h.wellFormed hget]
    refine ⟨rfl, h.wellFormed, fun m' => ?_⟩
    rw [SortedMap.get?_erase, ← h.get?_eq]
    by_cases hm : m' = m
    · rw [if_pos hm, hm, hget]
    · rw [if_neg hm]
  | some v =>
    rw [remove_of_some h.wellFormed hget]
    refine ⟨rfl, h.alterAt ?_⟩
    have hmem : (m, v) ∈ t.toList := h.wellFormed.mem_toList_iff.2 hget
    have hpos : 0 < t.toList.length := List.length_pos_of_mem hmem
    have hcounted := h.wellFormed.counted
    rw [hget]
    change t.size - 1 + 1 = t.size + 0
    omega

theorem retain (h : Represents t r) (keep : Metric → ν → Option ν) :
    Represents (t.retain keep) (r.filterMap keep) := by
  refine ⟨h.wellFormed.retain keep, fun m => ?_⟩
  rw [get?_of_bucket_retainIn h.wellFormed (bucket_retain t keep), h.get?_eq,
    SortedMap.get?_filterMap]

theorem mapValues (h : Represents t r) (f : Metric → ν → μ) :
    Represents (t.mapValues f) (r.mapValues f) := by
  refine ⟨h.wellFormed.mapValues f, fun m => ?_⟩
  rw [get?_of_bucket_retainIn h.wellFormed (bucket_mapValues t f), h.get?_eq,
    SortedMap.get?_mapValues]
  cases r.get? m <;> rfl

theorem insertAll (h : Represents t r) (entries : List (Metric × ν)) :
    Represents (t.insertAll entries) (r.insertAll entries) := by
  induction entries generalizing t r with
  | nil => exact h
  | cons e rest ih => exact ih (h.write e.1 fun _ => e.2).2

theorem ofList (entries : List (Metric × ν)) :
    Represents (SeriesTable.ofList entries) (SortedMap.ofList entries) :=
  Represents.empty.insertAll entries

end Represents

namespace WellFormed

variable {t t' : SeriesTable ν}

theorem lookup_toList (h : t.WellFormed) (m : Metric) : lookup m t.toList = t.get? m := by
  apply Option.ext
  intro v
  rw [SortedMap.lookup_eq_some_iff h.ascending_toList, h.mem_toList_iff]

variable [BEq ν]

/-- Buckets are the same if they hold equal entries, since none of them is empty. -/
theorem beq_get?_buckets (h : t.WellFormed) (h' : t'.WellFormed) {fp : Fingerprint} :
    (t.buckets.get? fp == t'.buckets.get? fp) = true ↔ (t.bucket fp == t'.bucket fp) = true := by
  have hnonempty := h.nonempty fp
  have hnonempty' := h'.nonempty fp
  unfold bucket
  cases hget : t.buckets.get? fp with
  | none =>
    cases hget' : t'.buckets.get? fp with
    | none => exact iff_of_true rfl rfl
    | some entries' =>
      refine iff_of_false (by simp) ?_
      simpa using hnonempty' entries' hget'
  | some entries =>
    cases hget' : t'.buckets.get? fp with
    | none =>
      refine iff_of_false (by simp) ?_
      simpa using hnonempty entries hget
    | some entries' => rfl

/-- Tables are equal if they hold equal values of the same series. -/
theorem beq_iff (h : t.WellFormed) (h' : t'.WellFormed) :
    (t == t') = true ↔ ∀ m, (t.get? m == t'.get? m) = true := by
  have hbuckets : (t.buckets.toList == t'.buckets.toList) = true ↔
      ∀ fp, (t.buckets.get? fp == t'.buckets.get? fp) = true :=
    SortedMap.beq_iff_lookup_beq t.buckets.ascending t'.buckets.ascending
  have hbucket (fp : Fingerprint) : (t.bucket fp == t'.bucket fp) = true ↔
      ∀ m, (lookup m (t.bucket fp) == lookup m (t'.bucket fp)) = true :=
    SortedMap.beq_iff_lookup_beq (h.bucketed_bucket fp).ascending_compare
      (h'.bucketed_bucket fp).ascending_compare
  have hentries : (t.toList == t'.toList) = true ↔
      ∀ m, (lookup m t.toList == lookup m t'.toList) = true :=
    SortedMap.beq_iff_lookup_beq h.ascending_toList h'.ascending_toList
  change (t.buckets.toList == t'.buckets.toList && t.size == t'.size) = true ↔ _
  rw [Bool.and_eq_true, hbuckets]
  constructor
  · rintro ⟨hall, -⟩ m
    rw [h.get?_eq_lookup, h'.get?_eq_lookup]
    exact (hbucket m.fingerprint).1 ((h.beq_get?_buckets h').1 (hall m.fingerprint)) m
  · intro hall
    constructor
    · intro fp
      refine (h.beq_get?_buckets h').2 ((hbucket fp).2 fun m => ?_)
      by_cases hfp : m.fingerprint = fp
      · subst hfp
        rw [← h.get?_eq_lookup, ← h'.get?_eq_lookup]
        exact hall m
      · rw [(h.bucketed_bucket fp).lookup_eq_none hfp, (h'.bucketed_bucket fp).lookup_eq_none hfp]
        rfl
    · have hlists : (t.toList == t'.toList) = true := by
        refine hentries.2 fun m => ?_
        rw [h.lookup_toList, h'.lookup_toList]
        exact hall m
      rw [h.counted, h'.counted, beq_iff_eq]
      exact List.length_eq_of_beq hlists

end WellFormed

inductive Operation (ν : Type)
  | insert (m : Metric) (v : ν)
  | getOrInsert (m : Metric) (first : ν) (change : ν → ν)
  | modify (m : Metric) (change : ν → ν)
  | remove (m : Metric)
  | retain (keep : Metric → ν → Option ν)
  | insertAll (entries : List (Metric × ν))

/-- A sequence of operations on a table, some of which may build another table from its entries. -/
inductive Script : Type → Type → Type 1
  | done {ν : Type} : Script ν ν
  | perform {ν μ : Type} (op : Operation ν) (rest : Script ν μ) : Script ν μ
  | mapValues {ν κ μ : Type} (f : Metric → ν → κ) (rest : Script κ μ) : Script ν μ
  | collect {ν κ μ : Type} (f : List (Metric × ν) → List (Metric × κ)) (rest : Script κ μ) :
      Script ν μ

namespace Operation

/-- The value that an operation on a table returns, if any, and the table after it. -/
def perform (t : SeriesTable ν) : Operation ν → Option ν × SeriesTable ν
  | insert m v => t.insert m v
  | getOrInsert m first change =>
    (some (t.getOrInsert m first change).1, (t.getOrInsert m first change).2)
  | modify m change => t.modify m change
  | remove m => t.remove m
  | retain keep => (none, t.retain keep)
  | insertAll entries => (none, t.insertAll entries)

def performOnMap (r : SeriesMap ν) : Operation ν → Option ν × SeriesMap ν
  | insert m v => (r.get? m, r.insert m v)
  | getOrInsert m first change =>
    (some (change ((r.get? m).getD first)), r.alter m fun old => some (change (old.getD first)))
  | modify m change => ((r.get? m).map change, r.modify m change)
  | remove m => (r.get? m, r.erase m)
  | retain keep => (none, r.filterMap keep)
  | insertAll entries => (none, r.insertAll entries)

end Operation

namespace Script

def run {ν μ : Type} (t : SeriesTable ν) : Script ν μ → SeriesTable μ
  | done => t
  | perform op rest => rest.run (op.perform t).2
  | mapValues f rest => rest.run (t.mapValues f)
  | collect f rest => rest.run (SeriesTable.ofList (f t.toList))

def runOnMap {ν μ : Type} (r : SeriesMap ν) : Script ν μ → SeriesMap μ
  | done => r
  | perform op rest => rest.runOnMap (op.performOnMap r).2
  | mapValues f rest => rest.runOnMap (r.mapValues f)
  | collect f rest => rest.runOnMap (SortedMap.ofList (f r.toList))

end Script

namespace Represents

theorem perform {t : SeriesTable ν} {r : SeriesMap ν} (h : Represents t r) (op : Operation ν) :
    (op.perform t).1 = (op.performOnMap r).1 ∧
      Represents (op.perform t).2 (op.performOnMap r).2 := by
  cases op with
  | insert m v => exact h.write m fun _ => v
  | getOrInsert m first change =>
    have hwrite := h.write m fun old => change (old.getD first)
    have hreturned : (t.getOrInsert m first change).1 =
        change ((t.write m fun old => change (old.getD first)).1.getD first) := rfl
    refine ⟨congrArg some ?_, hwrite.2⟩
    rw [hreturned, hwrite.1]
  | modify m change => exact h.modify m change
  | remove m => exact h.remove m
  | retain keep => exact ⟨rfl, h.retain keep⟩
  | insertAll entries => exact ⟨rfl, h.insertAll entries⟩

theorem run {t : SeriesTable ν} {r : SeriesMap ν} (h : Represents t r) (script : Script ν μ) :
    Represents (script.run t) (script.runOnMap r) := by
  induction script with
  | done => exact h
  | perform op rest ih => exact ih (h.perform op).2
  | mapValues f rest ih => exact ih (h.mapValues f)
  | collect f rest ih =>
    refine ih ?_
    rw [h.toList_eq]
    exact .ofList _

end Represents

/-- After any script a table is well-formed, answers what a finite map answers after the same
script, and lists each entry once in order of metrics. It equals another one exactly if both hold
equal entries, however they were built. -/
theorem canonical_finite_map [BEq μ] (script : Script ν μ) :
    let t := script.run (empty : SeriesTable ν)
    let r := script.runOnMap (SortedMap.empty : SeriesMap ν)
    t.WellFormed ∧
      (∀ op : Operation μ, (op.perform t).1 = (op.performOnMap r).1) ∧
      (∀ m, t.get? m = r.get? m ∧ t.contains m = r.contains m) ∧
      t.size = t.toList.length ∧ t.isEmpty = t.toList.isEmpty ∧
      (t.toList.Pairwise fun a b => compare a.1 b.1 = .lt) ∧
      (∀ m v, (m, v) ∈ t.toList ↔ t.get? m = some v) ∧ t.toList = r.toList ∧
      ∀ {κ : Type} (script' : Script κ μ), (t == script'.run (empty : SeriesTable κ)) = true ↔
        ∀ m, (t.get? m == (script'.run (empty : SeriesTable κ)).get? m) = true := by
  intro t r
  have h : Represents t r := Represents.empty.run script
  refine ⟨h.wellFormed, fun op => (h.perform op).1, fun m => ⟨h.get?_eq m, ?_⟩,
    h.wellFormed.counted, ?_, h.wellFormed.ascending_toList,
    fun m v => h.wellFormed.mem_toList_iff, h.toList_eq, fun script' => ?_⟩
  · exact congrArg Option.isSome (h.get?_eq m)
  · unfold isEmpty
    rw [h.wellFormed.counted]
    cases t.toList <;> rfl
  · have h' := Represents.empty.run script'
    exact h.wellFormed.beq_iff h'.wellFormed

/-- Two label sets with one fingerprint share a bucket and stay apart in it. -/
def colliding : SeriesTable Nat :=
  let names := ["a", "b", "c", "d", "e", "f", "g", "h"]
  let values := ["64956", "32630", "18936", "19676", "28399", "27488", "34502", "13000"]
  ofList [(.ofPairs (names.zip values), 2), (.ofPairs (names.map (·, "0")), 1)]

example : colliding.buckets.size = 1 ∧ colliding.values = [1, 2] := by decide +kernel

end SeriesQuery.SeriesTable
