import Mathlib.Algebra.GroupWithZero.Nat
import SeriesQuery.Proofs.Samples.Partition
import SeriesQuery.Proofs.Series.Entries
import SeriesQuery.SeriesTable

/-!
# Buckets of series

A bucket is an ascending list of entries that share a fingerprint. Whatever is done to it by
position, after halving or after going through it, changes it as an ascending list is changed at a
key.
-/

open Std

namespace SeriesQuery

namespace SortedMap

variable {κ ν : Type} [Ord κ]

theorem sum_alterEntries (w : ν → Nat) (k : κ) (f : Option ν → Option ν) (l : List (κ × ν)) :
    ((alterEntries k f l).map fun e => w e.2).sum + ((lookup k l).map w).getD 0 =
      (l.map fun e => w e.2).sum + ((f (lookup k l)).map w).getD 0 := by
  have hcons (k' : κ) (v : Option ν) (rest : List (κ × ν)) :
      ((consIfSome k' v rest).map fun e => w e.2).sum =
        (v.map w).getD 0 + (rest.map fun e => w e.2).sum := by
    cases v with
    | none => exact (Nat.zero_add _).symm
    | some v => rfl
  induction l with
  | nil =>
    unfold alterEntries lookup
    rw [hcons, Nat.add_comm]
    rfl
  | cons head rest ih =>
    obtain ⟨k', v⟩ := head
    unfold alterEntries lookup
    cases compare k k' with
    | lt =>
      dsimp only
      rw [hcons, Option.map_none, Option.getD_none]
      omega
    | eq =>
      dsimp only
      rw [hcons, List.map_cons, List.sum_cons, Option.map_some, Option.getD_some]
      dsimp only
      omega
    | gt =>
      dsimp only
      rw [List.map_cons, List.sum_cons, List.map_cons, List.sum_cons]
      omega

theorem length_alterEntries (k : κ) (f : Option ν → Option ν) (l : List (κ × ν)) :
    (alterEntries k f l).length + (lookup k l).toList.length =
      l.length + (f (lookup k l)).toList.length := by
  have hcount (o : Option ν) : (o.map fun _ => 1).getD 0 = o.toList.length := by cases o <;> rfl
  have hsum := sum_alterEntries (fun _ => 1) k f l
  simpa only [List.map_const', List.sum_replicate_nat, Nat.mul_one, hcount] using hsum

variable [TransOrd κ] [LawfulEqOrd κ]

omit [LawfulEqOrd κ] in
theorem alterEntries_append {k : κ} {f : Option ν → Option ν} {before : List (κ × ν)}
    (h : ∀ e ∈ before, compare e.1 k = .lt) (rest : List (κ × ν)) :
    alterEntries k f (before ++ rest) = before ++ alterEntries k f rest := by
  induction before with
  | nil => rfl
  | cons e before ih =>
    have hgt : compare k e.1 = .gt := OrientedCmp.gt_iff_lt.2 (h e (.head _))
    rw [List.cons_append, List.cons_append, ← ih fun e' he' => h e' (.tail _ he')]
    obtain ⟨k', v⟩ := e
    simp only [alterEntries, hgt]

omit [LawfulEqOrd κ] in
theorem lookup_append {k : κ} {before : List (κ × ν)} (h : ∀ e ∈ before, compare e.1 k = .lt)
    (rest : List (κ × ν)) : lookup k (before ++ rest) = lookup k rest := by
  induction before with
  | nil => rfl
  | cons e before ih =>
    have hgt : compare k e.1 = .gt := OrientedCmp.gt_iff_lt.2 (h e (.head _))
    rw [List.cons_append, ← ih fun e' he' => h e' (.tail _ he')]
    obtain ⟨k', v⟩ := e
    simp only [lookup, hgt]

omit [LawfulEqOrd κ] in
theorem alterEntries_present (k : κ) (f : Option ν → Option ν) (v : ν) (after : List (κ × ν)) :
    alterEntries k f ((k, v) :: after) = consIfSome k (f (some v)) after := by
  simp only [alterEntries, ReflCmp.compare_self]

omit [TransOrd κ] [LawfulEqOrd κ] in
theorem alterEntries_absent {k : κ} {after : List (κ × ν)} (h : ∀ e ∈ after, compare k e.1 = .lt)
    (f : Option ν → Option ν) : alterEntries k f after = consIfSome k (f none) after := by
  cases after with
  | nil => rfl
  | cons e rest =>
    obtain ⟨k', v⟩ := e
    simp only [alterEntries, h (k', v) (.head _)]

/-- In an ascending list, the first entry with a key is what the list holds there. -/
theorem find?_eq_lookup [DecidableEq κ] {l : List (κ × ν)}
    (h : l.Pairwise fun a b => compare a.1 b.1 = .lt) (k : κ) :
    (l.find? (·.1 == k)).map Prod.snd = lookup k l := by
  apply Option.ext
  intro v
  rw [lookup_eq_some_iff h, Option.map_eq_some_iff]
  constructor
  · rintro ⟨e, he, rfl⟩
    have hk : e.1 = k := by simpa using List.find?_some he
    exact hk ▸ List.mem_of_find?_eq_some he
  · intro hmem
    cases hfound : l.find? (·.1 == k) with
    | none => simpa using List.find?_eq_none.1 hfound _ hmem
    | some e =>
      have hk : e.1 = k := by simpa using List.find?_some hfound
      have he : (k, e.2) ∈ l := hk ▸ List.mem_of_find?_eq_some hfound
      refine ⟨e, rfl, ?_⟩
      rw [← lookup_eq_some_iff h] at hmem he
      exact Option.some.inj (he.symm.trans hmem)

theorem lookup_of_cons {k : κ} {v : ν} {rest : List (κ × ν)}
    (h : ((k, v) :: rest).Pairwise fun a b => compare a.1 b.1 = .lt) (k' : κ) :
    lookup k' rest = if compare k' k = .eq then none else lookup k' ((k, v) :: rest) := by
  have hrest : ∀ e ∈ rest, compare k e.1 = .lt := fun _ => List.rel_of_pairwise_cons h
  cases hk : compare k' k with
  | lt =>
    have hnone : lookup k' ((k, v) :: rest) = none := by simp only [lookup, hk]
    rw [if_neg (by decide), hnone]
    exact lookup_eq_none_of_forall_lt fun e he => TransCmp.lt_trans hk (hrest e he)
  | eq =>
    obtain rfl := LawfulEqCmp.eq_of_compare hk
    exact lookup_eq_none_of_forall_lt hrest
  | gt =>
    have hsame : lookup k' ((k, v) :: rest) = lookup k' rest := by simp only [lookup, hk]
    rw [if_neg (by decide), hsame]

omit [TransOrd κ] in
theorem lookup_cons_self (k : κ) (v : ν) (rest : List (κ × ν)) :
    lookup k ((k, v) :: rest) = some v := by
  simp [lookup, ReflCmp.compare_self]

/-- Lists that find the same begin with the same key. -/
theorem head_eq_of_lookup_beq [BEq ν] {k k' : κ} {v v' : ν} {rest rest' : List (κ × ν)}
    (h : ∀ k₀, (lookup k₀ ((k, v) :: rest) == lookup k₀ ((k', v') :: rest')) = true) :
    k = k' := by
  cases hk : compare k k' with
  | lt =>
    have hfirst := h k
    rw [lookup_cons_self] at hfirst
    simp [lookup, hk] at hfirst
  | eq => exact LawfulEqCmp.eq_of_compare hk
  | gt =>
    have hfirst := h k'
    rw [lookup_cons_self] at hfirst
    simp [lookup, OrientedCmp.gt_iff_lt.1 hk] at hfirst

theorem lookup_cons_beq_iff [BEq ν] {k : κ} {v v' : ν} {rest rest' : List (κ × ν)}
    (h : ((k, v) :: rest).Pairwise fun a b => compare a.1 b.1 = .lt)
    (h' : ((k, v') :: rest').Pairwise fun a b => compare a.1 b.1 = .lt) :
    (∀ k₀, (lookup k₀ ((k, v) :: rest) == lookup k₀ ((k, v') :: rest')) = true) ↔
      (v == v') = true ∧ ∀ k₀, (lookup k₀ rest == lookup k₀ rest') = true := by
  constructor
  · intro hall
    have hself := hall k
    rw [lookup_cons_self, lookup_cons_self] at hself
    refine ⟨hself, fun k₀ => ?_⟩
    rw [lookup_of_cons h, lookup_of_cons h']
    by_cases hk : compare k₀ k = .eq
    · rw [if_pos hk, if_pos hk]
      rfl
    · rw [if_neg hk, if_neg hk]
      exact hall k₀
  · rintro ⟨hv, hall⟩ k₀
    have hrest := hall k₀
    unfold lookup
    cases hk : compare k₀ k with
    | lt => rfl
    | eq => exact hv
    | gt => exact hrest

/-- Ascending lists are equal entry by entry if they hold equal values at every key. -/
theorem beq_iff_lookup_beq [BEq κ] [LawfulBEq κ] [BEq ν] {l l' : List (κ × ν)}
    (h : l.Pairwise fun a b => compare a.1 b.1 = .lt)
    (h' : l'.Pairwise fun a b => compare a.1 b.1 = .lt) :
    (l == l') = true ↔ ∀ k, (lookup k l == lookup k l') = true := by
  induction l generalizing l' with
  | nil =>
    cases l' with
    | nil => simp [lookup]
    | cons b rest' =>
      obtain ⟨k', v'⟩ := b
      refine iff_of_false (by simp) fun hall => ?_
      simpa [lookup, ReflCmp.compare_self] using hall k'
  | cons a rest ih =>
    obtain ⟨k, v⟩ := a
    cases l' with
    | nil =>
      refine iff_of_false (by simp) fun hall => ?_
      simpa [lookup, ReflCmp.compare_self] using hall k
    | cons b rest' =>
      obtain ⟨k', v'⟩ := b
      rw [List.cons_beq_cons, Bool.and_eq_true, ih h.of_cons h'.of_cons]
      change ((k == k') && (v == v')) = true ∧ _ ↔ _
      rw [Bool.and_eq_true, beq_iff_eq]
      constructor
      · rintro ⟨⟨rfl, hv⟩, hall⟩
        exact (lookup_cons_beq_iff h h').2 ⟨hv, hall⟩
      · intro hall
        obtain rfl := head_eq_of_lookup_beq hall
        obtain ⟨hv, hrest⟩ := (lookup_cons_beq_iff h h').1 hall
        exact ⟨⟨rfl, hv⟩, hrest⟩

end SortedMap

variable {ν : Type}

theorem Metric.compare_eq_compareLabels {a b : Metric} (h : a.fingerprint = b.fingerprint) :
    compare a b = compareLabels a b := by
  have hself : compare a.fingerprint b.fingerprint = .eq := by
    rw [h]
    exact ReflCmp.compare_self
  change (compare a.fingerprint b.fingerprint).then (compareLabels a b) = compareLabels a b
  rw [hself]
  rfl

/-- Entries as a bucket holds them: all with its fingerprint, strictly in order of labels. -/
structure Bucketed (fp : Fingerprint) (entries : List (Metric × ν)) : Prop where
  fingerprint : ∀ e ∈ entries, e.1.fingerprint = fp
  ascending : entries.Pairwise fun a b => Metric.compareLabels a.1 b.1 = .lt

namespace Bucketed

variable {fp : Fingerprint} {entries : List (Metric × ν)} {m : Metric}

theorem ascending_compare (h : Bucketed fp entries) :
    entries.Pairwise fun a b => compare a.1 b.1 = .lt := by
  refine List.Pairwise.imp_of_mem (fun {a b} ha hb hab => ?_) h.ascending
  rw [Metric.compare_eq_compareLabels ((h.fingerprint a ha).trans (h.fingerprint b hb).symm)]
  exact hab

theorem of_ascending_compare (hfp : ∀ e ∈ entries, e.1.fingerprint = fp)
    (h : entries.Pairwise fun a b => compare a.1 b.1 = .lt) : Bucketed fp entries := by
  refine ⟨hfp, List.Pairwise.imp_of_mem (fun {a b} ha hb hab => ?_) h⟩
  rw [← Metric.compare_eq_compareLabels ((hfp a ha).trans (hfp b hb).symm)]
  exact hab

theorem compare_eq (h : Bucketed m.fingerprint entries) {e : Metric × ν} (he : e ∈ entries) :
    compare e.1 m = Metric.compareLabels e.1 m :=
  Metric.compare_eq_compareLabels (h.fingerprint e he)

/-- Entries before a series come first in the order. -/
theorem before_lt {before after : List (Metric × ν)} {v : ν}
    (h : Bucketed fp (before ++ (m, v) :: after)) : ∀ e ∈ before, compare e.1 m = .lt := by
  intro e he
  exact (List.pairwise_append.1 h.ascending_compare).2.2 e he (m, v) (.head _)

theorem lookup_eq_none (h : Bucketed fp entries) (hm : m.fingerprint ≠ fp) :
    SortedMap.lookup m entries = none := by
  rw [Option.eq_none_iff_forall_ne_some]
  intro v hv
  rw [SortedMap.lookup_eq_some_iff h.ascending_compare] at hv
  exact hm (h.fingerprint (m, v) hv)

theorem alterEntries (h : Bucketed m.fingerprint entries) (f : Option ν → Option ν) :
    Bucketed m.fingerprint (SortedMap.alterEntries m f entries) := by
  refine of_ascending_compare (fun e he => ?_)
    (SortedMap.ascending_alterEntries m f h.ascending_compare)
  rcases SortedMap.mem_alterEntries he with hm | he
  · exact congrArg Metric.fingerprint hm
  · exact h.fingerprint e he

end Bucketed

theorem modify_at_length {β : Type} (before : List β) (e : β) (after : List β) (f : β → β) :
    (before ++ e :: after).modify before.length f = before ++ f e :: after := by
  induction before with
  | nil => rfl
  | cons a before ih => rw [List.cons_append, List.length_cons, List.modify_succ_cons, ih]; rfl

theorem insertIdx_at_length {β : Type} (before after : List β) (e : β) :
    (before ++ after).insertIdx before.length e = before ++ e :: after := by
  induction before with
  | nil => rfl
  | cons a before ih => rw [List.cons_append, List.length_cons, List.insertIdx_succ_cons, ih]; rfl

theorem eraseIdx_at_length {β : Type} (before : List β) (e : β) (after : List β) :
    (before ++ e :: after).eraseIdx before.length = before ++ after := by
  rw [List.eraseIdx_append_of_length_le (Nat.le_refl _), Nat.sub_self]
  rfl

theorem getElem?_at_length {β : Type} (before : List β) (e : β) (after : List β) :
    (before ++ e :: after)[before.length]? = some e := by
  rw [List.getElem?_append_right (Nat.le_refl _), Nat.sub_self]
  rfl

namespace SeriesTable

open SortedMap (lookup alterEntries)

variable {entries : List (Metric × ν)} {m : Metric}

/-- Halving finds a series, or the place where it belongs. -/
theorem search_spec (h : Bucketed m.fingerprint entries) :
    (∃ before v after, entries = before ++ (m, v) :: after ∧
      search m entries = .taken before.length) ∨
    ∃ before after, entries = before ++ after ∧ (∀ e ∈ before, compare e.1 m = .lt) ∧
      (∀ e ∈ after, compare m e.1 = .lt) ∧ search m entries = .free before.length := by
  have hordered : entries.Pairwise fun a b =>
      (Metric.compareLabels b.1 m).isLE = true → Metric.compareLabels a.1 m = .lt :=
    h.ascending.imp fun hab hb => TransCmp.lt_of_lt_of_isLE hab hb
  unfold search
  rcases partitionPoint_find hordered with
    ⟨before, e, after, hsplit, -, hequal, hpoint, hfound⟩ |
    ⟨before, after, hsplit, hbefore, hafter, hpoint, hfound⟩
  · have hm : e.1 = m := LawfulEqCmp.eq_of_compare ((h.compare_eq (by simp [hsplit])).trans hequal)
    refine .inl ⟨before, e.2, after, ?_, ?_⟩
    · rw [hsplit, ← hm]
    · rw [if_pos hfound, hpoint]
  · refine .inr ⟨before, after, hsplit, fun e he => ?_, fun e he => ?_, ?_⟩
    · rw [h.compare_eq (hsplit ▸ List.mem_append_left _ he)]
      exact hbefore e he
    · rw [← OrientedCmp.gt_iff_lt, h.compare_eq (hsplit ▸ List.mem_append_right _ he)]
      exact hafter e he
    · rw [if_neg (by simp [hfound]), hpoint]

theorem findIdx?_spec (h : Bucketed m.fingerprint entries) :
    (∃ before v after, entries = before ++ (m, v) :: after ∧
      entries.findIdx? (·.1 == m) = some before.length) ∨
    lookup m entries = none ∧ entries.findIdx? (·.1 == m) = none := by
  cases hfound : entries.findIdx? (·.1 == m) with
  | none =>
    refine .inr ⟨?_, rfl⟩
    rw [← SortedMap.find?_eq_lookup h.ascending_compare, Option.map_eq_none_iff,
      List.find?_eq_none]
    intro e he hequal
    have hnot := List.findIdx?_eq_none_iff.1 hfound e he
    rw [hnot] at hequal
    cases hequal
  | some i =>
    obtain ⟨hi, hequal, -⟩ := List.findIdx?_eq_some_iff_getElem.1 hfound
    have hm : entries[i].1 = m := beq_iff_eq.1 hequal
    refine .inl ⟨entries.take i, entries[i].2, entries.drop (i + 1), ?_, ?_⟩
    · rw [← hm]
      change entries = entries.take i ++ entries[i] :: entries.drop (i + 1)
      rw [List.getElem_cons_drop, List.take_append_drop]
    · rw [List.length_take_of_le (Nat.le_of_lt hi)]

theorem lookup_present {before after : List (Metric × ν)} {v : ν}
    (h : Bucketed m.fingerprint (before ++ (m, v) :: after)) :
    lookup m (before ++ (m, v) :: after) = some v := by
  rw [SortedMap.lookup_append h.before_lt]
  simp only [lookup, ReflCmp.compare_self]

theorem alterEntries_present {before after : List (Metric × ν)} {v : ν}
    (h : Bucketed m.fingerprint (before ++ (m, v) :: after)) (f : Option ν → Option ν) :
    alterEntries m f (before ++ (m, v) :: after) =
      before ++ SortedMap.consIfSome m (f (some v)) after := by
  rw [SortedMap.alterEntries_append h.before_lt, SortedMap.alterEntries_present]

/-- Changing the first entry of a series changes the list at its key. -/
theorem modifyFirst_eq_alterEntries (h : entries.Pairwise fun a b => compare a.1 b.1 = .lt)
    (f : ν → ν) :
    FingerprintMap.modifyFirst (· == m) f entries = alterEntries m (Option.map f) entries := by
  induction entries with
  | nil => rfl
  | cons e rest ih =>
    obtain ⟨m', v⟩ := e
    have hne (hcompare : compare m m' ≠ .eq) : ¬(m' == m) = true := by
      intro hequal
      rw [beq_iff_eq.1 hequal] at hcompare
      exact hcompare ReflCmp.compare_self
    unfold FingerprintMap.modifyFirst alterEntries
    rw [ih h.of_cons]
    cases hcompare : compare m m' with
    | lt =>
      have hlater : ∀ e ∈ rest, compare m e.1 = .lt := fun e he =>
        TransCmp.lt_trans hcompare (List.rel_of_pairwise_cons h he)
      rw [if_neg (hne (by simp [hcompare])), SortedMap.alterEntries_absent hlater]
      rfl
    | eq =>
      obtain rfl := LawfulEqCmp.eq_of_compare hcompare
      rw [if_pos (beq_self_eq_true m)]
      rfl
    | gt =>
      rw [if_neg (hne (by simp [hcompare]))]

end SeriesTable

end SeriesQuery
