import SeriesQuery.Fingerprint.Algorithm
import SeriesQuery.Labels.Table
import SeriesQuery.Proofs.Groups
import SeriesQuery.Proofs.Series.Buckets
import SeriesQuery.Proofs.Text.ByteOrder

/-!
# Canonical labels

However a row of labels is built, its names are strictly in order of their bytes and it holds the
last value of each name. Halving therefore finds what the finite map of the labels holds, and rows
are equal if they say the same about every name.
-/

open Std

namespace SeriesQuery

open SortedMap (lookup alterEntries consIfSome)

def LastNamed (pairs : List (String × String)) (name value : String) : Prop :=
  ∃ before after, pairs = before ++ (name, value) :: after ∧ ∀ e ∈ after, e.1 ≠ name

theorem lastNamed_append_iff {pairs : List (String × String)} {e : String × String}
    {name value : String} :
    LastNamed (pairs ++ [e]) name value ↔
      if name = e.1 then e.2 = value else LastNamed pairs name value := by
  obtain ⟨name', value'⟩ := e
  unfold LastNamed
  constructor
  · rintro ⟨before, after, hsplit, hlater⟩
    rcases List.eq_nil_or_concat after with rfl | ⟨init, e, rfl⟩
    · obtain ⟨-, hlast⟩ := List.append_inj' hsplit rfl
      obtain ⟨rfl, rfl⟩ : name' = name ∧ value' = value := by simpa using hlast
      rw [if_pos rfl]
    · rw [List.concat_eq_append] at hsplit hlater
      rw [← List.cons_append, ← List.append_assoc] at hsplit
      obtain ⟨hpairs, hlast⟩ := List.append_inj' hsplit rfl
      obtain rfl : (name', value') = e := by simpa using hlast
      have hne : name ≠ name' := (hlater (name', value') (by simp)).symm
      rw [if_neg hne]
      exact ⟨before, init, hpairs, fun e he => hlater e (List.mem_append_left _ he)⟩
  · intro h
    split at h
    · next heq => exact ⟨pairs, [], by rw [heq, ← h], nofun⟩
    · next hne =>
      obtain ⟨before, after, rfl, hlater⟩ := h
      refine ⟨before, after ++ [(name', value')], by simp, fun e he => ?_⟩
      rcases List.mem_append.1 he with he | he
      · exact hlater e he
      · rw [List.mem_singleton.1 he]
        exact Ne.symm hne

theorem Labels.get?_restrict (labels : Labels) (f : LabelFilter) (name : String) :
    (labels.restrict f).get? name = if f.admits name then labels.get? name else none :=
  SortedMap.get?_filter labels f.admits name

namespace LabelTable

/-- Halving finds a name, or the place where it belongs. -/
theorem search_spec (labels : Labels) (name : String) :
    (∃ before v after, labels.toList = before ++ (name, v) :: after ∧
      (∀ e ∈ before, compare e.1 name = .lt) ∧
      (of labels).search name = .taken before.length) ∨
    ∃ before after, labels.toList = before ++ after ∧ (∀ e ∈ before, compare e.1 name = .lt) ∧
      (∀ e ∈ after, compare name e.1 = .lt) ∧
      (of labels).search name = .free before.length := by
  have hordered : labels.toList.Pairwise fun a b =>
      (compare b.1 name).isLE = true → compare a.1 name = .lt :=
    labels.ascending.imp fun hab hb => TransCmp.lt_of_lt_of_isLE hab hb
  unfold search of
  rcases partitionPoint_find hordered with
    ⟨before, e, after, hsplit, hbefore, hequal, hpoint, hfound⟩ |
    ⟨before, after, hsplit, hbefore, hafter, hpoint, hfound⟩
  · have hname : e.1 = name := LawfulEqCmp.eq_of_compare hequal
    refine .inl ⟨before, e.2, after, ?_, hbefore, ?_⟩
    · rw [hsplit, ← hname]
    · rw [if_pos hfound, hpoint]
  · refine .inr ⟨before, after, hsplit, hbefore, fun e he => ?_, ?_⟩
    · exact OrientedCmp.gt_iff_lt.1 (hafter e he)
    · rw [if_neg (by simp [hfound]), hpoint]

theorem get?_of (labels : Labels) (name : String) : (of labels).get? name = labels.get? name := by
  unfold get? SortedMap.get?
  rcases search_spec labels name with ⟨before, v, after, hsplit, hbefore, hsearch⟩ |
    ⟨before, after, hsplit, hbefore, hafter, hsearch⟩
  · rw [hsearch, of, hsplit, SortedMap.lookup_append hbefore]
    simp [lookup, ReflCmp.compare_self]
  · rw [hsearch, hsplit, SortedMap.lookup_append hbefore,
      SortedMap.lookup_eq_none_of_forall_lt hafter]

theorem insert_of (labels : Labels) (pair : String × String) :
    (of labels).insert pair = of (labels.insert pair.1 pair.2) := by
  have hinsert : (labels.insert pair.1 pair.2).toList =
      alterEntries pair.1 (fun _ => some pair.2) labels.toList := rfl
  unfold insert
  rcases search_spec labels pair.1 with ⟨before, v, after, hsplit, hbefore, hsearch⟩ |
    ⟨before, after, hsplit, hbefore, hafter, hsearch⟩
  · rw [hsearch, of, of, hinsert, hsplit, SortedMap.alterEntries_append hbefore,
      SortedMap.alterEntries_present]
    simp [consIfSome]
  · rw [hsearch, of, of, hinsert, hsplit, SortedMap.alterEntries_append hbefore,
      SortedMap.alterEntries_absent hafter]
    exact congrArg mk (insertIdx_at_length before after pair)

/-- Inserting by position builds the row of the finite map that is built from the same pairs. -/
theorem ofList_eq_of (pairs : List (String × String)) :
    ofList pairs = of (SortedMap.ofList pairs) := by
  have hfold (labels : Labels) :
      pairs.foldl insert (of labels) = of (labels.insertAll pairs) := by
    induction pairs generalizing labels with
    | nil => rfl
    | cons pair rest ih =>
      rw [List.foldl_cons, insert_of, ih]
      rfl
  exact hfold .empty

theorem withoutName_of (labels : Labels) :
    (of labels).withoutName = of labels.withoutName := by
  have hfiltered : of labels.withoutName =
      ⟨labels.toList.filter fun e => e.1 != metricName⟩ := rfl
  unfold withoutName contains
  rw [get?_of, hfiltered]
  cases h : labels.get? metricName with
  | none =>
    refine congrArg mk (List.filter_eq_self.2 fun e he => ?_).symm
    rw [bne_iff_ne]
    intro hname
    have hget : labels.get? metricName = some e.2 := by
      rw [SortedMap.get?_eq_some_iff, ← hname]
      exact he
    rw [h] at hget
    cases hget
  | some v => rfl

theorem retain_of (labels : Labels) (f : LabelFilter) :
    (of labels).retain f = of (labels.restrict f) := rfl

theorem filteredEq_of (labels labels' : Labels) (f : LabelFilter) :
    (of labels).filteredEq (of labels') f = labels.agreeOn labels' f := rfl

structure Represents (t : LabelTable) (labels : Labels) : Prop where
  get? : ∀ name, t.get? name = labels.get? name
  withoutName : t.withoutName = of labels.withoutName
  retain : ∀ f, t.retain f = of (labels.restrict f)
  filteredEq : ∀ labels' f, t.filteredEq (of labels') f = labels.agreeOn labels' f

theorem represents_of (labels : Labels) : (of labels).Represents labels :=
  ⟨get?_of labels, withoutName_of labels, retain_of labels, filteredEq_of labels⟩

/-- The names are strictly in order of their bytes. -/
def Canonical (t : LabelTable) : Prop :=
  t.toList.Pairwise fun a b => Fingerprint.utf8 a.1 < Fingerprint.utf8 b.1

theorem canonical_iff {t : LabelTable} : t.Canonical ↔ ∃ labels : Labels, t = of labels := by
  have hcompare (a b : String × String) :
      Fingerprint.utf8 a.1 < Fingerprint.utf8 b.1 ↔ compare a.1 b.1 = .lt :=
    Fingerprint.utf8_lt_utf8_iff.trans compare_lt_iff_lt.symm
  constructor
  · intro h
    exact ⟨⟨t.toList, List.Pairwise.imp (hcompare _ _).1 h⟩, rfl⟩
  · rintro ⟨labels, rfl⟩
    exact labels.ascending.imp (hcompare _ _).2

theorem canonical_of (labels : Labels) : (of labels).Canonical := canonical_iff.2 ⟨labels, rfl⟩

/-- A row answers for every name with the value of the last pair that has it. -/
theorem get?_ofList_iff {pairs : List (String × String)} {name value : String} :
    (ofList pairs).get? name = some value ↔ LastNamed pairs name value := by
  rw [ofList_eq_of, get?_of]
  induction pairs using List.reverseRecOn with
  | nil => exact iff_of_false nofun fun ⟨before, _, h, _⟩ => by cases before <;> cases h
  | append_singleton pairs e ih =>
    rw [SortedMap.ofList_concat, SortedMap.get?_insert, lastNamed_append_iff, ← ih]
    by_cases h : name = e.1
    · rw [if_pos h, if_pos h, Option.some.injEq]
    · rw [if_neg h, if_neg h]

theorem ofList_eq_ofList_iff {pairs pairs' : List (String × String)} :
    ofList pairs = ofList pairs' ↔
      ∀ name value, LastNamed pairs name value ↔ LastNamed pairs' name value := by
  constructor
  · intro h name value
    rw [← get?_ofList_iff, ← get?_ofList_iff, h]
  · intro h
    rw [ofList_eq_of, ofList_eq_of]
    refine congrArg of (SortedMap.ext_get? fun name => Option.ext fun value => ?_)
    rw [← get?_of, ← get?_of, ← ofList_eq_of, ← ofList_eq_of, get?_ofList_iff, get?_ofList_iff]
    exact h name value

structure Restricts (t : LabelTable) (f : LabelFilter) : Prop where
  canonical : (t.retain f).Canonical
  mem_iff : ∀ e, e ∈ (t.retain f).toList ↔ e ∈ t.toList ∧ f.admits e.1 = true
  get? : ∀ name, (t.retain f).get? name = if f.admits name then t.get? name else none
  idempotent : (t.retain f).retain f = t.retain f
  filteredEq_iff : ∀ u : LabelTable, t.filteredEq u f = true ↔ t.retain f = u.retain f

theorem Canonical.restricts {t : LabelTable} (h : t.Canonical) (f : LabelFilter) :
    t.Restricts f := by
  obtain ⟨labels, rfl⟩ := canonical_iff.1 h
  refine ⟨canonical_of (labels.restrict f), fun e => List.mem_filter, fun name => ?_, ?_,
    fun u => ?_⟩
  · rw [retain_of, get?_of, get?_of, Labels.get?_restrict]
  · rw [retain_of, retain_of, Labels.restrict_restrict]
  · unfold filteredEq retain
    rw [beq_iff_eq, mk.injEq]

structure LeavesOutName (t : LabelTable) : Prop where
  canonical : t.withoutName.Canonical
  mem_iff : ∀ e, e ∈ t.withoutName.toList ↔ e ∈ t.toList ∧ e.1 ≠ metricName

theorem Canonical.leavesOutName {t : LabelTable} (h : t.Canonical) : t.LeavesOutName := by
  obtain ⟨labels, rfl⟩ := canonical_iff.1 h
  constructor
  · rw [withoutName_of]
    exact canonical_of _
  · intro e
    rw [withoutName_of]
    exact List.mem_filter.trans (and_congr_right fun _ => bne_iff_ne)

/-- Rows that are built from pairs are canonical, hold the last value of each name and depend on
nothing else, nor does a hash of what is admitted of them. They store the label set that is built
from the same pairs. Canonical rows answer as the label set that they store and stay canonical when
they are restricted, and what is admitted of two of them is compared as if each were restricted. -/
theorem canonical_label_sets :
    (∀ pairs, (ofList pairs).Canonical ∧ ofList pairs = of (SortedMap.ofList pairs) ∧
      ∀ name value, (ofList pairs).get? name = some value ↔ LastNamed pairs name value) ∧
    (∀ pairs pairs', ofList pairs = ofList pairs' ↔
      ∀ name value, LastNamed pairs name value ↔ LastNamed pairs' name value) ∧
    (∀ pairs pairs', (∀ name value, LastNamed pairs name value ↔ LastNamed pairs' name value) →
      ∀ (a : HashAlgorithm) (f : LabelFilter),
        a.hash (ofList pairs).toList = a.hash (ofList pairs').toList ∧
        a.hash ((ofList pairs).filtered f) = a.hash ((ofList pairs').filtered f)) ∧
    ∀ t : LabelTable, t.Canonical →
      (∃ labels : Labels, t = of labels ∧ t.Represents labels) ∧ t.LeavesOutName ∧
      ∀ f, t.Restricts f := by
  refine ⟨fun pairs => ⟨?_, ofList_eq_of pairs, fun name value => get?_ofList_iff⟩,
    fun pairs pairs' => ofList_eq_ofList_iff, fun pairs pairs' h a f => ?_, fun t h => ?_⟩
  · rw [ofList_eq_of]
    exact canonical_of _
  · rw [ofList_eq_ofList_iff.2 h]
    exact ⟨rfl, rfl⟩
  · obtain ⟨labels, rfl⟩ := canonical_iff.1 h
    exact ⟨⟨labels, rfl, represents_of labels⟩, h.leavesOutName, h.restricts⟩

/-- One name is given twice, and its last value is empty. -/
def repeatedNames : List (String × String) := [("job", "api"), ("__name__", "up"), ("job", "")]

theorem repeatedNames_canonical :
    ofList repeatedNames = ofList [("job", ""), ("__name__", "up")] ∧
      (∀ (a : HashAlgorithm) (f : LabelFilter),
        a.hash (ofList repeatedNames).toList =
          a.hash (ofList [("job", ""), ("__name__", "up")]).toList ∧
        a.hash ((ofList repeatedNames).filtered f) =
          a.hash ((ofList [("job", ""), ("__name__", "up")]).filtered f)) ∧
      (∃ labels : Labels, ofList repeatedNames = of labels ∧
        (ofList repeatedNames).Represents labels) ∧
      (ofList repeatedNames).LeavesOutName ∧ ∀ f, (ofList repeatedNames).Restricts f := by
  have hsame : ofList repeatedNames = ofList [("job", ""), ("__name__", "up")] := by
    rw [ofList_eq_of, ofList_eq_of]
    decide
  obtain ⟨hbuilt, hequal, hhash, hcanonical⟩ := canonical_label_sets
  exact ⟨hsame, hhash _ _ ((hequal _ _).1 hsame), hcanonical _ (hbuilt repeatedNames).1⟩

end LabelTable

end SeriesQuery
