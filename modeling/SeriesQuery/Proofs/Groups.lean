import Mathlib.Data.List.Induction
import SeriesQuery.Evaluation.Columnar
import SeriesQuery.Proofs.FingerprintMap
import SeriesQuery.Proofs.Series.Rows

/-!
# Groups of elements

A group is made of the elements whose labels are the same once they are restricted by a filter.
This holds for every hash. Groups that are found once for all frames are, at each frame, the
groups of the elements that are present there.
-/

namespace SeriesQuery

open FingerprintMap

variable {β γ : Type}

namespace Labels

theorem toList_restrict (labels : Labels) (f : LabelFilter) :
    (labels.restrict f).toList = labels.admitted f := rfl

theorem restrict_restrict (labels : Labels) (f : LabelFilter) :
    (labels.restrict f).restrict f = labels.restrict f := by
  refine SortedMap.ext_toList ?_
  simp [restrict, SortedMap.filter]

theorem agreeOn_iff {a b : Labels} {f : LabelFilter} :
    a.agreeOn b f = true ↔ a.restrict f = b.restrict f := by
  unfold agreeOn
  rw [beq_iff_eq, ← toList_restrict, ← toList_restrict]
  exact ⟨SortedMap.ext_toList, congrArg SortedMap.toList⟩

end Labels

def fingerprintBy (hash : LabelHash) (labels : Labels) : Fingerprint := hash labels.toList

/-- The elements with some labels under a filter. -/
def members (filter : LabelFilter) (elements : List (Metric × β)) (labels : Labels) :
    List (Metric × β) :=
  elements.filter fun e => e.1.labels.restrict filter = labels

theorem members_append (filter : LabelFilter) (l l' : List (Metric × β)) (labels : Labels) :
    members filter (l ++ l') labels = members filter l labels ++ members filter l' labels :=
  List.filter_append _ _

/-- What a map of groups should hold for some labels. -/
def groupOf? (filter : LabelFilter) (elements : List (Metric × β)) (labels : Labels) :
    Option (List (Metric × β)) :=
  if members filter elements labels = [] then none else some (members filter elements labels)

theorem groupOf?_eq_some_iff {filter : LabelFilter} {elements ms : List (Metric × β)}
    {labels : Labels} :
    groupOf? filter elements labels = some ms ↔
      ms ≠ [] ∧ ms = members filter elements labels := by
  unfold groupOf?
  by_cases h : members filter elements labels = []
  · simp [h]
  · simp only [h, if_false, Option.some.injEq]
    exact ⟨fun heq => ⟨heq ▸ h, heq.symm⟩, fun ⟨_, heq⟩ => heq.symm⟩

theorem restrict_eq_of_groupOf? {filter : LabelFilter} {elements ms : List (Metric × β)}
    {labels : Labels} (h : groupOf? filter elements labels = some ms) :
    labels.restrict filter = labels := by
  obtain ⟨hne, rfl⟩ := groupOf?_eq_some_iff.1 h
  obtain ⟨e, he⟩ := List.exists_mem_of_ne_nil _ hne
  have hlabels : e.1.labels.restrict filter = labels := by simpa using (List.mem_filter.1 he).2
  rw [← hlabels, Labels.restrict_restrict]

section Grouping

variable (hash : LabelHash) (filter : LabelFilter)

theorem groupElements_append (elements : List (Metric × β)) (e : Metric × β) :
    groupElements hash filter (elements ++ [e]) =
      (groupElements hash filter elements).upsert
        (fingerprintBy hash (e.1.labels.restrict filter)) (e.1.labels.agreeOn · filter)
        (e.1.labels.restrict filter) [e] (· ++ [e]) := by
  unfold groupElements
  rw [List.foldl_append]
  rfl

/-- Every element is added to the group of its restricted labels, and no other group changes. -/
theorem groupElements_spec (elements : List (Metric × β)) :
    Indexed (fingerprintBy hash) (groupElements hash filter elements) ∧
      ∀ labels, lookup (fingerprintBy hash) (groupElements hash filter elements) labels =
        groupOf? filter elements labels := by
  induction elements using List.reverseRecOn with
  | nil => exact ⟨.empty, fun _ => rfl⟩
  | append_singleton elements e ih =>
    obtain ⟨hindexed, hlookup⟩ := ih
    have htest : ∀ entry ∈ (groupElements hash filter elements).bucket
        (fingerprintBy hash (e.1.labels.restrict filter)),
        e.1.labels.agreeOn entry.1 filter = (entry.1 == e.1.labels.restrict filter) := by
      intro entry hentry
      have hfound := hindexed.mem_toList_iff_lookup.1 (mem_toList_iff.2 ⟨_, hentry⟩)
      rw [hlookup] at hfound
      rw [Bool.eq_iff_iff, Labels.agreeOn_iff, beq_iff_eq, restrict_eq_of_groupOf? hfound]
      exact eq_comm
    rw [groupElements_append, upsert_congr _ (· == e.1.labels.restrict filter) htest]
    refine ⟨hindexed.upsert _ _ _, fun labels => ?_⟩
    rw [lookup_upsert, hlookup, hlookup]
    unfold groupOf?
    rw [members_append]
    by_cases hlabels : labels = e.1.labels.restrict filter
    · subst hlabels
      have hself : members filter [e] (e.1.labels.restrict filter) = [e] := by simp [members]
      rw [if_pos rfl, hself]
      by_cases hold : members filter elements (e.1.labels.restrict filter) = []
      · simp [hold]
      · simp [hold]
    · have hother : members filter [e] labels = [] := by simp [members, Ne.symm hlabels]
      rw [if_neg hlabels, hother, List.append_nil]

theorem mem_groupElements_iff {elements : List (Metric × β)} {labels : Labels}
    {ms : List (Metric × β)} :
    (labels, ms) ∈ (groupElements hash filter elements).toList ↔
      ms ≠ [] ∧ ms = members filter elements labels := by
  obtain ⟨hindexed, hlookup⟩ := groupElements_spec hash filter elements
  rw [hindexed.mem_toList_iff_lookup, hlookup, groupOf?_eq_some_iff]

theorem nodup_groupElements (elements : List (Metric × β)) :
    ((groupElements hash filter elements).toList.map Prod.fst).Nodup :=
  (groupElements_spec hash filter elements).1.nodup_keys

/-- The hash decides at most the order in which groups are listed. -/
theorem groupElements_perm (hash' : LabelHash) (elements : List (Metric × β)) :
    (groupElements hash filter elements).toList.Perm
      (groupElements hash' filter elements).toList := by
  refine (groupElements_spec hash filter elements).1.perm_toList
    (groupElements_spec hash' filter elements).1 fun labels => ?_
  rw [(groupElements_spec hash filter elements).2, (groupElements_spec hash' filter elements).2]

def presentElements (present : β → Option γ) (elements : List (Metric × β)) : List (Metric × γ) :=
  elements.filterMap fun e => (present e.2).map (e.1, ·)

def presentGroup (present : β → Option γ) (group : Labels × List (Metric × β)) :
    Option (Labels × List (Metric × γ)) :=
  if (presentElements present group.2).isEmpty then none
  else some (group.1, presentElements present group.2)

theorem members_presentElements (present : β → Option γ) (elements : List (Metric × β))
    (labels : Labels) :
    members filter (presentElements present elements) labels =
      presentElements present (members filter elements labels) := by
  unfold members presentElements
  rw [List.filter_filterMap, List.filterMap_filter]
  refine List.filterMap_congr fun e _ => ?_
  by_cases h : e.1.labels.restrict filter = labels
  · cases present e.2 <;> simp [h]
  · cases present e.2 <;> simp [h]

theorem presentGroups_perm (present : β → Option γ) (elements : List (Metric × β)) :
    ((groupElements hash filter elements).toList.filterMap (presentGroup present)).Perm
      (groupElements hash filter (presentElements present elements)).toList := by
  have hkeys : (((groupElements hash filter elements).toList.filterMap
      (presentGroup present)).map Prod.fst).Nodup := by
    rw [List.map_filterMap]
    refine List.Nodup.sublist ?_ (nodup_groupElements hash filter elements)
    induction (groupElements hash filter elements).toList with
    | nil => exact .slnil
    | cons group rest ih =>
      rw [List.filterMap_cons, List.map_cons]
      unfold presentGroup
      by_cases hempty : (presentElements present group.2).isEmpty = true
      · rw [if_pos hempty]
        exact ih.cons _
      · rw [if_neg hempty]
        exact ih.cons_cons _
  refine (List.perm_ext_iff_of_nodup hkeys.of_map (nodup_groupElements _ _ _).of_map).2 ?_
  rintro ⟨labels, ms⟩
  rw [mem_groupElements_iff, members_presentElements, List.mem_filterMap]
  constructor
  · rintro ⟨⟨labels', all⟩, hgroup, hpresent⟩
    obtain ⟨-, rfl⟩ := (mem_groupElements_iff hash filter).1 hgroup
    unfold presentGroup at hpresent
    split at hpresent
    · cases hpresent
    · next hne =>
      cases hpresent
      exact ⟨fun hnil => hne (by simp [hnil]), rfl⟩
  · rintro ⟨hne, rfl⟩
    refine ⟨(labels, members filter elements labels), ?_, ?_⟩
    · rw [mem_groupElements_iff]
      exact ⟨fun hnil => hne (by rw [hnil]; rfl), rfl⟩
    · unfold presentGroup
      rw [if_neg fun hempty => hne (List.isEmpty_iff.1 hempty)]

end Grouping

end SeriesQuery
