import Mathlib.Data.List.Duplicate
import Mathlib.Data.List.Induction
import SeriesQuery.Proofs.Pairing

/-!
# Vector matching

Two vectors are joined by key labels, which have to be unique on one side and, where pairs are one
to one, among the elements of the other side that have a partner. Every element of the other side
is then joined with its only partner, in order, unless a comparison drops the pair.
-/

namespace SeriesQuery

open FingerprintMap

variable {ι α : Type}

def keyLabels (elements : List (Keyed ι α)) : List Labels := elements.map (·.key.labels)

/-- Elements with equal key labels have equal fingerprints. Other elements may share them. -/
def FingerprintsFit (elements : List (Keyed ι α)) : Prop :=
  ∀ e ∈ elements, ∀ e' ∈ elements, e.key.labels = e'.key.labels →
    e.key.fingerprint = e'.key.fingerprint

theorem exists_hash_of_fingerprintsFit {elements : List (Keyed ι α)}
    (h : FingerprintsFit elements) : ∃ hash : LabelHash, ∀ e ∈ elements, e.Hashed hash := by
  let first (pairs : List (String × String)) : Option (Keyed ι α) :=
    elements.find? fun e => e.key.labels.toList = pairs
  refine ⟨fun pairs => ((first pairs).map (·.key.fingerprint)).getD 0, fun e he => ?_⟩
  have hfound : (first e.key.labels.toList).isSome := by
    rw [List.find?_isSome]
    exact ⟨e, he, decide_eq_true rfl⟩
  obtain ⟨e', he'⟩ := Option.isSome_iff_exists.1 hfound
  have hmem : e' ∈ elements := List.mem_of_find?_eq_some he'
  have hlabels : e'.key.labels = e.key.labels := by
    have hpairs := List.find?_some he'
    exact SortedMap.ext_toList (of_decide_eq_true hpairs)
  change e.key.fingerprint = ((first e.key.labels.toList).map (·.key.fingerprint)).getD 0
  rw [he', Option.map_some, Option.getD_some]
  exact h e he e' hmem hlabels.symm

theorem isSome_partnerOf_iff {others : List (Keyed ι α)} {labels : Labels} :
    (partnerOf others labels).isSome = true ↔ labels ∈ keyLabels others := by
  unfold partnerOf keyLabels
  rw [List.find?_isSome, List.mem_map]
  simp only [beq_iff_eq]

/-- What makes a match ambiguous: key labels that occur twice on the side where they have to be
unique or, where pairs are one to one, twice on the other side although they have a partner. -/
inductive Ambiguous (c : Cardinality) (many one : List (Keyed ι α)) : MatchFault → Prop
  | onOneSide {labels : Labels} (twice : List.Duplicate labels (keyLabels one)) :
      Ambiguous c many one (.duplicateOnOneSide labels c.keepsRight)
  | amongMany {labels : Labels} (single : c = .oneToOne)
      (twice : List.Duplicate labels (keyLabels many)) (partner : labels ∈ keyLabels one) :
      Ambiguous c many one (.severalPartners labels)

theorem duplicate_pairedKeys_iff {many one : List (Keyed ι α)} {labels : Labels} :
    List.Duplicate labels (pairedKeys (partnerOf one) many) ↔
      List.Duplicate labels (keyLabels many) ∧ labels ∈ keyLabels one := by
  by_cases hpartner : labels ∈ keyLabels one
  · have hcount : (pairedKeys (partnerOf one) many).count labels =
        (keyLabels many).count labels :=
      List.count_filter (p := fun labels => (partnerOf one labels).isSome)
        (isSome_partnerOf_iff.2 hpartner)
    rw [List.duplicate_iff_two_le_count, List.duplicate_iff_two_le_count, hcount]
    exact ⟨fun h => ⟨h, hpartner⟩, fun h => h.1⟩
  · refine iff_of_false (fun h => hpartner ?_) fun h => hpartner h.2
    exact isSome_partnerOf_iff.1 (List.mem_filter.1 h.mem).2

theorem matchesOnce_iff {c : Cardinality} {many one : List (Keyed ι α)} :
    MatchesOnce (c = .oneToOne) many one ↔ ¬∃ fault, Ambiguous c many one fault := by
  unfold MatchesOnce
  rw [List.nodup_iff_forall_not_duplicate, List.nodup_iff_forall_not_duplicate,
    decide_eq_true_eq]
  simp only [duplicate_pairedKeys_iff]
  constructor
  · rintro ⟨hone, hmany⟩ ⟨fault, hfault⟩
    cases hfault with
    | onOneSide twice => exact hone _ twice
    | amongMany single twice partner => exact hmany single _ ⟨twice, partner⟩
  · intro hnone
    refine ⟨fun labels twice => hnone ⟨_, .onOneSide twice⟩, fun single labels h => ?_⟩
    exact hnone ⟨_, .amongMany single h.1 h.2⟩

section Faults

variable {hash : LabelHash} {fault : MatchFault}

theorem foldlM_addKeyed_error {onLeft : Bool} {index : FingerprintMap Labels (Keyed ι α)}
    {elements : List (Keyed ι α)} (he : ∀ e ∈ elements, e.Hashed hash)
    (h : elements.foldlM (addKeyed onLeft) index = .error fault) :
    ∃ labels ∈ keyLabels elements, fault = .duplicateOnOneSide labels onLeft ∧
      ((lookup (fingerprintBy hash) index labels).isSome ∨
        List.Duplicate labels (keyLabels elements)) := by
  induction elements generalizing index with
  | nil => cases h
  | cons e rest ih =>
    have hhash : e.key.fingerprint = fingerprintBy hash e.key.labels := he e (.head _)
    rw [List.foldlM_cons] at h
    cases hlookup : lookup (fingerprintBy hash) index e.key.labels with
    | some met =>
      have hadd : addKeyed onLeft index e = .error (.duplicateOnOneSide e.key.labels onLeft) := by
        unfold addKeyed findOrInsert
        rw [hhash, find?_eq_lookup, hlookup]
        rfl
      rw [hadd] at h
      cases h
      exact ⟨e.key.labels, .head _, rfl, .inl (by rw [hlookup]; rfl)⟩
    | none =>
      rw [(addKeyed_eq_ok_iff (he e (.head _))).2 ⟨hlookup, rfl⟩] at h
      obtain ⟨labels, hmem, hfault, hmet⟩ := ih (fun e' he' => he e' (.tail _ he')) h
      refine ⟨labels, .tail _ hmem, hfault, ?_⟩
      rcases hmet with hindex | htwice
      · rw [lookup_add] at hindex
        by_cases hlabels : labels = e.key.labels
        · subst hlabels
          exact .inr (List.Mem.duplicate_cons_self hmem)
        · rw [if_neg hlabels, Option.or_none] at hindex
          exact .inl hindex
      · exact .inr (htwice.duplicate_cons _)

theorem met_of_paired (hash : LabelHash) (seen : FingerprintMap Labels Unit) (key : Labels)
    {labels : Labels} {rest : List Labels} (hmem : labels ∈ rest)
    (h : (lookup (fingerprintBy hash)
        (seen.findOrInsert (fingerprintBy hash key) (· == key) key ()).2.2 labels).isSome ∨
      List.Duplicate labels rest) :
    (lookup (fingerprintBy hash) seen labels).isSome ∨ List.Duplicate labels (key :: rest) := by
  rcases h with hseen | htwice
  · by_cases hlabels : labels = key
    · subst hlabels
      exact .inr (List.Mem.duplicate_cons_self hmem)
    · refine .inl (Option.isSome_iff_ne_none.2 fun hnone => ?_)
      rw [(lookup_paired_eq_none_iff seen key labels).2 ⟨hnone, hlabels⟩] at hseen
      cases hseen
  · exact .inr (htwice.duplicate_cons _)

theorem pairUp_error {partners : FingerprintMap Labels (Keyed ι α)} {unique : Bool}
    {join : Keyed ι α → Keyed ι α → Option (Joined ι α)} {elements : List (Keyed ι α)}
    (he : ∀ e ∈ elements, e.Hashed hash) {seen : FingerprintMap Labels Unit}
    (h : pairUp partners unique join elements seen = .error fault) :
    unique = true ∧ ∃ labels ∈ keyLabels elements, fault = .severalPartners labels ∧
      (lookup (fingerprintBy hash) partners labels).isSome ∧
      ((lookup (fingerprintBy hash) seen labels).isSome ∨
        List.Duplicate labels (keyLabels elements)) := by
  induction elements generalizing seen with
  | nil => cases h
  | cons e rest ih =>
    have hhash : e.key.fingerprint = fingerprintBy hash e.key.labels := he e (.head _)
    have hrest : ∀ e ∈ rest, e.Hashed hash := fun e' he' => he e' (.tail _ he')
    rw [pairUp, hhash, find?_eq_lookup] at h
    cases hfound : lookup (fingerprintBy hash) partners e.key.labels with
    | none =>
      rw [hfound] at h
      obtain ⟨hunique, labels, hmem, hfault, hpartner, hmet⟩ := ih hrest h
      exact ⟨hunique, labels, .tail _ hmem, hfault, hpartner,
        hmet.imp_right fun htwice => htwice.duplicate_cons _⟩
    | some mate =>
      have hpartner : (lookup (fingerprintBy hash) partners e.key.labels).isSome := by
        rw [hfound]
        rfl
      have hnew := isNew_findOrInsert (fingerprintBy hash) seen e.key.labels ()
      have hmet := fun labels (hmem : labels ∈ keyLabels rest) =>
        met_of_paired hash seen e.key.labels hmem
      rw [hfound] at h
      generalize seen.findOrInsert (fingerprintBy hash e.key.labels) (· == e.key.labels)
        e.key.labels () = found at h hnew hmet
      obtain ⟨_, isNew, seen'⟩ := found
      simp only [Option.map_some] at h hnew hmet
      by_cases hrefused : (unique && !isNew) = true
      · rw [if_pos hrefused] at h
        cases h
        rw [Bool.and_eq_true, Bool.not_eq_true'] at hrefused
        refine ⟨hrefused.1, e.key.labels, .head _, rfl, hpartner, .inl ?_⟩
        rw [hrefused.2] at hnew
        exact Option.isNone_eq_false_iff.1 hnew.symm
      · rw [if_neg hrefused] at h
        cases hlater : pairUp partners unique join rest seen' with
        | ok later =>
          rw [hlater] at h
          cases h
        | error fault' =>
          rw [hlater] at h
          cases h
          obtain ⟨hunique, labels, hmem, hfault, hhas, hagain⟩ := ih hrest hlater
          exact ⟨hunique, labels, .tail _ hmem, hfault, hhas, hmet labels hmem hagain⟩

end Faults

section Joining

variable {hash : LabelHash} {fault : MatchFault}

theorem uniqueByKey_error {onLeft : Bool} {elements : List (Keyed ι α)}
    (he : ∀ e ∈ elements, e.Hashed hash) (h : uniqueByKey onLeft elements = .error fault) :
    ∃ labels, fault = .duplicateOnOneSide labels onLeft ∧
      List.Duplicate labels (keyLabels elements) := by
  rw [uniqueByKey_eq_foldlM] at h
  obtain ⟨labels, -, hfault, hmet⟩ := foldlM_addKeyed_error he h
  refine ⟨labels, hfault, hmet.resolve_left fun hempty => ?_⟩
  rw [lookup_empty] at hempty
  cases hempty

/-- Both ways in which joining two sides may fail are those of an ambiguous match. -/
theorem ambiguous_of_error {c : Cardinality}
    {join : Keyed ι α → Keyed ι α → Option (Joined ι α)} {many one : List (Keyed ι α)}
    (hmany : ∀ e ∈ many, e.Hashed hash) (hone : ∀ e ∈ one, e.Hashed hash)
    (h : (uniqueByKey c.keepsRight one >>= fun partners =>
      pairUp partners (c = .oneToOne) join many .empty) = .error fault) :
    Ambiguous c many one fault := by
  cases hpartners : uniqueByKey c.keepsRight one with
  | error fault' =>
    rw [hpartners] at h
    cases h
    obtain ⟨labels, rfl, twice⟩ := uniqueByKey_error hone hpartners
    exact .onOneSide twice
  | ok partners =>
    rw [hpartners] at h
    obtain ⟨hunique, labels, -, rfl, hpartner, hmet⟩ := pairUp_error hmany h
    rw [(uniqueByKey_spec c.keepsRight hone).2 partners hpartners] at hpartner
    refine .amongMany (of_decide_eq_true hunique) (hmet.resolve_left fun hempty => ?_)
      (isSome_partnerOf_iff.1 hpartner)
    rw [lookup_empty] at hempty
    cases hempty

end Joining

section Positions

variable {join : Keyed ι α → Keyed ι α → Option (Joined ι α)} {many one : List (Keyed ι α)}

/-- The joined elements are those of the pairs of positions with equal key labels that are not
dropped, one for each such pair, in the order of `many`, whose elements occur in one pair each. -/
structure JoinsInOrder (join : Keyed ι α → Keyed ι α → Option (Joined ι α))
    (many one : List (Keyed ι α)) (positions : List (Nat × Nat)) (joined : List (Joined ι α)) :
    Prop where
  inOrder : positions.Pairwise fun p q => p.1 < q.1
  complete : ∀ i j, (i, j) ∈ positions ↔ ∃ m o, many[i]? = some m ∧ one[j]? = some o ∧
    m.key.labels = o.key.labels ∧ (join m o).isSome = true
  values : List.Forall₂ (fun p x => ∃ m o, many[p.1]? = some m ∧ one[p.2]? = some o ∧
    join m o = some x) positions joined

/-- Where key labels are unique, a partner has a position and nobody else has its labels. -/
theorem exists_position_of_partnerOf (hone : (keyLabels one).Nodup) {labels : Labels}
    {mate : Keyed ι α} (h : partnerOf one labels = some mate) :
    ∃ j, ∀ (k : Nat) (o : Keyed ι α),
      one[k]? = some o ∧ labels = o.key.labels ↔ k = j ∧ o = mate := by
  have hlabels : mate.key.labels = labels := by
    have hfound := List.find?_some h
    exact beq_iff_eq.1 hfound
  obtain ⟨j, hj⟩ := List.mem_iff_getElem?.1 (List.mem_of_find?_eq_some h)
  refine ⟨j, fun k o => ⟨fun ⟨hk, ho⟩ => ?_, ?_⟩⟩
  · have hkey : (keyLabels one)[k]? = (keyLabels one)[j]? := by
      unfold keyLabels
      rw [List.getElem?_map, List.getElem?_map, hk, hj, Option.map_some, Option.map_some, hlabels,
        ho]
    have hlt : k < (keyLabels one).length := by
      unfold keyLabels
      rw [List.length_map]
      exact (List.getElem?_eq_some_iff.1 hk).1
    obtain rfl : k = j := (List.getElem?_inj hlt hone).1 hkey
    exact ⟨rfl, Option.some.inj (hk.symm.trans hj)⟩
  · rintro ⟨rfl, rfl⟩
    exact ⟨hj, hlabels.symm⟩

theorem exists_partnerPositions (join : Keyed ι α → Keyed ι α → Option (Joined ι α))
    (hone : (keyLabels one).Nodup) (m : Keyed ι α) :
    ∃ partners : List Nat, partners.length ≤ 1 ∧
      (∀ j, j ∈ partners ↔ ∃ o, one[j]? = some o ∧ m.key.labels = o.key.labels ∧
        (join m o).isSome = true) ∧
      List.Forall₂ (fun j x => ∃ o, one[j]? = some o ∧ join m o = some x) partners
        ((partnerOf one m.key.labels).bind (join m)).toList := by
  cases hmate : partnerOf one m.key.labels with
  | none =>
    refine ⟨[], Nat.zero_le _, fun j => iff_of_false nofun ?_, .nil⟩
    rintro ⟨o, ho, hlabels, -⟩
    have hmem : m.key.labels ∈ keyLabels one :=
      List.mem_map.2 ⟨o, List.mem_of_getElem? ho, hlabels.symm⟩
    have hfound := isSome_partnerOf_iff.2 hmem
    rw [hmate] at hfound
    cases hfound
  | some mate =>
    obtain ⟨j, hj⟩ := exists_position_of_partnerOf hone hmate
    have hpair (k : Nat) : (∃ o, one[k]? = some o ∧ m.key.labels = o.key.labels ∧
        (join m o).isSome = true) ↔ k = j ∧ (join m mate).isSome = true := by
      constructor
      · rintro ⟨o, ho, hlabels, hkept⟩
        obtain ⟨hk, rfl⟩ := (hj k o).1 ⟨ho, hlabels⟩
        exact ⟨hk, hkept⟩
      · rintro ⟨hk, hkept⟩
        obtain ⟨ho, hlabels⟩ := (hj k mate).2 ⟨hk, rfl⟩
        exact ⟨mate, ho, hlabels, hkept⟩
    simp only [hpair, Option.bind_some]
    cases hx : join m mate with
    | none => exact ⟨[], Nat.zero_le _, fun k => by simp, .nil⟩
    | some x =>
      refine ⟨[j], Nat.le_refl 1, fun k => by simp, .cons ⟨mate, ?_, hx⟩ .nil⟩
      exact ((hj j mate).2 ⟨rfl, rfl⟩).1

theorem getElem?_concat_eq_some_iff {β : Type} {l : List β} {a b : β} {i : Nat} :
    (l ++ [a])[i]? = some b ↔ l[i]? = some b ∨ i = l.length ∧ a = b := by
  rcases Nat.lt_trichotomy i l.length with hlt | rfl | hgt
  · rw [List.getElem?_append_left hlt]
    exact ⟨.inl, fun h => h.resolve_right fun hlast => by omega⟩
  · simp
  · have hnone : l[i]? = none := List.getElem?_eq_none_iff.2 (by omega)
    rw [List.getElem?_eq_none_iff.2 (by simp; omega), hnone]
    refine iff_of_false (Option.some_ne_none b).symm fun h => ?_
    rcases h with h | ⟨rfl, -⟩
    · cases h
    · omega

theorem JoinsInOrder.concat {positions : List (Nat × Nat)} {joined : List (Joined ι α)}
    (h : JoinsInOrder join many one positions joined) (hone : (keyLabels one).Nodup)
    (m : Keyed ι α) :
    ∃ positions', JoinsInOrder join (many ++ [m]) one positions'
      (joined ++ ((partnerOf one m.key.labels).bind (join m)).toList) := by
  have hbefore : ∀ p ∈ positions, p.1 < many.length := by
    rintro ⟨i, j⟩ hp
    obtain ⟨m', -, hi, -⟩ := (h.complete i j).1 hp
    exact (List.getElem?_eq_some_iff.1 hi).1
  have hvalues : List.Forall₂ (fun p x => ∃ m' o, (many ++ [m])[p.1]? = some m' ∧
      one[p.2]? = some o ∧ join m' o = some x) positions joined := by
    refine h.values.imp fun p x => ?_
    rintro ⟨m', o, hm', ho, hx⟩
    exact ⟨m', o, getElem?_concat_eq_some_iff.2 (.inl hm'), ho, hx⟩
  obtain ⟨new, hlength, hmem, hnewValues⟩ := exists_partnerPositions join hone m
  refine ⟨positions ++ new.map (many.length, ·), ?_, ?_, ?_⟩
  · rw [List.pairwise_append]
    refine ⟨h.inOrder, ?_, ?_⟩
    · rw [List.pairwise_map]
      match new, hlength with
      | [], _ => exact .nil
      | [j], _ => exact List.pairwise_singleton _ _
    · intro p hp q hq
      obtain ⟨j, -, rfl⟩ := List.mem_map.1 hq
      exact hbefore p hp
  · intro i j
    rw [List.mem_append, h.complete]
    simp only [List.mem_map, Prod.mk.injEq, hmem, getElem?_concat_eq_some_iff]
    constructor
    · rintro (⟨m', o, hm', hpair⟩ | ⟨j', ⟨o, hpair⟩, rfl, rfl⟩)
      · exact ⟨m', o, .inl hm', hpair⟩
      · exact ⟨m, o, .inr ⟨rfl, rfl⟩, hpair⟩
    · rintro ⟨m', o, hm' | ⟨rfl, rfl⟩, hpair⟩
      · exact .inl ⟨m', o, hm', hpair⟩
      · exact .inr ⟨j, ⟨o, hpair⟩, rfl, rfl⟩
  · refine List.rel_append hvalues ?_
    rw [List.forall₂_map_left_iff]
    refine hnewValues.imp fun j x => ?_
    rintro ⟨o, ho, hx⟩
    exact ⟨m, o, getElem?_concat_eq_some_iff.2 (.inr ⟨rfl, rfl⟩), ho, hx⟩

theorem exists_joinsInOrder (join : Keyed ι α → Keyed ι α → Option (Joined ι α))
    (many : List (Keyed ι α)) (hone : (keyLabels one).Nodup) :
    ∃ positions, JoinsInOrder join many one positions (pairsWith (partnerOf one) join many) := by
  induction many using List.reverseRecOn with
  | nil => exact ⟨[], .nil, fun i j => by simp, .nil⟩
  | append_singleton many m ih =>
    obtain ⟨positions, h⟩ := ih
    unfold pairsWith at h ⊢
    rw [List.flatMap_append, List.flatMap_singleton]
    exact h.concat hone m

end Positions

namespace Cardinality

/-- The side of which several elements may have one partner. -/
def many {β : Type} (c : Cardinality) (left right : β) : β := if c.keepsRight then right else left

/-- The side on which key labels have to be unique. -/
def one {β : Type} (c : Cardinality) (left right : β) : β := if c.keepsRight then left else right

theorem many_of_both {c : Cardinality} {β : Type} {p : β → Prop} {left right : List β}
    (hleft : ∀ b ∈ left, p b) (hright : ∀ b ∈ right, p b) : ∀ b ∈ c.many left right, p b := by
  unfold many
  split
  · exact hright
  · exact hleft

theorem one_of_both {c : Cardinality} {β : Type} {p : β → Prop} {left right : List β}
    (hleft : ∀ b ∈ left, p b) (hright : ∀ b ∈ right, p b) : ∀ b ∈ c.one left right, p b := by
  unfold one
  split
  · exact hleft
  · exact hright

end Cardinality

variable [SampleValue α]

def joinPartner (op : BinaryOp) (c : Cardinality) (toBool : Bool) (m o : Keyed ι α) :
    Option (Joined ι α) :=
  joinPair op toBool (if c.keepsRight then o else m) (if c.keepsRight then m else o)

theorem joinStep_eq_bind (op : BinaryOp) (matching : VectorMatching) (toBool : Bool)
    {left right : List (Keyed ι α)} (hleft : left ≠ []) (hright : right ≠ []) :
    joinStep op matching toBool left right =
      uniqueByKey matching.cardinality.keepsRight (matching.cardinality.one left right) >>=
        fun partners => pairUp partners (matching.cardinality = .oneToOne)
          (joinPartner op matching.cardinality toBool)
          (matching.cardinality.many left right) .empty := by
  have hsome : ¬(left.isEmpty || right.isEmpty) = true := by simp [hleft, hright]
  unfold joinStep joinPartner Cardinality.one Cardinality.many
  rw [if_neg hsome]
  cases matching.cardinality.keepsRight <;> rfl

/-- Nothing is joined with nothing. Otherwise vectors are joined exactly if no match is ambiguous,
whatever fingerprints their keys share, and each pair with equal key labels is joined once. -/
theorem vector_matching_semantics (op : BinaryOp) (matching : VectorMatching) (toBool : Bool)
    (left right : List (Keyed ι α)) (hfit : FingerprintsFit (left ++ right)) :
    (left = [] ∨ right = [] → joinStep op matching toBool left right = .ok []) ∧
    (left ≠ [] → right ≠ [] →
      let many := matching.cardinality.many left right
      let one := matching.cardinality.one left right
      ((∃ fault, joinStep op matching toBool left right = .error fault) ↔
        ∃ fault, Ambiguous matching.cardinality many one fault) ∧
      (∀ fault, joinStep op matching toBool left right = .error fault →
        Ambiguous matching.cardinality many one fault) ∧
      ((¬∃ fault, Ambiguous matching.cardinality many one fault) →
        ∃ positions joined, joinStep op matching toBool left right = .ok joined ∧
          JoinsInOrder (joinPartner op matching.cardinality toBool) many one positions
            joined)) := by
  obtain ⟨hash, hhashed⟩ := exists_hash_of_fingerprintsFit hfit
  have hleft : ∀ e ∈ left, e.Hashed hash := fun e he => hhashed e (List.mem_append_left _ he)
  have hright : ∀ e ∈ right, e.Hashed hash := fun e he => hhashed e (List.mem_append_right _ he)
  constructor
  · intro hempty
    rw [joinStep_eq_ok_iff op matching toBool hleft hright, if_pos hempty]
  · intro hnonempty hnonempty' many one
    have hmany : ∀ e ∈ many, e.Hashed hash := Cardinality.many_of_both hleft hright
    have hone : ∀ e ∈ one, e.Hashed hash := Cardinality.one_of_both hleft hright
    have hjoin := joinStep_eq_bind op matching toBool hnonempty hnonempty'
    have hfault : ∀ fault, joinStep op matching toBool left right = .error fault →
        Ambiguous matching.cardinality many one fault := by
      intro fault h
      rw [hjoin] at h
      exact ambiguous_of_error hmany hone h
    have hok : ∀ joined, joinStep op matching toBool left right = .ok joined ↔
        MatchesOnce (matching.cardinality = .oneToOne) many one ∧
          joined = pairsWith (partnerOf one) (joinPartner op matching.cardinality toBool) many := by
      intro joined
      rw [hjoin]
      exact pairUp_uniqueByKey_eq_ok_iff _ _ _ hmany hone
    refine ⟨⟨fun ⟨fault, h⟩ => ⟨fault, hfault fault h⟩, fun hambiguous => ?_⟩, hfault, ?_⟩
    · cases hresult : joinStep op matching toBool left right with
      | error fault => exact ⟨fault, rfl⟩
      | ok joined => exact absurd hambiguous (matchesOnce_iff.1 ((hok joined).1 hresult).1)
    · intro hclear
      have honce := matchesOnce_iff.2 hclear
      obtain ⟨positions, hpositions⟩ :=
        exists_joinsInOrder (joinPartner op matching.cardinality toBool) many honce.1
      exact ⟨positions, _, (hok _).2 ⟨honce, rfl⟩, hpositions⟩

/-- Limits of two hosts. The fingerprints of all keys collide. -/
def hostLimits : List (Keyed Nat Binary64) :=
  [⟨0, ⟨7, .ofList [("host", "a")]⟩, Numeric.ofInt 5⟩,
    ⟨1, ⟨7, .ofList [("host", "b")]⟩, Numeric.ofInt 6⟩]

/-- Requests by host and path, of which those of one host have no limit. -/
def pathRequests : List (Keyed Nat Binary64) :=
  [⟨0, ⟨7, .ofList [("host", "a")]⟩, Numeric.ofInt 1⟩,
    ⟨1, ⟨7, .ofList [("host", "c")]⟩, Numeric.ofInt 2⟩,
    ⟨2, ⟨7, .ofList [("host", "a")]⟩, Numeric.ofInt 3⟩]

theorem limits_joined_with_requests :
    ∃ positions, joinStep .sub ⟨.oneToMany, some (.on ["host"]), []⟩ false hostLimits pathRequests =
        .ok [⟨0, 0, Numeric.ofInt 4⟩, ⟨0, 2, Numeric.ofInt 2⟩] ∧
      JoinsInOrder (joinPartner .sub .oneToMany false) pathRequests hostLimits positions
        [⟨0, 0, Numeric.ofInt 4⟩, ⟨0, 2, Numeric.ofInt 2⟩] := by
  have hfit : FingerprintsFit (hostLimits ++ pathRequests) := by
    unfold FingerprintsFit
    decide +kernel
  have hclear : ¬∃ fault, Ambiguous .oneToMany pathRequests hostLimits fault :=
    matchesOnce_iff.1 ⟨by decide +kernel, by decide⟩
  have hjoined : joinStep .sub ⟨.oneToMany, some (.on ["host"]), []⟩ false hostLimits
      pathRequests = .ok [⟨0, 0, Numeric.ofInt 4⟩, ⟨0, 2, Numeric.ofInt 2⟩] := by
    decide +kernel
  obtain ⟨-, hsemantics⟩ := vector_matching_semantics .sub ⟨.oneToMany, some (.on ["host"]), []⟩
    false hostLimits pathRequests hfit
  obtain ⟨-, -, hjoins⟩ := hsemantics (by decide) (by decide)
  obtain ⟨positions, joined, hok, hpositions⟩ := hjoins hclear
  rw [hjoined, Except.ok.injEq] at hok
  subst hok
  exact ⟨positions, hjoined, hpositions⟩

end SeriesQuery
