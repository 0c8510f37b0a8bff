import SeriesQuery.Evaluation.Elements
import SeriesQuery.Proofs.Groups

/-!
# Pairs of elements

Elements of two vectors are paired through maps that find match keys by fingerprint. What is found
is described here by searching the lists of elements for equal key labels, so the fingerprints
have no say in which elements are paired.
-/

namespace SeriesQuery

open FingerprintMap

variable {ι α : Type}

def Keyed.Hashed (hash : LabelHash) (e : Keyed ι α) : Prop :=
  e.key.fingerprint = fingerprintBy hash e.key.labels

theorem hashed_of_mem_keyed {hash : LabelHash} {filter : LabelFilter}
    {elements : List (Metric × α)} {e : Keyed Metric α} (h : e ∈ keyed hash filter elements) :
    e.Hashed hash := by
  obtain ⟨⟨m, v⟩, _, rfl⟩ := List.mem_map.1 h
  rfl

def partnerOf (others : List (Keyed ι α)) (labels : Labels) : Option (Keyed ι α) :=
  others.find? (·.key.labels == labels)

section Index

variable {hash : LabelHash}

def addKeyed (onLeft : Bool) (index : FingerprintMap Labels (Keyed ι α)) (e : Keyed ι α) :
    Except MatchFault (FingerprintMap Labels (Keyed ι α)) :=
  match index.findOrInsert e.key.fingerprint (· == e.key.labels) e.key.labels e with
  | (_, true, index) => .ok index
  | (_, false, _) => .error (.duplicateOnOneSide e.key.labels onLeft)

theorem uniqueByKey_eq_foldlM (onLeft : Bool) (elements : List (Keyed ι α)) :
    uniqueByKey onLeft elements = elements.foldlM (addKeyed onLeft) .empty := by
  unfold uniqueByKey
  congr 1
  funext index e
  unfold addKeyed
  generalize index.findOrInsert e.key.fingerprint (· == e.key.labels) e.key.labels e = found
  obtain ⟨_, _ | _, _⟩ := found <;> rfl

theorem addKeyed_eq_ok_iff {onLeft : Bool} {index index' : FingerprintMap Labels (Keyed ι α)}
    {e : Keyed ι α} (he : e.Hashed hash) :
    addKeyed onLeft index e = .ok index' ↔
      lookup (fingerprintBy hash) index e.key.labels = none ∧
        index' = index.add (fingerprintBy hash e.key.labels) e.key.labels e := by
  unfold addKeyed findOrInsert
  rw [he, find?_eq_lookup]
  cases lookup (fingerprintBy hash) index e.key.labels <;> simp [eq_comm]

theorem foldlM_addKeyed {onLeft : Bool} {index index' : FingerprintMap Labels (Keyed ι α)}
    {elements : List (Keyed ι α)} (he : ∀ e ∈ elements, e.Hashed hash)
    (h : elements.foldlM (addKeyed onLeft) index = .ok index') (labels : Labels) :
    lookup (fingerprintBy hash) index' labels =
      (lookup (fingerprintBy hash) index labels).or (partnerOf elements labels) := by
  induction elements generalizing index with
  | nil =>
    cases h
    simp [partnerOf]
  | cons e rest ih =>
    rw [List.foldlM_cons, bind_eq_ok_iff] at h
    obtain ⟨next, hnext, hrest⟩ := h
    obtain ⟨_, rfl⟩ := (addKeyed_eq_ok_iff (he e (.head _))).1 hnext
    rw [ih (fun e' he' => he e' (.tail _ he')) hrest, lookup_add, Option.or_assoc]
    unfold partnerOf
    rw [List.find?_cons]
    by_cases hlabels : labels = e.key.labels
    · subst hlabels
      simp
    · have hne : (e.key.labels == labels) = false := beq_eq_false_iff_ne.2 (Ne.symm hlabels)
      simp [hlabels, hne]

theorem exists_foldlM_addKeyed_iff {onLeft : Bool} {index : FingerprintMap Labels (Keyed ι α)}
    {elements : List (Keyed ι α)} (he : ∀ e ∈ elements, e.Hashed hash) :
    (∃ index', elements.foldlM (addKeyed onLeft) index = .ok index') ↔
      (elements.map (·.key.labels)).Nodup ∧
        ∀ e ∈ elements, lookup (fingerprintBy hash) index e.key.labels = none := by
  induction elements generalizing index with
  | nil => exact ⟨fun _ => ⟨.nil, nofun⟩, fun _ => ⟨index, rfl⟩⟩
  | cons e rest ih =>
    have hrest : ∀ e ∈ rest, e.Hashed hash := fun e' he' => he e' (.tail _ he')
    have hstep : (∃ index', (e :: rest).foldlM (addKeyed onLeft) index = .ok index') ↔
        lookup (fingerprintBy hash) index e.key.labels = none ∧
          ∃ index', rest.foldlM (addKeyed onLeft)
            (index.add (fingerprintBy hash e.key.labels) e.key.labels e) = .ok index' := by
      simp only [List.foldlM_cons, bind_eq_ok_iff, addKeyed_eq_ok_iff (he e (.head _))]
      constructor
      · rintro ⟨index', _, ⟨hnone, rfl⟩, h⟩
        exact ⟨hnone, index', h⟩
      · rintro ⟨hnone, index', h⟩
        exact ⟨index', _, ⟨hnone, rfl⟩, h⟩
    rw [hstep, ih hrest, List.map_cons, List.nodup_cons]
    simp only [lookup_add, List.mem_cons, forall_eq_or_imp, Option.or_eq_none_iff]
    constructor
    · rintro ⟨hnone, hnodup, hall⟩
      refine ⟨⟨fun hmem => ?_, hnodup⟩, hnone, fun e' he' => (hall e' he').1⟩
      obtain ⟨e', he', heq⟩ := List.mem_map.1 hmem
      have := (hall e' he').2
      simp [heq] at this
    · rintro ⟨⟨hnot, hnodup⟩, hnone, hall⟩
      refine ⟨hnone, hnodup, fun e' he' => ⟨hall e' he', if_neg fun heq => hnot ?_⟩⟩
      exact List.mem_map.2 ⟨e', he', heq⟩

/-- An index is made exactly if no key labels occur twice, and finds what a search finds. -/
theorem uniqueByKey_spec (onLeft : Bool) {elements : List (Keyed ι α)}
    (he : ∀ e ∈ elements, e.Hashed hash) :
    ((∃ index, uniqueByKey onLeft elements = .ok index) ↔
      (elements.map (·.key.labels)).Nodup) ∧
      ∀ index, uniqueByKey onLeft elements = .ok index → ∀ labels,
        lookup (fingerprintBy hash) index labels = partnerOf elements labels := by
  rw [uniqueByKey_eq_foldlM]
  constructor
  · rw [exists_foldlM_addKeyed_iff he]
    simp
  · intro index h labels
    rw [foldlM_addKeyed he h]
    simp

def pairsWith (partner : Labels → Option (Keyed ι α))
    (join : Keyed ι α → Keyed ι α → Option (Joined ι α)) (elements : List (Keyed ι α)) :
    List (Joined ι α) :=
  elements.flatMap fun e => ((partner e.key.labels).bind (join e)).toList

def pairedKeys (partner : Labels → Option (Keyed ι α)) (elements : List (Keyed ι α)) :
    List Labels :=
  (elements.map (·.key.labels)).filter fun labels => (partner labels).isSome

theorem lookup_paired_eq_none_iff (seen : FingerprintMap Labels Unit) (key labels : Labels) :
    lookup (fingerprintBy hash)
        (seen.findOrInsert (fingerprintBy hash key) (· == key) key ()).2.2 labels = none ↔
      lookup (fingerprintBy hash) seen labels = none ∧ labels ≠ key := by
  rw [lookup_findOrInsert]
  by_cases h : labels = key
  · simp [h]
  · simp [h]

/-- An element is paired with its partner unless its key labels must not be paired again. -/
theorem pairUp_cons_eq_ok_iff {partners : FingerprintMap Labels (Keyed ι α)} {unique : Bool}
    {join : Keyed ι α → Keyed ι α → Option (Joined ι α)} {e mate : Keyed ι α}
    (he : e.Hashed hash)
    (hmate : lookup (fingerprintBy hash) partners e.key.labels = some mate)
    {rest : List (Keyed ι α)} {seen : FingerprintMap Labels Unit} {joined : List (Joined ι α)} :
    pairUp partners unique join (e :: rest) seen = .ok joined ↔
      (unique = true → lookup (fingerprintBy hash) seen e.key.labels = none) ∧
        ∃ later, pairUp partners unique join rest
            (seen.findOrInsert (fingerprintBy hash e.key.labels) (· == e.key.labels)
              e.key.labels ()).2.2 = .ok later ∧
          (join e mate).toList ++ later = joined := by
  have hhash : e.key.fingerprint = fingerprintBy hash e.key.labels := he
  have hnew := isNew_findOrInsert (fingerprintBy hash) seen e.key.labels ()
  rw [pairUp, hhash, find?_eq_lookup, hmate]
  generalize seen.findOrInsert (fingerprintBy hash e.key.labels) (· == e.key.labels)
    e.key.labels () = found at hnew ⊢
  obtain ⟨_, isNew, seen'⟩ := found
  simp only [Option.map_some] at hnew ⊢
  by_cases hrefused : (unique && !isNew) = true
  · rw [if_pos hrefused]
    rw [Bool.and_eq_true, Bool.not_eq_true'] at hrefused
    refine iff_of_false (fun hok => ?_) ?_
    · cases hok
    · rintro ⟨hfresh, -⟩
      rw [hfresh hrefused.1, hrefused.2] at hnew
      cases hnew
  · rw [if_neg hrefused]
    have hfresh : unique = true → lookup (fingerprintBy hash) seen e.key.labels = none := by
      intro hunique
      rw [hunique, Bool.true_and, Bool.not_eq_true', Bool.not_eq_false] at hrefused
      rw [hrefused] at hnew
      exact Option.isNone_iff_eq_none.1 hnew.symm
    rw [bind_eq_ok_iff, and_iff_right hfresh]
    refine exists_congr fun later => and_congr_right fun _ => ?_
    exact ⟨fun h => Except.ok.inj h, congrArg Except.ok⟩

theorem pairUp_eq_ok_iff {partners : FingerprintMap Labels (Keyed ι α)}
    {partner : Labels → Option (Keyed ι α)}
    (hpartner : ∀ labels, lookup (fingerprintBy hash) partners labels = partner labels)
    {unique : Bool} {join : Keyed ι α → Keyed ι α → Option (Joined ι α)}
    {elements : List (Keyed ι α)} (he : ∀ e ∈ elements, e.Hashed hash)
    {seen : FingerprintMap Labels Unit} {joined : List (Joined ι α)} :
    pairUp partners unique join elements seen = .ok joined ↔
      (unique = true → (pairedKeys partner elements).Nodup ∧
        ∀ labels ∈ pairedKeys partner elements,
          lookup (fingerprintBy hash) seen labels = none) ∧
        joined = pairsWith partner join elements := by
  induction elements generalizing seen joined with
  | nil => simp [pairUp, pairedKeys, pairsWith, eq_comm]
  | cons e rest ih =>
    have hrest : ∀ e ∈ rest, e.Hashed hash := fun e' he' => he e' (.tail _ he')
    have hhash : e.key.fingerprint = fingerprintBy hash e.key.labels := he e (.head _)
    have hpairs : pairsWith partner join (e :: rest) =
        ((partner e.key.labels).bind (join e)).toList ++ pairsWith partner join rest :=
      List.flatMap_cons
    rw [hpairs]
    cases hfound : partner e.key.labels with
    | none =>
      have hkeys : pairedKeys partner (e :: rest) = pairedKeys partner rest := by
        simp [pairedKeys, hfound]
      rw [hkeys, pairUp, hhash, find?_eq_lookup, hpartner, hfound]
      exact ih hrest
    | some mate =>
      have hkeys : pairedKeys partner (e :: rest) =
          e.key.labels :: pairedKeys partner rest := by
        simp [pairedKeys, hfound]
      rw [hkeys, pairUp_cons_eq_ok_iff hhash ((hpartner _).trans hfound), List.nodup_cons]
      simp only [ih hrest, lookup_paired_eq_none_iff]
      constructor
      · rintro ⟨hfresh, _, ⟨hunique, rfl⟩, rfl⟩
        refine ⟨fun h => ?_, rfl⟩
        obtain ⟨hnodup, hall⟩ := hunique h
        refine ⟨⟨fun hmem => (hall _ hmem).2 rfl, hnodup⟩, fun labels hmem => ?_⟩
        rcases List.mem_cons.1 hmem with rfl | hmem
        · exact hfresh h
        · exact (hall labels hmem).1
      · rintro ⟨hunique, rfl⟩
        refine ⟨fun h => (hunique h).2 _ (.head _), _, ⟨fun h => ?_, rfl⟩, rfl⟩
        obtain ⟨⟨hnot, hnodup⟩, hall⟩ := hunique h
        exact ⟨hnodup, fun labels hmem =>
          ⟨hall labels (.tail _ hmem), fun heq => hnot (heq ▸ hmem)⟩⟩

theorem lookup_foldl_findOrInsert {others : List (Keyed ι α)}
    (ho : ∀ e ∈ others, e.Hashed hash) (index : FingerprintMap Labels Unit) (labels : Labels) :
    (lookup (fingerprintBy hash) (others.foldl (fun (index : FingerprintMap Labels Unit) e =>
        (index.findOrInsert e.key.fingerprint (· == e.key.labels) e.key.labels ()).2.2) index)
      labels).isSome =
      ((lookup (fingerprintBy hash) index labels).isSome ||
        others.any (·.key.labels == labels)) := by
  induction others generalizing index with
  | nil => simp
  | cons e rest ih =>
    have hhash : e.key.fingerprint = fingerprintBy hash e.key.labels := ho e (.head _)
    rw [List.foldl_cons, ih fun e' he' => ho e' (.tail _ he'), hhash, lookup_findOrInsert,
      List.any_cons]
    by_cases hlabels : labels = e.key.labels
    · simp [hlabels]
    · have hne : (e.key.labels == labels) = false := beq_eq_false_iff_ne.2 (Ne.symm hlabels)
      rw [if_neg hlabels, hne, Bool.false_or]

theorem hasPartner_eq {others : List (Keyed ι α)} (ho : ∀ e ∈ others, e.Hashed hash)
    {e : Keyed ι α} (he : e.Hashed hash) :
    hasPartner others e = others.any (·.key.labels == e.key.labels) := by
  unfold hasPartner
  rw [he, find?_eq_lookup, Option.isSome_map, lookup_foldl_findOrInsert ho]
  simp

/-- Key labels occur once among the partners and, if pairs are one to one, once among the
elements that have a partner. -/
def MatchesOnce (unique : Bool) (many one : List (Keyed ι α)) : Prop :=
  (one.map (·.key.labels)).Nodup ∧ (unique = true → (pairedKeys (partnerOf one) many).Nodup)

theorem pairUp_uniqueByKey_eq_ok_iff (onLeft unique : Bool)
    (join : Keyed ι α → Keyed ι α → Option (Joined ι α)) {many one : List (Keyed ι α)}
    (hmany : ∀ e ∈ many, e.Hashed hash) (hone : ∀ e ∈ one, e.Hashed hash)
    {joined : List (Joined ι α)} :
    (uniqueByKey onLeft one >>= fun partners => pairUp partners unique join many .empty) =
        .ok joined ↔
      MatchesOnce unique many one ∧ joined = pairsWith (partnerOf one) join many := by
  obtain ⟨hexists, hlookup⟩ := uniqueByKey_spec onLeft hone
  rw [bind_eq_ok_iff]
  unfold MatchesOnce
  constructor
  · rintro ⟨partners, hpartners, hpaired⟩
    rw [pairUp_eq_ok_iff (hlookup partners hpartners) hmany] at hpaired
    exact ⟨⟨hexists.1 ⟨partners, hpartners⟩, fun h => (hpaired.1 h).1⟩, hpaired.2⟩
  · rintro ⟨⟨hnodup, hunique⟩, rfl⟩
    obtain ⟨partners, hpartners⟩ := hexists.2 hnodup
    refine ⟨partners, hpartners, ?_⟩
    rw [pairUp_eq_ok_iff (hlookup partners hpartners) hmany]
    exact ⟨fun h => ⟨hunique h, fun _ _ => rfl⟩, rfl⟩

variable [SampleValue α]

def joinPair (op : BinaryOp) (toBool : Bool) (l r : Keyed ι α) : Option (Joined ι α) :=
  (op.combine toBool l.value r.value).map fun v => ⟨l.item, r.item, v⟩

/-- Elements are joined exactly if no key labels occur too often; what is joined is what a search
for equal key labels pairs. -/
theorem joinStep_eq_ok_iff (op : BinaryOp) (matching : VectorMatching) (toBool : Bool)
    {left right : List (Keyed ι α)} (hleft : ∀ e ∈ left, e.Hashed hash)
    (hright : ∀ e ∈ right, e.Hashed hash) {joined : List (Joined ι α)} :
    joinStep op matching toBool left right = .ok joined ↔
      if left = [] ∨ right = [] then joined = []
      else if matching.cardinality.keepsRight then
        MatchesOnce (matching.cardinality = .oneToOne) right left ∧
          joined = pairsWith (partnerOf left) (fun r l => joinPair op toBool l r) right
      else
        MatchesOnce (matching.cardinality = .oneToOne) left right ∧
          joined = pairsWith (partnerOf right) (joinPair op toBool) left := by
  unfold joinStep
  by_cases hempty : left = [] ∨ right = []
  · have : (left.isEmpty || right.isEmpty) = true := by simpa using hempty
    rw [if_pos this, if_pos hempty]
    simp [eq_comm]
  · have : ¬(left.isEmpty || right.isEmpty) = true := by simpa using hempty
    rw [if_neg this, if_neg hempty]
    by_cases hside : matching.cardinality.keepsRight = true
    · rw [if_pos hside]
      simp only [hside, if_true]
      exact pairUp_uniqueByKey_eq_ok_iff true _ _ hright hleft
    · rw [if_neg hside]
      simp only [hside]
      exact pairUp_uniqueByKey_eq_ok_iff false _ _ hleft hright

end Index

end SeriesQuery
