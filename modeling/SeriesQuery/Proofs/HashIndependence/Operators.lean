import SeriesQuery.Evaluation.Stepwise
import SeriesQuery.Proofs.Pairing

/-!
# Operators under another hash

Binary operators and aggregations have the same result under every hash of label pairs, also under
one for which all label sets collide.
-/

namespace SeriesQuery

variable {α ι : Type}

/-- The element with the fingerprint that a hash gives to its key labels. -/
def Keyed.rehash (hash : LabelHash) (e : Keyed ι α) : Keyed ι α :=
  { e with key := ⟨fingerprintBy hash e.key.labels, e.key.labels⟩ }

theorem rehash_hashed (hash : LabelHash) (elements : List (Keyed ι α)) :
    ∀ e ∈ elements.map (Keyed.rehash hash), e.Hashed hash := by
  intro e he
  obtain ⟨_, _, rfl⟩ := List.mem_map.1 he
  rfl

theorem keyed_eq_map_rehash (hash hash' : LabelHash) (filter : LabelFilter)
    (elements : List (Metric × α)) :
    keyed hash' filter elements = (keyed hash filter elements).map (Keyed.rehash hash') := by
  unfold keyed
  rw [List.map_map]
  rfl

section Rehash

variable (hash' : LabelHash)

theorem map_labels_rehash (elements : List (Keyed ι α)) :
    (elements.map (Keyed.rehash hash')).map (·.key.labels) = elements.map (·.key.labels) := by
  rw [List.map_map]
  rfl

theorem partnerOf_rehash (others : List (Keyed ι α)) (labels : Labels) :
    partnerOf (others.map (Keyed.rehash hash')) labels =
      (partnerOf others labels).map (Keyed.rehash hash') := by
  unfold partnerOf
  rw [List.find?_map]
  rfl

theorem pairedKeys_rehash (many one : List (Keyed ι α)) :
    pairedKeys (partnerOf (one.map (Keyed.rehash hash'))) (many.map (Keyed.rehash hash')) =
      pairedKeys (partnerOf one) many := by
  unfold pairedKeys
  rw [map_labels_rehash]
  refine List.filter_congr fun labels _ => ?_
  rw [partnerOf_rehash, Option.isSome_map]

theorem matchesOnce_rehash (unique : Bool) (many one : List (Keyed ι α)) :
    MatchesOnce unique (many.map (Keyed.rehash hash')) (one.map (Keyed.rehash hash')) ↔
      MatchesOnce unique many one := by
  unfold MatchesOnce
  rw [map_labels_rehash, pairedKeys_rehash]

theorem pairsWith_rehash {join : Keyed ι α → Keyed ι α → Option (Joined ι α)}
    (hjoin : ∀ a b, join (a.rehash hash') (b.rehash hash') = join a b)
    (many one : List (Keyed ι α)) :
    pairsWith (partnerOf (one.map (Keyed.rehash hash'))) join (many.map (Keyed.rehash hash')) =
      pairsWith (partnerOf one) join many := by
  unfold pairsWith
  rw [List.flatMap_map]
  refine List.flatMap_congr fun e _ => ?_
  have hlabels : (e.rehash hash').key.labels = e.key.labels := rfl
  rw [hlabels, partnerOf_rehash]
  cases partnerOf one e.key.labels with
  | none => rfl
  | some mate => exact congrArg Option.toList (hjoin e mate)

variable {hash : LabelHash}

theorem joinStep_rehash [SampleValue α] (op : BinaryOp) (matching : VectorMatching) (toBool : Bool)
    {left right : List (Keyed ι α)} (hleft : ∀ e ∈ left, e.Hashed hash)
    (hright : ∀ e ∈ right, e.Hashed hash) :
    SameResult (joinStep op matching toBool (left.map (Keyed.rehash hash'))
        (right.map (Keyed.rehash hash')))
      (joinStep op matching toBool left right) := by
  intro joined
  rw [joinStep_eq_ok_iff op matching toBool (rehash_hashed hash' left) (rehash_hashed hash' right),
    joinStep_eq_ok_iff op matching toBool hleft hright, matchesOnce_rehash, matchesOnce_rehash,
    pairsWith_rehash hash' fun _ _ => rfl, pairsWith_rehash hash' fun _ _ => rfl]
  simp only [List.map_eq_nil_iff]

theorem hasPartner_rehash {others : List (Keyed ι α)} (ho : ∀ e ∈ others, e.Hashed hash)
    {e : Keyed ι α} (he : e.Hashed hash) :
    hasPartner (others.map (Keyed.rehash hash')) (e.rehash hash') = hasPartner others e := by
  have hrehashed : (e.rehash hash').Hashed hash' := rfl
  rw [hasPartner_eq (rehash_hashed hash' others) hrehashed, hasPartner_eq ho he, List.any_map]
  rfl

theorem setStep_rehash (op : BinaryOp) {left right : List (Keyed ι α)}
    (hleft : ∀ e ∈ left, e.Hashed hash) (hright : ∀ e ∈ right, e.Hashed hash) :
    setStep op (left.map (Keyed.rehash hash')) (right.map (Keyed.rehash hash')) =
      (setStep op left right).map (Keyed.rehash hash') := by
  have hkept (p p' : Keyed ι α → Bool) (l : List (Keyed ι α))
      (h : ∀ e ∈ l, p' (e.rehash hash') = p e) :
      (l.map (Keyed.rehash hash')).filter p' = (l.filter p).map (Keyed.rehash hash') := by
    rw [List.filter_map]
    exact congrArg _ (List.filter_congr h)
  cases op with
  | intersection => exact hkept _ _ _ fun e he => hasPartner_rehash hash' hright (hleft e he)
  | union =>
    change _ ++ _ = (_ ++ _ : List _).map _
    rw [List.map_append]
    refine congrArg _ (hkept _ _ _ fun e he => ?_)
    rw [hasPartner_rehash hash' hleft (hright e he)]
  | difference =>
    refine hkept _ _ _ fun e he => ?_
    rw [hasPartner_rehash hash' hright (hleft e he)]
  | _ => rfl

end Rehash

variable [SampleValue α] (hash hash' : LabelHash)

theorem combineVectors_hash (op : BinaryOp) (matching : VectorMatching) (toBool : Bool)
    (filter : LabelFilter) (left right : List (Metric × α)) :
    SameResult
      (combineVectors op matching toBool (keyed hash filter left) (keyed hash filter right))
      (combineVectors op matching toBool (keyed hash' filter left) (keyed hash' filter right)) := by
  rw [keyed_eq_map_rehash hash hash' filter left, keyed_eq_map_rehash hash hash' filter right]
  have hleft : ∀ e ∈ keyed hash filter left, e.Hashed hash := fun _ => hashed_of_mem_keyed
  have hright : ∀ e ∈ keyed hash filter right, e.Hashed hash := fun _ => hashed_of_mem_keyed
  unfold combineVectors
  by_cases hset : op.isSet = true
  · rw [if_pos hset, if_pos hset, setStep_rehash hash' op hleft hright, List.map_map]
    exact .refl _
  · rw [if_neg hset, if_neg hset]
    refine SameResult.bind ?_ fun _ => .refl _
    intro joined
    rw [mapError_eq_ok_iff, mapError_eq_ok_iff]
    exact (joinStep_rehash hash' op matching toBool hleft hright joined).symm

namespace Value

theorem binary_hash (op : BinaryOp) (matching : VectorMatching) (toBool : Bool) (l r : Value α) :
    SameResult (binary hash op matching toBool l r) (binary hash' op matching toBool l r) := by
  cases l with
  | vector l =>
    cases r with
    | vector r => exact (combineVectors_hash hash hash' op matching toBool _ _ _).map _
    | _ => exact .refl _
  | _ => cases r <;> exact .refl _

theorem aggregate_hash (op : AggregateOp) (grouping : Grouping) (param : Option (Value α))
    (operand : Value α) :
    SameResult (aggregate hash op grouping param operand)
      (aggregate hash' op grouping param operand) := by
  unfold aggregate
  refine SameResult.bind (.refl _) fun v => SameResult.bind (.refl _) fun p => ?_
  refine SameResult.map _ (collect_perm ?_)
  exact (groupElements_perm hash grouping.filter hash' v.toList).flatMap_right _

end Value

end SeriesQuery
