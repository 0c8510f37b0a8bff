/-!
# Finite maps as ascending lists

A map is the list of its entries with strictly ascending keys, so two maps that hold the same
entries are equal whatever was done to build them. Every change goes through `alter`, which
replaces what a single key holds.
-/

open Std

namespace SeriesQuery

structure SortedMap (κ ν : Type) [Ord κ] where
  toList : List (κ × ν)
  ascending : toList.Pairwise fun a b => compare a.1 b.1 = .lt
deriving DecidableEq

namespace SortedMap

variable {κ ν μ : Type} [Ord κ]

theorem ext_toList {m m' : SortedMap κ ν} (h : m.toList = m'.toList) : m = m' := by
  obtain ⟨l, hl⟩ := m
  obtain rfl : l = m'.toList := h
  rfl

/-- What an entry list with ascending keys holds at a key. -/
def lookup (k : κ) : List (κ × ν) → Option ν
  | [] => none
  | (k', v) :: rest =>
    match compare k k' with
    | .lt => none
    | .eq => some v
    | .gt => lookup k rest

def consIfSome (k : κ) (v : Option ν) (rest : List (κ × ν)) : List (κ × ν) :=
  match v with
  | some v => (k, v) :: rest
  | none => rest

/-- Replaces what an entry list holds at a key by a function of it. -/
def alterEntries (k : κ) (f : Option ν → Option ν) : List (κ × ν) → List (κ × ν)
  | [] => consIfSome k (f none) []
  | (k', v) :: rest =>
    match compare k k' with
    | .lt => consIfSome k (f none) ((k', v) :: rest)
    | .eq => consIfSome k' (f (some v)) rest
    | .gt => (k', v) :: alterEntries k f rest

omit [Ord κ] in
theorem mem_consIfSome {k : κ} {v : Option ν} {rest : List (κ × ν)} {e : κ × ν}
    (h : e ∈ consIfSome k v rest) : e.1 = k ∨ e ∈ rest := by
  unfold consIfSome at h
  split at h
  · rcases List.mem_cons.1 h with rfl | h
    · exact .inl rfl
    · exact .inr h
  · exact .inr h

theorem ascending_consIfSome {k : κ} {v : Option ν} {rest : List (κ × ν)}
    (hk : ∀ e ∈ rest, compare k e.1 = .lt)
    (h : rest.Pairwise fun a b => compare a.1 b.1 = .lt) :
    (consIfSome k v rest).Pairwise fun a b => compare a.1 b.1 = .lt := by
  unfold consIfSome
  split
  · exact .cons hk h
  · exact h

theorem mem_alterEntries [TransOrd κ] [LawfulEqOrd κ] {k : κ} {f : Option ν → Option ν}
    {l : List (κ × ν)} {e : κ × ν} (h : e ∈ alterEntries k f l) :
    e.1 = k ∨ e ∈ l := by
  induction l with
  | nil => exact mem_consIfSome h
  | cons head rest ih =>
    obtain ⟨k', v⟩ := head
    unfold alterEntries at h
    split at h
    · exact mem_consIfSome h
    · next he =>
      rcases mem_consIfSome h with h | h
      · exact .inl (h.trans (LawfulEqCmp.eq_of_compare he).symm)
      · exact .inr (.tail _ h)
    · rcases List.mem_cons.1 h with h | h
      · exact .inr (h ▸ .head _)
      · exact (ih h).imp_right (.tail _)

theorem ascending_alterEntries [TransOrd κ] [LawfulEqOrd κ] (k : κ) (f : Option ν → Option ν)
    {l : List (κ × ν)} (h : l.Pairwise fun a b => compare a.1 b.1 = .lt) :
    (alterEntries k f l).Pairwise fun a b => compare a.1 b.1 = .lt := by
  induction l with
  | nil => exact ascending_consIfSome (by simp) .nil
  | cons head rest ih =>
    obtain ⟨k', v⟩ := head
    have hrest : ∀ e ∈ rest, compare k' e.1 = .lt := fun _ => List.rel_of_pairwise_cons h
    unfold alterEntries
    split
    · next hlt =>
      refine ascending_consIfSome (fun e he => ?_) h
      rcases List.mem_cons.1 he with rfl | he
      · exact hlt
      · exact TransCmp.lt_trans hlt (hrest e he)
    · exact ascending_consIfSome hrest h.of_cons
    · next hgt =>
      refine .cons (fun e he => ?_) (ih h.of_cons)
      rcases mem_alterEntries he with he | he
      · exact he ▸ OrientedCmp.gt_iff_lt.1 hgt
      · exact hrest e he

def empty : SortedMap κ ν := ⟨[], .nil⟩

instance : EmptyCollection (SortedMap κ ν) := ⟨empty⟩

instance : Inhabited (SortedMap κ ν) := ⟨empty⟩

def get? (m : SortedMap κ ν) (k : κ) : Option ν := lookup k m.toList

def contains (m : SortedMap κ ν) (k : κ) : Bool := (m.get? k).isSome

def size (m : SortedMap κ ν) : Nat := m.toList.length

def isEmpty (m : SortedMap κ ν) : Bool := m.toList.isEmpty

def keys (m : SortedMap κ ν) : List κ := m.toList.map Prod.fst

def values (m : SortedMap κ ν) : List ν := m.toList.map Prod.snd

section Change

variable [TransOrd κ] [LawfulEqOrd κ]

/-- Replaces what the map holds at a key; `none` stands for no entry. -/
def alter (m : SortedMap κ ν) (k : κ) (f : Option ν → Option ν) : SortedMap κ ν :=
  ⟨alterEntries k f m.toList, ascending_alterEntries k f m.ascending⟩

def insert (m : SortedMap κ ν) (k : κ) (v : ν) : SortedMap κ ν := m.alter k fun _ => some v

def erase (m : SortedMap κ ν) (k : κ) : SortedMap κ ν := m.alter k fun _ => none

def modify (m : SortedMap κ ν) (k : κ) (f : ν → ν) : SortedMap κ ν := m.alter k (Option.map f)

def insertIfNew (m : SortedMap κ ν) (k : κ) (v : ν) : SortedMap κ ν :=
  m.alter k fun old => some (old.getD v)

/-- Inserts entries one after the other, so that a later one replaces an earlier one. -/
def insertAll (m : SortedMap κ ν) (entries : List (κ × ν)) : SortedMap κ ν :=
  entries.foldl (fun m e => m.insert e.1 e.2) m

def ofList (entries : List (κ × ν)) : SortedMap κ ν := empty.insertAll entries

end Change

/-- Transforms every entry and leaves out those without a result. -/
def filterMap (m : SortedMap κ ν) (f : κ → ν → Option μ) : SortedMap κ μ where
  toList := m.toList.filterMap fun e => (f e.1 e.2).map (e.1, ·)
  ascending := by
    refine m.ascending.filterMap _ fun a b hab a' ha b' hb => ?_
    obtain ⟨_, _, rfl⟩ := Option.map_eq_some_iff.1 ha
    obtain ⟨_, _, rfl⟩ := Option.map_eq_some_iff.1 hb
    exact hab

def filter (m : SortedMap κ ν) (keep : κ → ν → Bool) : SortedMap κ ν where
  toList := m.toList.filter fun e => keep e.1 e.2
  ascending := m.ascending.filter _

def mapValues (m : SortedMap κ ν) (f : κ → ν → μ) : SortedMap κ μ where
  toList := m.toList.map fun e => (e.1, f e.1 e.2)
  ascending := List.pairwise_map.2 m.ascending

section Lemmas

variable [TransOrd κ] [LawfulEqOrd κ]

omit [TransOrd κ] [LawfulEqOrd κ] in
theorem lookup_eq_none_of_forall_lt {k : κ} {l : List (κ × ν)}
    (h : ∀ e ∈ l, compare k e.1 = .lt) : lookup k l = none := by
  cases l with
  | nil => rfl
  | cons head rest => simp [lookup, h head (.head _)]

theorem lookup_eq_some_iff {k : κ} {v : ν} {l : List (κ × ν)}
    (h : l.Pairwise fun a b => compare a.1 b.1 = .lt) :
    lookup k l = some v ↔ (k, v) ∈ l := by
  induction l with
  | nil => simp [lookup]
  | cons head rest ih =>
    obtain ⟨k', v'⟩ := head
    have hrest : ∀ e ∈ rest, compare k' e.1 = .lt := fun _ => List.rel_of_pairwise_cons h
    have ih := ih h.of_cons
    unfold lookup
    split
    · next hlt =>
      refine iff_of_false (by simp) fun hmem => ?_
      rcases List.mem_cons.1 hmem with heq | hmem
      · obtain ⟨rfl, _⟩ := Prod.mk.inj heq
        simp [ReflCmp.compare_self] at hlt
      · have := TransCmp.lt_trans hlt (hrest _ hmem)
        simp [ReflCmp.compare_self] at this
    · next he =>
      obtain rfl := LawfulEqCmp.eq_of_compare he
      refine ⟨fun hv => by simp_all, fun hmem => ?_⟩
      rcases List.mem_cons.1 hmem with heq | hmem
      · exact congrArg some (Prod.mk.inj heq).2.symm
      · have := hrest _ hmem
        simp [ReflCmp.compare_self] at this
    · next hgt =>
      rw [ih]
      refine ⟨.tail _, fun hmem => ?_⟩
      rcases List.mem_cons.1 hmem with heq | hmem
      · obtain ⟨rfl, _⟩ := Prod.mk.inj heq
        simp [ReflCmp.compare_self] at hgt
      · exact hmem

theorem get?_eq_some_iff {m : SortedMap κ ν} {k : κ} {v : ν} :
    m.get? k = some v ↔ (k, v) ∈ m.toList :=
  lookup_eq_some_iff m.ascending

theorem lookup_consIfSome [DecidableEq κ] {k k' : κ} {v : Option ν} {rest : List (κ × ν)}
    (hk : ∀ e ∈ rest, compare k e.1 = .lt) :
    lookup k' (consIfSome k v rest) = if k' = k then v else lookup k' rest := by
  cases v with
  | none =>
    split
    · next heq =>
      subst heq
      exact lookup_eq_none_of_forall_lt hk
    · rfl
  | some v =>
    simp only [consIfSome, lookup]
    split
    · next hlt =>
      rw [if_neg (by rintro rfl; simp [ReflCmp.compare_self] at hlt)]
      exact (lookup_eq_none_of_forall_lt fun e he => TransCmp.lt_trans hlt (hk e he)).symm
    · next he => rw [if_pos (LawfulEqCmp.eq_of_compare he)]
    · next hgt =>
      rw [if_neg (by rintro rfl; simp [ReflCmp.compare_self] at hgt)]

theorem lookup_alterEntries [DecidableEq κ] {k k' : κ} {f : Option ν → Option ν} {l : List (κ × ν)}
    (h : l.Pairwise fun a b => compare a.1 b.1 = .lt) :
    lookup k' (alterEntries k f l) = if k' = k then f (lookup k l) else lookup k' l := by
  induction l with
  | nil => simp [alterEntries, lookup_consIfSome, lookup]
  | cons head rest ih =>
    obtain ⟨k₀, v₀⟩ := head
    have hrest : ∀ e ∈ rest, compare k₀ e.1 = .lt := fun _ => List.rel_of_pairwise_cons h
    have ih := ih h.of_cons
    unfold alterEntries
    split
    · next hlt =>
      have hall : ∀ e ∈ (k₀, v₀) :: rest, compare k e.1 = .lt := fun e he => by
        rcases List.mem_cons.1 he with rfl | he
        · exact hlt
        · exact TransCmp.lt_trans hlt (hrest e he)
      rw [lookup_consIfSome hall, lookup_eq_none_of_forall_lt hall]
    · next he =>
      obtain rfl := LawfulEqCmp.eq_of_compare he
      rw [lookup_consIfSome hrest]
      by_cases hk : k' = k
      · subst hk
        simp [lookup, ReflCmp.compare_self]
      · simp only [hk, if_false, lookup]
        split
        · next hlt =>
          exact lookup_eq_none_of_forall_lt fun e he => TransCmp.lt_trans hlt (hrest e he)
        · next he => exact absurd (LawfulEqCmp.eq_of_compare he) hk
        · rfl
    · next hgt =>
      by_cases hk : k' = k
      · subst hk
        simp [lookup, hgt, ih]
      · simp only [lookup, ih, hk, if_false]

/-- A change at one key shows at that key only. -/
theorem get?_alter [DecidableEq κ] (m : SortedMap κ ν) (k k' : κ) (f : Option ν → Option ν) :
    (m.alter k f).get? k' = if k' = k then f (m.get? k) else m.get? k' :=
  lookup_alterEntries m.ascending

theorem get?_insert [DecidableEq κ] (m : SortedMap κ ν) (k k' : κ) (v : ν) :
    (m.insert k v).get? k' = if k' = k then some v else m.get? k' :=
  m.get?_alter k k' _

theorem get?_erase [DecidableEq κ] (m : SortedMap κ ν) (k k' : κ) :
    (m.erase k).get? k' = if k' = k then none else m.get? k' :=
  m.get?_alter k k' _

omit [TransOrd κ] [LawfulEqOrd κ] in
@[simp] theorem get?_empty (k : κ) : (empty : SortedMap κ ν).get? k = none := rfl

theorem get?_filterMap (m : SortedMap κ ν) (f : κ → ν → Option μ) (k : κ) :
    (m.filterMap f).get? k = (m.get? k).bind (f k) := by
  ext v
  rw [get?_eq_some_iff, Option.bind_eq_some_iff]
  simp only [filterMap, List.mem_filterMap, Option.map_eq_some_iff, Prod.mk.injEq]
  constructor
  · rintro ⟨e, he, w, hw, hk, rfl⟩
    exact ⟨e.2, get?_eq_some_iff.2 (hk ▸ he), hk ▸ hw⟩
  · rintro ⟨w, hw, hv⟩
    exact ⟨(k, w), get?_eq_some_iff.1 hw, v, hv, rfl, rfl⟩

/-- Entry lists with ascending keys and the same members are equal. -/
theorem eq_of_mem_iff {l l' : List (κ × ν)}
    (h : l.Pairwise fun a b => compare a.1 b.1 = .lt)
    (h' : l'.Pairwise fun a b => compare a.1 b.1 = .lt) (hmem : ∀ e, e ∈ l ↔ e ∈ l') :
    l = l' := by
  induction l generalizing l' with
  | nil =>
    cases l' with
    | nil => rfl
    | cons e _ => exact absurd ((hmem e).2 (.head _)) (by simp)
  | cons a rest ih =>
    cases l' with
    | nil => exact absurd ((hmem a).1 (.head _)) (by simp)
    | cons b rest' =>
      have ha : ∀ e ∈ rest, compare a.1 e.1 = .lt := fun _ => List.rel_of_pairwise_cons h
      have hb : ∀ e ∈ rest', compare b.1 e.1 = .lt := fun _ => List.rel_of_pairwise_cons h'
      have hab : a = b := by
        rcases List.mem_cons.1 ((hmem a).1 (.head _)) with hab | hab
        · exact hab
        · rcases List.mem_cons.1 ((hmem b).2 (.head _)) with hba | hba
          · exact hba.symm
          · have := TransCmp.lt_trans (ha b hba) (hb a hab)
            simp [ReflCmp.compare_self] at this
      subst hab
      refine congrArg (a :: ·) (ih h.of_cons h'.of_cons fun e => ⟨fun he => ?_, fun he => ?_⟩)
      · rcases List.mem_cons.1 ((hmem e).1 (.tail _ he)) with rfl | he'
        · simpa [ReflCmp.compare_self] using ha e he
        · exact he'
      · rcases List.mem_cons.1 ((hmem e).2 (.tail _ he)) with rfl | he'
        · simpa [ReflCmp.compare_self] using hb e he
        · exact he'

/-- Maps that hold the same value at every key are equal. -/
theorem ext_get? {m m' : SortedMap κ ν} (h : ∀ k, m.get? k = m'.get? k) : m = m' := by
  refine ext_toList (eq_of_mem_iff m.ascending m'.ascending fun ⟨k, v⟩ => ?_)
  rw [← lookup_eq_some_iff m.ascending, ← lookup_eq_some_iff m'.ascending]
  exact iff_of_eq (congrArg (· = some v) (h k))

end Lemmas

end SortedMap

end SeriesQuery
