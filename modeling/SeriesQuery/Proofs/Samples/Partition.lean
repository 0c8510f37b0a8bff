import SeriesQuery.Sample

/-!
# Leading samples

A condition leads a list if it holds of no element behind one that fails it. The elements that
satisfy it are then a leading part of the list, and halving finds where it ends.
-/

namespace SeriesQuery

variable {β : Type}

/-- The condition holds of no element behind one that fails it. -/
def Leads (holds : β → Bool) (l : List β) : Prop :=
  l.Pairwise fun a b => holds b = true → holds a = true

namespace Leads

variable {holds : β → Bool} {l : List β}

theorem filter_eq_nil {a : β} {rest : List β} (h : Leads holds (a :: rest))
    (ha : holds a = false) : rest.filter holds = [] := by
  rw [List.filter_eq_nil_iff]
  intro b hb hholds
  have := List.rel_of_pairwise_cons h hb hholds
  rw [ha] at this
  cases this

theorem take_length_filter (h : Leads holds l) :
    l.take (l.filter holds).length = l.filter holds := by
  induction l with
  | nil => rfl
  | cons a rest ih =>
    cases ha : holds a with
    | true => rw [List.filter_cons_of_pos ha, List.length_cons, List.take_succ_cons, ih h.of_cons]
    | false => rw [List.filter_cons_of_neg (by simp [ha]), h.filter_eq_nil ha, List.length_nil,
        List.take_zero]

theorem drop_length_filter (h : Leads holds l) :
    l.drop (l.filter holds).length = l.filter (!holds ·) := by
  induction l with
  | nil => rfl
  | cons a rest ih =>
    cases ha : holds a with
    | true =>
      rw [List.filter_cons_of_pos ha, List.length_cons, List.drop_succ_cons, ih h.of_cons,
        List.filter_cons_of_neg (by simp [ha])]
    | false =>
      have hrest : rest.filter (!holds ·) = rest := by
        rw [List.filter_eq_self]
        intro b hb
        have hnil := h.filter_eq_nil ha
        rw [List.filter_eq_nil_iff] at hnil
        simpa using hnil b hb
      rw [List.filter_cons_of_neg (by simp [ha]), h.filter_eq_nil ha, List.length_nil,
        List.drop_zero, List.filter_cons_of_pos (by simp [ha]), hrest]

theorem filter_append_filter_not (h : Leads holds l) :
    l.filter holds ++ l.filter (!holds ·) = l := by
  rw [← h.drop_length_filter]
  have htake := h.take_length_filter
  calc l.filter holds ++ l.drop (l.filter holds).length
      = l.take (l.filter holds).length ++ l.drop (l.filter holds).length := by rw [htake]
    _ = l := List.take_append_drop _ _

theorem any_getElem? (h : Leads holds l) (i : Nat) :
    l[i]?.any holds = decide (i < (l.filter holds).length) := by
  induction l generalizing i with
  | nil => simp
  | cons a rest ih =>
    cases ha : holds a with
    | true =>
      rw [List.filter_cons_of_pos ha, List.length_cons]
      cases i with
      | zero => simp [ha]
      | succ i =>
        rw [List.getElem?_cons_succ, ih h.of_cons]
        simp
    | false =>
      have hnil := h.filter_eq_nil ha
      rw [List.filter_cons_of_neg (by simp [ha]), hnil]
      cases i with
      | zero => simp [ha]
      | succ i =>
        rw [List.getElem?_cons_succ, ih h.of_cons, hnil]
        rfl

end Leads

/-- Whatever the condition is, halving stays among the elements. -/
theorem partitionPoint_go_le (holds : β → Bool) (xs : Array β) {base size : Nat}
    (h : base + size ≤ xs.size) : partitionPoint.go holds xs base size ≤ xs.size := by
  induction size using Nat.strongRecOn generalizing base with
  | ind size ih =>
    unfold partitionPoint.go
    by_cases hlarge : 1 < size
    · simp only [hlarge, if_true]
      split
      · exact ih (size - size / 2) (by omega) (by omega)
      · exact ih (size - size / 2) (by omega) (by omega)
    · simp only [hlarge, if_false]
      split
      · next hlast =>
        rcases Nat.lt_or_ge base xs.size with hbase | hbase
        · exact hbase
        · rw [Array.getElem?_eq_none hbase] at hlast
          cases hlast
      · omega

theorem partitionPoint_le (holds : β → Bool) (xs : Array β) :
    partitionPoint holds xs ≤ xs.size :=
  partitionPoint_go_le holds xs (by omega)

theorem partitionPoint_go {holds : β → Bool} {xs : Array β} (h : Leads holds xs.toList)
    {base size : Nat} (hbase : base ≤ (xs.toList.filter holds).length)
    (hsize : (xs.toList.filter holds).length ≤ base + size) :
    partitionPoint.go holds xs base size = (xs.toList.filter holds).length := by
  have hholds (i : Nat) : xs[i]?.any holds = decide (i < (xs.toList.filter holds).length) := by
    rw [← Array.getElem?_toList]
    exact h.any_getElem? i
  induction size using Nat.strongRecOn generalizing base with
  | ind size ih =>
    unfold partitionPoint.go
    by_cases hlarge : 1 < size
    · simp only [hlarge, if_true, hholds, decide_eq_true_eq]
      by_cases hmiddle : base + size / 2 < (xs.toList.filter holds).length
      · rw [if_pos hmiddle]
        exact ih (size - size / 2) (by omega) (by omega) (by omega)
      · rw [if_neg hmiddle]
        exact ih (size - size / 2) (by omega) (by omega) (by omega)
    · simp only [hlarge, if_false, hholds, decide_eq_true_eq]
      by_cases hlast : base < (xs.toList.filter holds).length
      · rw [if_pos hlast]
        omega
      · rw [if_neg hlast]
        omega

/-- Halving finds how many elements satisfy a leading condition. -/
theorem partitionPoint_eq {holds : β → Bool} {xs : Array β} (h : Leads holds xs.toList) :
    partitionPoint holds xs = (xs.toList.filter holds).length := by
  refine partitionPoint_go h (Nat.zero_le _) ?_
  have hlength : (xs.toList.filter holds).length ≤ xs.toList.length := List.length_filter_le _ _
  rw [Nat.zero_add, ← Array.length_toList]
  exact hlength

/-- The place of an element in an ascending list is at the element before which halving ends, or
there if that is another one. -/
theorem partitionPoint_find {compareTo : β → Ordering} {l : List β}
    (h : l.Pairwise fun a b => (compareTo b).isLE = true → compareTo a = .lt) :
    let i := partitionPoint (fun e => (compareTo e).isLE) l.toArray
    (∃ before e after, l = before ++ e :: after ∧ (∀ a ∈ before, compareTo a = .lt) ∧
      compareTo e = .eq ∧ i - 1 = before.length ∧ (l[i - 1]?.any (compareTo · == .eq)) = true) ∨
    ∃ before after, l = before ++ after ∧ (∀ a ∈ before, compareTo a = .lt) ∧
      (∀ a ∈ after, compareTo a = .gt) ∧ i = before.length ∧
      (l[i - 1]?.any (compareTo · == .eq)) = false := by
  have hleads : Leads (fun e => (compareTo e).isLE) l := by
    refine h.imp fun {a b} hab hb => ?_
    change (compareTo a).isLE = true
    rw [hab hb]
    rfl
  have hpoint : partitionPoint (fun e => (compareTo e).isLE) l.toArray =
      (l.filter fun e => (compareTo e).isLE).length := partitionPoint_eq hleads
  have hsplit := hleads.filter_append_filter_not.symm
  have hbefore : ∀ a ∈ l.filter fun e => (compareTo e).isLE, (compareTo a).isLE = true :=
    fun a ha => (List.mem_filter.1 ha).2
  have hafter : ∀ a ∈ l.filter fun e => !(compareTo e).isLE, compareTo a = .gt := fun a ha => by
    simpa using (List.mem_filter.1 ha).2
  dsimp only
  rw [hpoint]
  generalize l.filter (fun e => (compareTo e).isLE) = before at *
  generalize l.filter (fun e => !(compareTo e).isLE) = after at *
  subst hsplit
  rcases List.eq_nil_or_concat before with rfl | ⟨init, e, rfl⟩
  · refine .inr ⟨[], after, rfl, nofun, hafter, rfl, ?_⟩
    cases after with
    | nil => rfl
    | cons a rest => simp [hafter a (.head _)]
  · rw [List.concat_eq_append] at *
    have hlength : (init ++ [e]).length - 1 = init.length := by simp
    have hget : (init ++ [e] ++ after)[init.length]? = some e := by simp
    have hinit : ∀ a ∈ init, compareTo a = .lt := fun a ha =>
      (List.pairwise_append.1 (List.pairwise_append.1 h).1).2.2 a ha e (by simp)
        (hbefore e (by simp))
    rw [hlength, hget, Option.any_some]
    cases hequal : compareTo e with
    | lt =>
      refine .inr ⟨init ++ [e], after, rfl, fun a ha => ?_, hafter, rfl, rfl⟩
      rcases List.mem_append.1 ha with ha | ha
      · exact hinit a ha
      · rwa [List.mem_singleton.1 ha]
    | eq => exact .inl ⟨init, e, after, by simp, hinit, hequal, rfl, rfl⟩
    | gt =>
      have hle := hbefore e (by simp)
      rw [hequal] at hle
      cases hle

end SeriesQuery
