import Mathlib.Data.Finset.Card
import Mathlib.Data.Finset.Range
import SeriesQuery.Pattern.Match
import SeriesQuery.Proofs.Pattern.Programs

/-!
# The search visits what the program reaches

A thread that accepts has been reached from one of the first threads. Where no thread accepts, the
places that have been visited are closed under the ways of the program, so no place that is reached
accepts.
-/

namespace SeriesQuery.Pattern

def Thread.place (t : Thread) : Nat × Nat := (t.address, t.position)

theorem Thread.map_place_step (text : Array Char) (t : Thread) (i : Instruction) :
    (t.step text i).map place = i.ways text.toList t.position := by
  cases i with
  | char c next =>
    simp only [step, Instruction.ways, Array.getElem?_toList]
    split <;> rfl
  | oneOf set next =>
    simp only [step, Instruction.ways, Array.getElem?_toList]
    split <;> rfl
  | assertion a next =>
    simp only [step, Instruction.ways, charBefore, Array.getElem?_toList,
      apply_ite (List.map place)]
    rfl
  | mark | branch | accept => rfl

def placeNumber (size : Nat) (a : Nat × Nat) : Nat := a.2 * size + a.1

theorem placeNumber_inj {size : Nat} {a b : Nat × Nat} (ha : a.1 < size) (hb : b.1 < size)
    (h : placeNumber size a = placeNumber size b) : a = b := by
  have hpos := Nat.zero_lt_of_lt ha
  simp only [placeNumber, Nat.mul_comm _ size] at h
  have hmod := congrArg (· % size) h
  have hdiv := congrArg (· / size) h
  simp only [Nat.mul_add_mod, Nat.mod_eq_of_lt ha, Nat.mod_eq_of_lt hb] at hmod
  simp only [Nat.mul_add_div hpos, Nat.div_eq_of_lt ha, Nat.div_eq_of_lt hb] at hdiv
  exact Prod.ext hmod hdiv

def IsPlace (P : Program) (text : List Char) (a : Nat × Nat) : Prop :=
  a.1 < P.size ∧ a.2 ≤ text.length

theorem IsPlace.number_lt {P : Program} {text : List Char} {a : Nat × Nat}
    (ha : IsPlace P text a) : placeNumber P.size a < (text.length + 1) * P.size := by
  have hle : a.2 * P.size ≤ text.length * P.size := Nat.mul_le_mul_right _ ha.2
  have hlt := ha.1
  rw [Nat.succ_mul]
  unfold placeNumber
  omega

/-- Every instruction accepts or leads on within the program. -/
def IsClosed (P : Program) : Prop :=
  ∀ k < P.size, ∃ i, P[k]? = some i ∧ (i = .accept ∨ i.IsInside P.size)

theorem Instruction.isPlace_of_mem_ways {P : Program} {text : List Char} {i : Instruction}
    {p : Nat} {b : Nat × Nat} (hi : i = .accept ∨ i.IsInside P.size) (hp : p ≤ text.length)
    (hb : b ∈ i.ways text p) : IsPlace P text b := by
  rcases hi with rfl | hi
  · cases hb
  · cases i with
    | char c next =>
      obtain ⟨hc, rfl⟩ : text[p]? = some c ∧ b = (next, p + 1) := by
        simpa [ways] using hb
      exact ⟨hi, (List.getElem?_eq_some_iff.1 hc).1⟩
    | oneOf set next =>
      obtain ⟨hset, rfl⟩ : text[p]?.any set.contains = true ∧ b = (next, p + 1) := by
        simpa only [ways, List.mem_ite_nil_right, List.mem_singleton] using hb
      obtain ⟨c, hc, -⟩ := (Option.any_eq_true _ _).1 hset
      exact ⟨hi, (List.getElem?_eq_some_iff.1 hc).1⟩
    | assertion a next =>
      obtain ⟨-, rfl⟩ : a.holds (charBefore text p) text[p]? = true ∧ b = (next, p) := by
        simpa only [ways, List.mem_ite_nil_right, List.mem_singleton] using hb
      exact ⟨hi, hp⟩
    | mark slot next =>
      obtain rfl := List.mem_singleton.1 hb
      exact ⟨hi, hp⟩
    | branch first second =>
      rcases List.mem_pair.1 hb with rfl | rfl
      · exact ⟨hi.1, hp⟩
      · exact ⟨hi.2, hp⟩
    | accept => cases hb

theorem Instruction.length_ways_le (text : List Char) (p : Nat) (i : Instruction) :
    (i.ways text p).length ≤ 2 := by
  cases i with
  | branch | mark | accept => simp [ways]
  | _ =>
    unfold ways
    dsimp only
    split <;> simp

theorem search_sound {P : Program} {text : Array Char} {fuel : Nat} {visited : Std.TreeSet Nat}
    {pending : List Thread} {marks : List (Nat × Nat)}
    (h : search P text fuel visited pending = some marks) :
    ∃ t ∈ pending, ∃ n b, Run P text.toList n t.place b ∧ P[b.1]? = some .accept := by
  fun_induction search P text fuel visited pending with
  | case1 => cases h
  | case2 => cases h
  | case3 _ _ _ _ _ _ ih | case4 _ _ _ _ _ _ _ ih =>
    obtain ⟨t, ht, hrun⟩ := ih h
    exact ⟨t, .tail _ ht, hrun⟩
  | case5 _ _ t _ _ _ haccept => exact ⟨t, .head _, 0, t.place, .stay, haccept⟩
  | case6 fuel visited t rest place hnew i haccept hi ih =>
    obtain ⟨u, hu, n, b, hrun, hb⟩ := ih h
    rcases List.mem_append.1 hu with hstep | hrest
    · have hway := List.mem_map_of_mem (f := Thread.place) hstep
      rw [Thread.map_place_step] at hway
      exact ⟨t, .head _, n + 1, b, .go hi hway hrun, hb⟩
    · exact ⟨u, .tail _ hrest, n, b, hrun, hb⟩

def Seen (P : Program) (visited : Std.TreeSet Nat) (pending : List (Nat × Nat))
    (a : Nat × Nat) : Prop := placeNumber P.size a ∈ visited ∨ a ∈ pending

/-- What has been visited does not accept, and where it leads has been seen. -/
structure Explored (P : Program) (text : List Char) (visited : Std.TreeSet Nat)
    (pending : List (Nat × Nat)) : Prop where
  places : ∀ a ∈ pending, IsPlace P text a
  closed : ∀ a, IsPlace P text a → placeNumber P.size a ∈ visited →
    ∃ i, P[a.1]? = some i ∧ i ≠ .accept ∧ ∀ b ∈ i.ways text a.2, Seen P visited pending b

section

variable {P : Program} {text : List Char} {visited : Std.TreeSet Nat} {a b : Nat × Nat}
  {pending : List (Nat × Nat)}

theorem Seen.skip (ha : placeNumber P.size a ∈ visited) (h : Seen P visited (a :: pending) b) :
    Seen P visited pending b := by
  rcases h with hvisited | hpending
  · exact .inl hvisited
  · rcases List.mem_cons.1 hpending with rfl | hrest
    · exact .inl ha
    · exact .inr hrest

theorem Seen.visit (ways : List (Nat × Nat)) (h : Seen P visited (a :: pending) b) :
    Seen P (visited.insert (placeNumber P.size a)) (ways ++ pending) b := by
  rcases h with hvisited | hpending
  · exact .inl (Std.TreeSet.mem_insert.2 (.inr hvisited))
  · rcases List.mem_cons.1 hpending with rfl | hrest
    · exact .inl Std.TreeSet.mem_insert_self
    · exact .inr (List.mem_append_right _ hrest)

namespace Explored

theorem skip (h : Explored P text visited (a :: pending))
    (ha : placeNumber P.size a ∈ visited) : Explored P text visited pending where
  places b hb := h.places b (.tail _ hb)
  closed b hb hvisited := by
    obtain ⟨i, hi, haccept, hways⟩ := h.closed b hb hvisited
    exact ⟨i, hi, haccept, fun c hc => (hways c hc).skip ha⟩

theorem visit {i : Instruction} (h : Explored P text visited (a :: pending)) (hP : IsClosed P)
    (hi : P[a.1]? = some i) (haccept : i ≠ .accept) :
    Explored P text (visited.insert (placeNumber P.size a)) (i.ways text a.2 ++ pending) where
  places b hb := by
    rcases List.mem_append.1 hb with hway | hrest
    · have ha := h.places a (.head _)
      obtain ⟨i', hi', hinside⟩ := hP a.1 ha.1
      rw [hi] at hi'
      cases hi'
      exact Instruction.isPlace_of_mem_ways hinside ha.2 hway
    · exact h.places b (.tail _ hrest)
  closed b hb hvisited := by
    rcases Std.TreeSet.mem_insert.1 hvisited with hsame | hold
    · obtain rfl := placeNumber_inj (h.places a (.head _)).1 hb.1 (compare_eq_iff_eq.1 hsame)
      exact ⟨i, hi, haccept, fun c hc => .inr (List.mem_append_left _ hc)⟩
    · obtain ⟨i', hi', haccept', hways⟩ := h.closed b hb hold
      exact ⟨i', hi', haccept', fun c hc => (hways c hc).visit _⟩

/-- Once nothing is left to be tried, no run from a visited place accepts. -/
theorem not_accept {n : Nat} (h : Explored P text visited []) (hP : IsClosed P)
    (ha : IsPlace P text a) (hseen : Seen P visited [] a) (hrun : Run P text n a b) :
    P[b.1]? ≠ some .accept := by
  induction hrun with
  | stay =>
    obtain ⟨i, hi, haccept, -⟩ := h.closed _ ha (hseen.resolve_right List.not_mem_nil)
    rw [hi]
    exact fun h => haccept (Option.some.inj h)
  | @go n a c b i hi hway _ ih =>
    obtain ⟨i', hi', -, hways⟩ := h.closed a ha (hseen.resolve_right List.not_mem_nil)
    obtain ⟨i'', hi'', hinside⟩ := hP a.1 ha.1
    rw [hi] at hi' hi''
    cases hi'
    cases hi''
    exact ih (Instruction.isPlace_of_mem_ways hinside ha.2 hway) (hways c hway)

end Explored

/-- How many numbers below a bound have not been visited. -/
def unvisited (bound : Nat) (visited : Std.TreeSet Nat) : Nat :=
  ((Finset.range bound).filter (· ∉ visited)).card

theorem unvisited_insert_lt {bound k : Nat} (hk : k < bound) (hnew : k ∉ visited) :
    unvisited bound (visited.insert k) < unvisited bound visited := by
  refine Finset.card_lt_card ((Finset.ssubset_iff_of_subset fun m hm => ?_).2 ⟨k, ?_, ?_⟩)
  · rw [Finset.mem_filter] at hm ⊢
    exact ⟨hm.1, fun hvisited => hm.2 (Std.TreeSet.mem_insert.2 (.inr hvisited))⟩
  · exact Finset.mem_filter.2 ⟨Finset.mem_range.2 hk, hnew⟩
  · exact fun h => (Finset.mem_filter.1 h).2 Std.TreeSet.mem_insert_self

end

/-- With enough fuel a search that finds nothing has seen all that can be reached. -/
theorem search_complete {P : Program} {text : Array Char} {fuel : Nat}
    {visited : Std.TreeSet Nat} {pending : List Thread} (hP : IsClosed P)
    (hexplored : Explored P text.toList visited (pending.map Thread.place))
    (hfuel : 2 * unvisited ((text.size + 1) * P.size) visited + pending.length < fuel)
    (h : search P text fuel visited pending = none) {n : Nat} {a b : Nat × Nat}
    (ha : IsPlace P text.toList a) (hseen : Seen P visited (pending.map Thread.place) a)
    (hrun : Run P text.toList n a b) : P[b.1]? ≠ some .accept := by
  fun_induction search P text fuel visited pending with
  | case1 => omega
  | case2 => exact hexplored.not_accept hP ha hseen hrun
  | case3 fuel visited t rest place hvisited ih =>
    have hmem : placeNumber P.size t.place ∈ visited := Std.TreeSet.contains_iff_mem.1 hvisited
    refine ih (hexplored.skip hmem) ?_ h (hseen.skip hmem)
    rw [List.length_cons] at hfuel
    omega
  | case4 fuel visited t rest place hnew hnone ih =>
    obtain ⟨i, hi, -⟩ := hP t.address (hexplored.places t.place (.head _)).1
    rw [hnone] at hi
    cases hi
  | case5 => cases h
  | case6 fuel visited t rest place hnew i haccept hi ih =>
    have hmem : placeNumber P.size t.place ∉ visited :=
      fun hmem => hnew (Std.TreeSet.contains_iff_mem.2 hmem)
    have hplace := hexplored.places t.place (.head _)
    have hvisit := hexplored.visit hP hi haccept
    have hseen' := hseen.visit (i.ways text.toList t.place.2)
    rw [List.map_append, Thread.map_place_step] at ih
    refine ih hvisit ?_ h hseen'
    have hless : unvisited ((text.size + 1) * P.size) (visited.insert place) < _ :=
      unvisited_insert_lt hplace.number_lt hmem
    have hways := Instruction.length_ways_le text.toList t.position i
    rw [← Thread.map_place_step, List.length_map] at hways
    rw [List.length_append]
    rw [List.length_cons] at hfuel
    omega

def ofTree (t : Tree) (groupNames : List (String × Nat)) : Pattern :=
  ⟨t.program.2, t.program.1, groupNames⟩

theorem Tree.program_isClosed (t : Tree) : IsClosed t.program.2 := by
  intro k hk
  rcases Nat.eq_zero_or_pos k with rfl | hpos
  · exact ⟨.accept, t.program_accept, .inl rfl⟩
  · obtain ⟨i, hi, hinside⟩ := t.program_inside hpos hk
    exact ⟨i, hi, .inr hinside⟩

theorem Tree.program_accept_iff {t : Tree} {k : Nat} :
    t.program.2[k]? = some .accept ↔ k = 0 := by
  constructor
  · intro h
    by_contra hne
    obtain ⟨i, hi, hinside⟩ := t.program_inside (Nat.pos_of_ne_zero hne)
      (Array.getElem?_eq_some_iff.1 h).1
    rw [h] at hi
    cases hi
    exact hinside
  · rintro rfl
    exact t.program_accept

theorem isMatch_ofTree {t : Tree} {groupNames : List (String × Nat)} {s : String} :
    (ofTree t groupNames).isMatch s = true ↔
      ∃ i ≤ s.toList.length, ∃ j, t.Matches s.toList i j := by
  let text := s.toList.toArray
  let starts : List Thread := (List.range (text.size + 1)).map fun i => ⟨t.program.1, i, []⟩
  have hstarts (u : Thread) : u ∈ starts ↔
      ∃ i ≤ s.toList.length, u = ⟨t.program.1, i, []⟩ := by
    constructor
    · intro hu
      obtain ⟨i, hi, rfl⟩ := List.mem_map.1 hu
      exact ⟨i, Nat.le_of_lt_succ (List.mem_range.1 hi), rfl⟩
    · rintro ⟨i, hi, rfl⟩
      exact List.mem_map_of_mem (List.mem_range.2 (Nat.lt_succ_of_le hi))
  unfold isMatch captures?
  rw [Option.isSome_map]
  change (search t.program.2 text ((text.size + 1) * (2 * t.program.2.size + 1) + 1) ∅
    starts).isSome = true ↔ _
  constructor
  · intro hsome
    obtain ⟨marks, hsearch⟩ := Option.isSome_iff_exists.1 hsome
    obtain ⟨u, hu, n, ⟨k, j⟩, hrun, haccept⟩ := search_sound hsearch
    obtain ⟨i, hi, rfl⟩ := (hstarts u).1 hu
    obtain rfl := Tree.program_accept_iff.1 haccept
    exact ⟨i, hi, j, Tree.program_runs.1 ⟨n, hrun⟩⟩
  · rintro ⟨i, hi, j, hmatches⟩
    by_contra hnone
    obtain ⟨n, hrun⟩ := Tree.program_runs.2 hmatches
    have hplaces (a : Nat × Nat) (ha : a ∈ starts.map Thread.place) :
        IsPlace t.program.2 s.toList a := by
      obtain ⟨u, hu, rfl⟩ := List.mem_map.1 ha
      obtain ⟨i, hi, rfl⟩ := (hstarts u).1 hu
      exact ⟨t.program_start_lt, hi⟩
    have hstart : (t.program.1, i) ∈ starts.map Thread.place :=
      List.mem_map.2 ⟨_, (hstarts _).2 ⟨i, hi, rfl⟩, rfl⟩
    have hunvisited : unvisited ((text.size + 1) * t.program.2.size) ∅ ≤
        (text.size + 1) * t.program.2.size := by
      refine (Finset.card_filter_le _ _).trans ?_
      rw [Finset.card_range]
    have hlength : starts.length = text.size + 1 := by
      rw [List.length_map, List.length_range]
    refine search_complete t.program_isClosed ⟨hplaces, fun a _ hvisited => ?_⟩ ?_
      (Option.not_isSome_iff_eq_none.1 hnone) (hplaces _ hstart) (.inr hstart) hrun
      t.program_accept
    · exact absurd hvisited Std.TreeSet.not_mem_emptyc
    · change 2 * unvisited ((text.size + 1) * t.program.2.size) ∅ + starts.length < _
      rw [hlength, Nat.mul_add, Nat.mul_one, Nat.mul_left_comm]
      omega

end SeriesQuery.Pattern
