import SeriesQuery.Pattern.Program
import SeriesQuery.Proofs.Pattern.Language

/-!
# Programs do what their trees say

A program goes from the start of a tree to where the tree is left just where the tree matches. Each
emitter adds instructions behind those that are there, and what it adds depends on no instruction
that is added later.
-/

namespace SeriesQuery.Pattern

def Instruction.ways (text : List Char) (i : Nat) : Instruction → List (Nat × Nat)
  | char c next => if text[i]? = some c then [(next, i + 1)] else []
  | oneOf set next => if text[i]?.any set.contains then [(next, i + 1)] else []
  | assertion a next => if a.holds (charBefore text i) text[i]? then [(next, i)] else []
  | mark _ next => [(next, i)]
  | branch first second => [(first, i), (second, i)]
  | accept => []

/-- Goes from one instruction and position to others in so many steps. -/
inductive Run (P : Program) (text : List Char) : Nat → Nat × Nat → Nat × Nat → Prop
  | stay {a : Nat × Nat} : Run P text 0 a a
  | go {n : Nat} {a b c : Nat × Nat} {i : Instruction} :
    P[a.1]? = some i → b ∈ i.ways text a.2 → Run P text n b c → Run P text (n + 1) a c

theorem Run.trans {P : Program} {text : List Char} {m n : Nat} {a b c : Nat × Nat}
    (h : Run P text m a b) (h' : Run P text n b c) : Run P text (m + n) a c := by
  induction h with
  | stay => rwa [Nat.zero_add]
  | go hi hb _ ih =>
    rw [Nat.add_right_comm]
    exact .go hi hb (ih h')

/-- From the start the instructions between two addresses lead to the exit where a relation holds,
and they are left in no other way. A run that leaves them has not been longer before. -/
structure Implements (P : Program) (text : List Char) (lo hi start exit : Nat)
    (R : Nat → Nat → Prop) : Prop where
  complete : ∀ i j, R i j → ∃ n, Run P text n (start, i) (exit, j)
  sound : ∀ n i b, Run P text n (start, i) b → b.1 < lo ∨ hi ≤ b.1 →
    ∃ m ≤ n, ∃ j, R i j ∧ Run P text m (exit, j) b

namespace Implements

variable {P : Program} {text : List Char} {lo hi lo' hi' start mid exit : Nat}
  {R S : Nat → Nat → Prop}

theorem refl : Implements P text lo hi exit exit Eq where
  complete _ _ h := ⟨0, h ▸ .stay⟩
  sound n i _ h _ := ⟨n, Nat.le_refl n, i, rfl, h⟩

theorem mono (h : Implements P text lo hi start exit R) (hlo : lo' ≤ lo) (hhi : hi ≤ hi') :
    Implements P text lo' hi' start exit R where
  complete := h.complete
  sound n i b hrun hb := h.sound n i b hrun (by omega)

theorem congr (h : Implements P text lo hi start exit R) (hRS : ∀ i j, R i j ↔ S i j) :
    Implements P text lo hi start exit S where
  complete i j hS := h.complete i j ((hRS i j).2 hS)
  sound n i b hrun hb := by
    obtain ⟨m, hm, j, hR, hrest⟩ := h.sound n i b hrun hb
    exact ⟨m, hm, j, (hRS i j).1 hR, hrest⟩

theorem comp (h : Implements P text lo hi start mid R) (h' : Implements P text lo hi mid exit S) :
    Implements P text lo hi start exit (fun i j => ∃ k, R i k ∧ S k j) where
  complete := by
    rintro i j ⟨k, hR, hS⟩
    obtain ⟨m, hm⟩ := h.complete i k hR
    obtain ⟨n, hn⟩ := h'.complete k j hS
    exact ⟨m + n, hm.trans hn⟩
  sound n i b hrun hb := by
    obtain ⟨m, hm, k, hR, hrest⟩ := h.sound n i b hrun hb
    obtain ⟨m', hm', j, hS, hrest'⟩ := h'.sound m k b hrest hb
    exact ⟨m', Nat.le_trans hm' hm, j, ⟨k, hR, hS⟩, hrest'⟩

/-- An instruction that leads to the exit where a relation holds. -/
theorem single {i : Instruction} (hi : P[lo]? = some i)
    (hways : ∀ p b, b ∈ i.ways text p ↔ b.1 = exit ∧ R p b.2) :
    Implements P text lo (lo + 1) lo exit R where
  complete p q h := ⟨1, .go hi ((hways p (exit, q)).2 ⟨rfl, h⟩) .stay⟩
  sound n p b hrun hb := by
    cases hrun with
    | stay => omega
    | go hi' hstep hrest =>
      rw [hi] at hi'
      cases hi'
      obtain ⟨hexit, hR⟩ := (hways p _).1 hstep
      exact ⟨_, Nat.le_succ _, _, hR, by rwa [← hexit]⟩

theorem branch {address first second : Nat} (hmem : lo ≤ address ∧ address < hi)
    (haddress : P[address]? = some (.branch first second))
    (h : Implements P text lo hi first exit R) (h' : Implements P text lo hi second exit S) :
    Implements P text lo hi address exit (fun i j => R i j ∨ S i j) where
  complete := by
    rintro i j (hR | hS)
    · obtain ⟨n, hn⟩ := h.complete i j hR
      exact ⟨n + 1, .go haddress (.head _) hn⟩
    · obtain ⟨n, hn⟩ := h'.complete i j hS
      exact ⟨n + 1, .go haddress (.tail _ (.head _)) hn⟩
  sound n i b hrun hb := by
    cases hrun with
    | stay =>
      dsimp only at hb
      omega
    | @go n a b' c ins hins hstep hrest =>
      rw [haddress] at hins
      cases hins
      rcases List.mem_pair.1 hstep with rfl | rfl
      · obtain ⟨m, hm, j, hR, hrun⟩ := h.sound n i b hrest hb
        exact ⟨m, Nat.le_succ_of_le hm, j, .inl hR, hrun⟩
      · obtain ⟨m, hm, j, hS, hrun⟩ := h'.sound n i b hrest hb
        exact ⟨m, Nat.le_succ_of_le hm, j, .inr hS, hrun⟩

/-- A loop that goes through its body or leaves matches any number of rounds. -/
theorem loop {first : Nat} {greedy : Bool} (hlo : lo < hi)
    (haddress : P[lo]? = some (.choice greedy first exit))
    (h : Implements P text (lo + 1) hi first lo R) :
    Implements P text lo hi lo exit (fun i j => ∃ n, Rounds R n i j) where
  complete := by
    have honward (p : Nat) : ∃ m, Run P text m (lo, p) (first, p) := by
      cases greedy with
      | true => exact ⟨1, .go haddress (.head _) .stay⟩
      | false => exact ⟨1, .go haddress (.tail _ (.head _)) .stay⟩
    have hexit (p : Nat) : ∃ m, Run P text m (lo, p) (exit, p) := by
      cases greedy with
      | true => exact ⟨1, .go haddress (.tail _ (.head _)) .stay⟩
      | false => exact ⟨1, .go haddress (.head _) .stay⟩
    rintro i j ⟨n, hrounds⟩
    induction hrounds with
    | none => exact hexit _
    | more hR _ ih =>
      obtain ⟨m₁, h₁⟩ := honward _
      obtain ⟨m₂, h₂⟩ := h.complete _ _ hR
      obtain ⟨m₃, h₃⟩ := ih
      exact ⟨m₁ + m₂ + m₃, (h₁.trans h₂).trans h₃⟩
  sound n := by
    -- each round makes the run shorter
    induction n using Nat.strongRecOn with
    | ind n ih =>
      intro i b hrun hb
      cases hrun with
      | stay =>
        dsimp only at hb
        omega
      | @go n _ c _ ins hins hstep hrest =>
        rw [haddress] at hins
        cases hins
        have hways : c = (first, i) ∨ c = (exit, i) := by
          cases greedy with
          | true => exact List.mem_pair.1 hstep
          | false => exact (List.mem_pair.1 hstep).symm
        rcases hways with rfl | rfl
        · obtain ⟨m, hm, j, hR, hrun⟩ := h.sound n i b hrest (by omega)
          obtain ⟨m', hm', k, ⟨rounds, hrounds⟩, hrun'⟩ := ih m (by omega) j b hrun hb
          exact ⟨m', by omega, k, ⟨rounds + 1, .more hR hrounds⟩, hrun'⟩
        · exact ⟨n, Nat.le_succ n, i, ⟨0, .none⟩, hrest⟩

end Implements

def Instruction.IsInside (size : Nat) : Instruction → Prop
  | char _ next => next < size
  | oneOf _ next => next < size
  | assertion _ next => next < size
  | mark _ next => next < size
  | branch first second => first < size ∧ second < size
  | accept => False

theorem Instruction.IsInside.mono {size size' : Nat} {i : Instruction} (h : i.IsInside size)
    (hle : size ≤ size') : i.IsInside size' := by
  cases i with
  | branch => exact ⟨Nat.lt_of_lt_of_le h.1 hle, Nat.lt_of_lt_of_le h.2 hle⟩
  | accept => exact h
  | _ => exact Nat.lt_of_lt_of_le h hle

theorem Instruction.isInside_choice {size onward exit : Nat} (greedy : Bool)
    (honward : onward < size) (hexit : exit < size) :
    (choice greedy onward exit).IsInside size := by
  cases greedy with
  | true => exact ⟨honward, hexit⟩
  | false => exact ⟨hexit, honward⟩

structure Grows (P P' : Program) : Prop where
  size_le : P.size ≤ P'.size
  keeps : ∀ k < P.size, P'[k]? = P[k]?
  fresh : ∀ k, P.size ≤ k → k < P'.size → ∃ i, P'[k]? = some i ∧ i.IsInside P'.size

namespace Grows

variable {P P' P'' : Program}

theorem refl : Grows P P := ⟨Nat.le_refl _, fun _ _ => rfl, fun k h h' => by omega⟩

theorem trans (h : Grows P P') (h' : Grows P' P'') : Grows P P'' where
  size_le := Nat.le_trans h.size_le h'.size_le
  keeps k hk := (h'.keeps k (Nat.lt_of_lt_of_le hk h.size_le)).trans (h.keeps k hk)
  fresh k hlow hhigh := by
    by_cases hk : k < P'.size
    · obtain ⟨i, hi, hinside⟩ := h.fresh k hlow hk
      exact ⟨i, (h'.keeps k hk).trans hi, hinside.mono h'.size_le⟩
    · exact h'.fresh k (Nat.not_lt.1 hk) hhigh

theorem push {i : Instruction} (hi : i.IsInside (P.size + 1)) : Grows P (P.push i) where
  size_le := by
    rw [Array.size_push]
    exact Nat.le_succ _
  keeps k hk := by
    rw [Array.getElem?_push, if_neg (Nat.ne_of_lt hk)]
  fresh k hlow hhigh := by
    rw [Array.size_push] at hhigh ⊢
    obtain rfl : k = P.size := by omega
    exact ⟨i, Array.getElem?_push_size, hi⟩

/-- An instruction may be known only after those behind it. -/
theorem fill {held i : Instruction} (h : Grows (P.push held) P') (hi : i.IsInside P'.size) :
    Grows P (P'.setIfInBounds P.size i) where
  size_le := by
    have hle := h.size_le
    rw [Array.size_push] at hle
    rw [Array.size_setIfInBounds]
    omega
  keeps k hk := by
    have hpush : k < (P.push held).size := by
      rw [Array.size_push]
      omega
    rw [Array.getElem?_setIfInBounds_ne (by omega), h.keeps k hpush, Array.getElem?_push,
      if_neg (Nat.ne_of_lt hk)]
  fresh k hlow hhigh := by
    rw [Array.size_setIfInBounds] at hhigh ⊢
    by_cases hk : P.size = k
    · rw [hk, Array.getElem?_setIfInBounds_self, if_pos hhigh]
      exact ⟨i, rfl, hi⟩
    · rw [Array.getElem?_setIfInBounds_ne hk]
      refine h.fresh k ?_ hhigh
      rw [Array.size_push]
      omega

end Grows

/-- The instructions of a program from an address on do something in whatever program has them. -/
def Provides (text : List Char) (lo : Nat) (P : Program) (start exit : Nat)
    (R : Nat → Nat → Prop) : Prop :=
  ∀ Q : Program, (∀ k, lo ≤ k → k < P.size → Q[k]? = P[k]?) →
    Implements Q text lo P.size start exit R

namespace Provides

variable {text : List Char} {lo lo' start mid exit : Nat} {P P' : Program} {R S : Nat → Nat → Prop}

theorem refl : Provides text lo P exit exit Eq := fun _ _ => .refl

theorem congr (h : Provides text lo P start exit R) (hRS : ∀ i j, R i j ↔ S i j) :
    Provides text lo P start exit S := fun Q hQ => (h Q hQ).congr hRS

theorem lower (h : Provides text lo P start exit R) (hlo : lo' ≤ lo) :
    Provides text lo' P start exit R := fun Q hQ =>
  (h Q fun k hk => hQ k (Nat.le_trans hlo hk)).mono hlo (Nat.le_refl _)

theorem grow (h : Provides text lo P start exit R) (hg : Grows P P') :
    Provides text lo P' start exit R := fun Q hQ =>
  (h Q fun k hlow hk => (hQ k hlow (Nat.lt_of_lt_of_le hk hg.size_le)).trans (hg.keeps k hk)).mono
    (Nat.le_refl _) hg.size_le

theorem comp (h : Provides text lo P start mid R) (h' : Provides text lo P mid exit S) :
    Provides text lo P start exit (fun i j => ∃ k, R i k ∧ S k j) :=
  fun Q hQ => (h Q hQ).comp (h' Q hQ)

theorem branch {first second : Nat} (hlo : lo ≤ P.size) (h : Provides text lo P first exit R)
    (h' : Provides text lo P second exit S) :
    Provides text lo (P.push (.branch first second)) P.size exit (fun i j => R i j ∨ S i j) := by
  intro Q hQ
  have hlt : P.size < (P.push (.branch first second)).size := by
    rw [Array.size_push]
    exact Nat.lt_succ_self _
  have hsame (k : Nat) (hlow : lo ≤ k) (hk : k < P.size) : Q[k]? = P[k]? := by
    rw [hQ k hlow (Nat.lt_trans hk hlt), Array.getElem?_push, if_neg (Nat.ne_of_lt hk)]
  have hbranch := (hQ P.size hlo hlt).trans Array.getElem?_push_size
  exact .branch ⟨hlo, hlt⟩ hbranch ((h Q hsame).mono (Nat.le_refl _) (Nat.le_of_lt hlt))
    ((h' Q hsame).mono (Nat.le_refl _) (Nat.le_of_lt hlt))

theorem choice {onward : Nat} (greedy : Bool) (hlo : lo ≤ P.size)
    (h : Provides text lo P onward exit R) :
    Provides text lo (P.push (.choice greedy onward exit)) P.size exit
      (fun i j => R i j ∨ i = j) := by
  cases greedy with
  | true => exact branch hlo h refl
  | false => exact (branch hlo refl h).congr fun i j => Or.comm

theorem fill (i : Instruction) (h : Provides text (lo + 1) P start exit R) :
    Provides text (lo + 1) (P.setIfInBounds lo i) start exit R := by
  intro Q hQ
  rw [Array.size_setIfInBounds] at hQ ⊢
  refine h Q fun k hlow hk => ?_
  rw [hQ k hlow hk, Array.getElem?_setIfInBounds_ne (by omega)]

theorem loop {first : Nat} {greedy : Bool} (hlo : lo < P.size)
    (haddress : P[lo]? = some (.choice greedy first exit))
    (h : Provides text (lo + 1) P first lo R) :
    Provides text lo P lo exit (fun i j => ∃ n, Rounds R n i j) := by
  intro Q hQ
  have hbody := h Q fun k hlow hk => hQ k (Nat.le_of_succ_le hlow) hk
  exact .loop hlo ((hQ lo (Nat.le_refl lo) hlo).trans haddress) hbody

end Provides

open Emitter

/-- An emitter adds instructions that lead to the exit where a relation holds, with those that are
there already from an address on. -/
structure Emits (text : List Char) (lo : Nat) (e : Emitter Nat) (P : Program) (exit : Nat)
    (R : Nat → Nat → Prop) : Prop where
  grows : Grows P (e.run P).2
  start_lt : (e.run P).1 < (e.run P).2.size
  provides : Provides text lo (e.run P).2 (e.run P).1 exit R

namespace Emits

variable {text : List Char} {lo : Nat} {P : Program} {e : Emitter Nat} {exit : Nat}
  {R S : Nat → Nat → Prop}

theorem refl (h : exit < P.size) : Emits text lo (pure exit) P exit Eq := ⟨.refl, h, .refl⟩

theorem congr (h : Emits text lo e P exit R) (hRS : ∀ i j, R i j ↔ S i j) :
    Emits text lo e P exit S := ⟨h.grows, h.start_lt, h.provides.congr hRS⟩

theorem before {mid : Nat} (h : Emits text P.size e P mid R) (hlo : lo ≤ P.size)
    (h' : Provides text lo P mid exit S) :
    Emits text lo e P exit (fun i j => ∃ k, R i k ∧ S k j) :=
  ⟨h.grows, h.start_lt, (h.provides.lower hlo).comp (h'.grow h.grows)⟩

/-- What is emitted after something else has been. -/
theorem bind {e : Emitter α} {f : α → Emitter Nat} (h : Grows P (e.run P).2)
    (h' : Emits text lo (f (e.run P).1) (e.run P).2 exit R) : Emits text lo (e >>= f) P exit R :=
  ⟨h.trans h'.grows, h'.start_lt, h'.provides⟩

theorem push {i : Instruction} (hi : i.IsInside (P.size + 1))
    (h : Provides text lo (P.push i) P.size exit R) : Emits text lo (emit i) P exit R where
  grows := .push hi
  start_lt := by
    change P.size < (P.push i).size
    rw [Array.size_push]
    exact Nat.lt_succ_self _
  provides := h

theorem single {i : Instruction} (hi : i.IsInside (P.size + 1))
    (hways : ∀ p b, b ∈ i.ways text p ↔ b.1 = exit ∧ R p b.2) :
    Emits text P.size (emit i) P exit R := by
  refine push hi fun Q hQ => ?_
  rw [Array.size_push] at hQ ⊢
  have hi' := (hQ P.size (Nat.le_refl _) (Nat.lt_succ_self _)).trans Array.getElem?_push_size
  exact .single hi' hways

theorem choice {onward : Nat} (greedy : Bool) (hlo : lo ≤ P.size) (honward : onward < P.size)
    (hexit : exit < P.size) (h : Provides text lo P onward exit R) :
    Emits text lo (emit (.choice greedy onward exit)) P exit (fun i j => R i j ∨ i = j) := by
  exact push (Instruction.isInside_choice greedy (Nat.lt_succ_of_lt honward)
    (Nat.lt_succ_of_lt hexit)) (h.choice greedy hlo)

end Emits

section

variable {P : Program} {next : Nat}

theorem emits_char (text : List Char) (c : Char) (hnext : next < P.size) :
    Emits text P.size (emit (.char c next)) P next (Tree.Matches text (.literal [c])) := by
  refine .single (Nat.lt_succ_of_lt hnext) fun p b => ?_
  have hword : [c] <+: text.drop p ↔ text[p]? = some c := by
    rw [← List.head?_drop]
    cases text.drop p with
    | nil => simp
    | cons d rest => simp [List.cons_prefix_cons, eq_comm]
  change b ∈ (if text[p]? = some c then [(next, p + 1)] else []) ↔ _ ∧ [c] <+: _ ∧ _ = p + 1
  rw [hword]
  split
  · next h => simp [h, Prod.ext_iff]
  · next h => simp [h]

theorem emitWord_emits (text word : List Char) (hnext : next < P.size) :
    Emits text P.size (emitWord word next) P next (Tree.Matches text (.literal word.reverse)) := by
  induction word generalizing P next with
  | nil => exact (Emits.refl hnext).congr fun i j => by simp [Tree.Matches, eq_comm]
  | cons c cs ih =>
    have hchar := emits_char text c hnext
    refine .bind hchar.grows ?_
    refine ((ih hchar.start_lt).before hchar.grows.size_le hchar.provides).congr fun i j => ?_
    rw [List.reverse_cons, Tree.matches_literal_append]

end

section

variable {R S : Nat → Nat → Prop} {n i j : Nat}

theorem rounds_zero : Rounds R 0 i j ↔ i = j := by
  constructor
  · rintro ⟨⟩
    rfl
  · rintro rfl
    exact .none

theorem rounds_succ : Rounds R (n + 1) i j ↔ ∃ k, R i k ∧ Rounds R n k j := by
  constructor
  · rintro (_ | ⟨hR, hrounds⟩)
    exact ⟨_, hR, hrounds⟩
  · rintro ⟨k, hR, hrounds⟩
    exact .more hR hrounds

theorem rounds_add {m : Nat} :
    Rounds R (m + n) i j ↔ ∃ k, Rounds R m i k ∧ Rounds R n k j := by
  induction m generalizing i with
  | zero => simp [rounds_zero]
  | succ m ih =>
    rw [Nat.add_right_comm, rounds_succ]
    simp only [ih, rounds_succ]
    constructor
    · rintro ⟨k, hR, l, hm, hn⟩
      exact ⟨l, ⟨k, hR, hm⟩, hn⟩
    · rintro ⟨l, ⟨k, hR, hm⟩, hn⟩
      exact ⟨k, hR, l, hm, hn⟩

theorem rounds_one : Rounds R 1 i j ↔ R i j := by
  simp [rounds_succ, rounds_zero]

end

section

variable {text : List Char} {body : Nat → Emitter Nat} {R S : Nat → Nat → Prop}
  (hbody : ∀ (P : Program) (next : Nat), next < P.size → Emits text P.size (body next) P next R)
include hbody

theorem emitCopies_emits (n : Nat) {P : Program} {next : Nat} (hnext : next < P.size) :
    Emits text P.size (emitCopies body n next) P next (Rounds R n) := by
  induction n generalizing P next with
  | zero => exact (Emits.refl hnext).congr fun i j => rounds_zero.symm
  | succ n ih =>
    have hfirst := hbody P next hnext
    refine .bind hfirst.grows ?_
    refine ((ih hfirst.start_lt).before hfirst.grows.size_le hfirst.provides).congr fun i j => ?_
    rw [rounds_add]
    exact exists_congr fun k => and_congr_right fun _ => rounds_one.symm

theorem emitOptional_emits (greedy : Bool) (n : Nat) {P : Program} {lo next exit : Nat}
    (hlo : lo ≤ P.size) (hnext : next < P.size) (hexit : exit < P.size)
    (h : Provides text lo P next exit S) :
    Emits text lo (emitOptional body greedy exit n next) P exit
      (fun i j => (∃ k, Rounds R n i k ∧ S k j) ∨ ∃ m < n, Rounds R m i j) := by
  induction n generalizing P next S with
  | zero =>
    refine ⟨.refl, hnext, h.congr fun i j => ?_⟩
    simp [rounds_zero]
  | succ n ih =>
    have hcopy := (hbody P next hnext).before hlo h
    have hlo' := Nat.le_trans hlo hcopy.grows.size_le
    have hexit' := Nat.lt_of_lt_of_le hexit hcopy.grows.size_le
    have hchoice := Emits.choice greedy hlo' hcopy.start_lt hexit' hcopy.provides
    have hrest := ih (Nat.le_trans hlo' hchoice.grows.size_le) hchoice.start_lt
      (Nat.lt_of_lt_of_le hexit' hchoice.grows.size_le) hchoice.provides
    refine (Emits.bind hcopy.grows (.bind hchoice.grows hrest)).congr fun i j => ?_
    constructor
    · rintro (⟨k, hn, ⟨l, hR, hS⟩ | rfl⟩ | ⟨m, hm, hrounds⟩)
      · exact .inl ⟨l, rounds_add.2 ⟨k, hn, rounds_one.2 hR⟩, hS⟩
      · exact .inr ⟨n, Nat.lt_succ_self n, hn⟩
      · exact .inr ⟨m, Nat.lt_succ_of_lt hm, hrounds⟩
    · rintro (⟨l, hrounds, hS⟩ | ⟨m, hm, hrounds⟩)
      · obtain ⟨k, hn, hR⟩ := rounds_add.1 hrounds
        exact .inl ⟨k, hn, .inl ⟨l, rounds_one.1 hR, hS⟩⟩
      · rcases Nat.lt_succ_iff_lt_or_eq.1 hm with hm | rfl
        · exact .inr ⟨m, hm, hrounds⟩
        · exact .inl ⟨j, hrounds, .inr rfl⟩

/-- A loop may be entered at its choice, or first of all at its body. -/
theorem emitLoop_emits (greedy : Bool) {P : Program} {next : Nat} (hnext : next < P.size) :
    ∃ first P', (emitLoop body fun first => .choice greedy first next).run P =
        ((P.size, first), P') ∧
      Grows P P' ∧ P.size < P'.size ∧ first < P'.size ∧
      Provides text P.size P' P.size next (fun i j => ∃ n, Rounds R n i j) ∧
      Provides text P.size P' first next (fun i j => ∃ n, Rounds R (n + 1) i j) := by
  have hpush : (P.push .accept).size = P.size + 1 := Array.size_push _
  obtain ⟨hgrows, hfirst, hprovides⟩ := hbody (P.push .accept) P.size (by omega)
  generalize hrun : (body P.size).run (P.push .accept) = r at hgrows hfirst hprovides
  obtain ⟨first, P'⟩ := r
  dsimp only at hgrows hfirst hprovides
  rw [hpush] at hprovides
  have hsize : P.size < P'.size := Nat.lt_of_lt_of_le (by omega) hgrows.size_le
  have hchoice : (Instruction.choice greedy first next).IsInside P'.size :=
    Instruction.isInside_choice greedy hfirst (Nat.lt_trans hnext hsize)
  have hset : (P'.setIfInBounds P.size (.choice greedy first next))[P.size]? =
      some (.choice greedy first next) := by
    rw [Array.getElem?_setIfInBounds_self, if_pos hsize]
  have hsizeSet : (P'.setIfInBounds P.size (.choice greedy first next)).size = P'.size :=
    Array.size_setIfInBounds
  have hround := hprovides.fill (.choice greedy first next)
  have hloop := hround.loop (by omega) hset
  refine ⟨first, P'.setIfInBounds P.size (.choice greedy first next), ?_, hgrows.fill hchoice,
    by omega, by omega, hloop, ?_⟩
  · change (let r := (body P.size).run (P.push .accept)
      ((P.size, r.1), r.2.setIfInBounds P.size (.choice greedy r.1 next))) = _
    rw [hrun]
  · refine ((hround.lower (Nat.le_succ _)).comp hloop).congr fun i j => ?_
    simp only [rounds_succ]
    constructor
    · rintro ⟨k, hR, n, hrounds⟩
      exact ⟨n, k, hR, hrounds⟩
    · rintro ⟨n, k, hR, hrounds⟩
      exact ⟨k, hR, n, hrounds⟩

theorem emitRepetition_emits (takesText : Bool) (least : Nat) (most : Option Nat) (greedy : Bool)
    {P : Program} {next : Nat} (hnext : next < P.size) :
    Emits text P.size (emitRepetition body takesText least most greedy next) P next (fun i j =>
      ∃ n, least ≤ n ∧ (∀ m, most = some m → n ≤ max least m) ∧ Rounds R n i j) := by
  cases most with
  | some most =>
    have hoptional := emitOptional_emits hbody greedy (most - least) (Nat.le_refl _) hnext hnext
      (.refl (P := P))
    refine .bind hoptional.grows ?_
    refine ((emitCopies_emits hbody least hoptional.start_lt).before hoptional.grows.size_le
      hoptional.provides).congr fun i j => ?_
    constructor
    · rintro ⟨k, hleast, ⟨_, hrest, rfl⟩ | ⟨m, hm, hrest⟩⟩
      · refine ⟨least + (most - least), by omega, ?_, rounds_add.2 ⟨k, hleast, hrest⟩⟩
        rintro _ ⟨⟩
        omega
      · refine ⟨least + m, by omega, ?_, rounds_add.2 ⟨k, hleast, hrest⟩⟩
        rintro _ ⟨⟩
        omega
    · rintro ⟨n, hle, hmost, hrounds⟩
      have hn := hmost most rfl
      obtain ⟨m, rfl⟩ := Nat.exists_eq_add_of_le hle
      obtain ⟨k, hleast, hrest⟩ := rounds_add.1 hrounds
      rcases Nat.lt_or_ge m (most - least) with hm | hm
      · exact ⟨k, hleast, .inr ⟨m, hm, hrest⟩⟩
      · obtain rfl : m = most - least := by omega
        exact ⟨k, hleast, .inl ⟨j, hrest, rfl⟩⟩
  | none =>
    obtain ⟨first, P', hrun, hgrows, hagain, hfirst, hloop, hbodyFirst⟩ :=
      emitLoop_emits hbody greedy hnext
    refine .bind (by rw [hrun]; exact hgrows) ?_
    rw [hrun]
    have hany (i j : Nat) : (∃ n, Rounds R n i j) ↔ ∃ n, 0 ≤ n ∧
        (∀ m, none = some m → n ≤ max 0 m) ∧ Rounds R n i j := by simp
    cases least with
    | zero =>
      cases takesText with
      | true => exact ⟨.refl, hagain, hloop.congr hany⟩
      | false =>
        refine (Emits.choice greedy hgrows.size_le hfirst (Nat.lt_of_lt_of_le hnext hgrows.size_le)
          hbodyFirst).congr fun i j => (Iff.trans ?_ (hany i j))
        constructor
        · rintro (⟨n, hrounds⟩ | rfl)
          · exact ⟨n + 1, hrounds⟩
          · exact ⟨0, .none⟩
        · rintro ⟨n, hrounds⟩
          cases n with
          | zero => exact .inr (rounds_zero.1 hrounds)
          | succ n => exact .inl ⟨n, hrounds⟩
    | succ least =>
      refine ((emitCopies_emits hbody least hfirst).before hgrows.size_le hbodyFirst).congr
        fun i j => ?_
      constructor
      · rintro ⟨k, hleast, n, hrest⟩
        exact ⟨least + (n + 1), by omega, nofun, rounds_add.2 ⟨k, hleast, hrest⟩⟩
      · rintro ⟨n, hle, -, hrounds⟩
        obtain ⟨m, rfl⟩ := Nat.exists_eq_add_of_le hle
        rw [Nat.succ_add_eq_add_succ] at hrounds
        obtain ⟨k, hleast, hrest⟩ := rounds_add.1 hrounds
        exact ⟨k, hleast, m, hrest⟩

end

/-- A tree's instructions lead on where the tree matches. -/
theorem Tree.emit_emits (text : List Char) (t : Tree) (P : Program) (next : Nat)
    (hnext : next < P.size) : Emits text P.size (t.emit next) P next (t.Matches text) := by
  induction t generalizing P next with
  | empty => exact .refl hnext
  | literal word =>
    have h := emitWord_emits text word.reverse hnext
    rwa [List.reverse_reverse] at h
  | oneOf set =>
    refine .single (Nat.lt_succ_of_lt hnext) fun p b => ?_
    change b ∈ (if text[p]?.any set.contains then [(next, p + 1)] else []) ↔ _ ∧ _ ∧ _ = p + 1
    split
    · next h => simp [h, Prod.ext_iff]
    · next h => simp [h]
  | assertion a =>
    refine .single (Nat.lt_succ_of_lt hnext) fun p b => ?_
    change b ∈ (if a.holds (charBefore text p) text[p]? then [(next, p)] else []) ↔ _ ∧ _ ∧ p = _
    split
    · next h => simp [h, Prod.ext_iff, eq_comm]
    · next h => simp [h]
  | capture index t ih =>
    have hmark (slot : Nat) {P : Program} {next : Nat} (hnext : next < P.size) :
        Emits text P.size (Emitter.emit (.mark slot next)) P next Eq := by
      refine .single (Nat.lt_succ_of_lt hnext) fun p b => ?_
      change b ∈ [(next, p)] ↔ _
      simp [Prod.ext_iff, eq_comm]
    have hlast := hmark (2 * index + 1) hnext
    have hbody := (ih _ _ hlast.start_lt).before hlast.grows.size_le hlast.provides
    have hfirst := (hmark (2 * index) hbody.start_lt).before
      (Nat.le_trans hlast.grows.size_le hbody.grows.size_le) hbody.provides
    refine (Emits.bind hlast.grows (.bind hbody.grows hfirst)).congr fun i j => ?_
    simp [Tree.Matches]
  | seq a b iha ihb =>
    have hb := ihb P next hnext
    exact .bind hb.grows ((iha _ _ hb.start_lt).before hb.grows.size_le hb.provides)
  | alt a b iha ihb =>
    have ha := iha P next hnext
    have hb := ihb _ next (Nat.lt_of_lt_of_le hnext ha.grows.size_le)
    refine .bind ha.grows (.bind hb.grows (.push ?_ ?_))
    · exact ⟨Nat.lt_succ_of_lt (Nat.lt_of_lt_of_le ha.start_lt hb.grows.size_le),
        Nat.lt_succ_of_lt hb.start_lt⟩
    · exact .branch (Nat.le_trans ha.grows.size_le hb.grows.size_le) (ha.provides.grow hb.grows)
        (hb.provides.lower ha.grows.size_le)
  | repetition t least most greedy ih =>
    exact emitRepetition_emits (fun P next => ih P next) _ least most greedy hnext

section

variable {t : Tree}

theorem Tree.program_emits (text : List Char) (t : Tree) :
    Emits text 1 (Tree.emit (.capture 0 t) 0) #[.accept] 0 (t.Matches text) :=
  Tree.emit_emits text (.capture 0 t) #[.accept] 0 Nat.one_pos

theorem Tree.program_accept : t.program.2[0]? = some .accept :=
  (program_emits [] t).grows.keeps 0 Nat.one_pos

theorem Tree.program_inside {k : Nat} (hpos : 0 < k) (hk : k < t.program.2.size) :
    ∃ i, t.program.2[k]? = some i ∧ i.IsInside t.program.2.size :=
  (program_emits [] t).grows.fresh k hpos hk

theorem Tree.program_start_lt : t.program.1 < t.program.2.size :=
  (program_emits [] t).start_lt

theorem Tree.program_runs {text : List Char} {i j : Nat} :
    (∃ n, Run t.program.2 text n (t.program.1, i) (0, j)) ↔ t.Matches text i j := by
  have himplements := (program_emits text t).provides t.program.2
    fun _ _ _ => rfl
  constructor
  · rintro ⟨n, hrun⟩
    obtain ⟨m, -, k, hmatches, hrest⟩ := himplements.sound n i _ hrun (.inl Nat.one_pos)
    cases hrest with
    | stay => exact hmatches
    | go hi hstep _ =>
      rw [program_accept] at hi
      cases hi
      cases hstep
  · exact himplements.complete i j

end

end SeriesQuery.Pattern
