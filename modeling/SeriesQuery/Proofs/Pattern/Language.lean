import Mathlib.Data.List.Basic
import SeriesQuery.Pattern.Tree

/-!
# What patterns match

A tree matches the text between two places. This says nothing of how a match is found, or of which
one is preferred.
-/

namespace SeriesQuery.Pattern

variable {text : List Char}

/-- So many matches, each of which begins where the one before it ends. -/
inductive Rounds (R : Nat → Nat → Prop) : Nat → Nat → Nat → Prop
  | none {i : Nat} : Rounds R 0 i i
  | more {n i j k : Nat} : R i j → Rounds R n j k → Rounds R (n + 1) i k

def charBefore (text : List Char) (i : Nat) : Option Char := if i = 0 then none else text[i - 1]?

namespace Tree

/-- A tree matches the text from one place to another. A repetition comes at least so often as it
has to, and no more often than it may. -/
def Matches (text : List Char) : Tree → Nat → Nat → Prop
  | empty, i, j => i = j
  | literal word, i, j => word <+: text.drop i ∧ j = i + word.length
  | oneOf set, i, j => text[i]?.any set.contains = true ∧ j = i + 1
  | assertion a, i, j => a.holds (charBefore text i) text[i]? = true ∧ i = j
  | capture _ t, i, j => t.Matches text i j
  | seq a b, i, j => ∃ k, a.Matches text i k ∧ b.Matches text k j
  | alt a b, i, j => a.Matches text i j ∨ b.Matches text i j
  | repetition t least most _, i, j =>
    ∃ n, least ≤ n ∧ (∀ m, most = some m → n ≤ max least m) ∧ Rounds (t.Matches text) n i j

def MatchesAll (t : Tree) (text : List Char) : Prop := t.Matches text 0 text.length

def InTurn (text : List Char) : List Tree → Nat → Nat → Prop
  | [], i, j => i = j
  | t :: rest, i, j => ∃ k, t.Matches text i k ∧ InTurn text rest k j

theorem inTurn_singleton {t : Tree} {i j : Nat} : InTurn text [t] i j ↔ t.Matches text i j := by
  constructor
  · rintro ⟨k, hk, rfl⟩
    exact hk
  · exact fun h => ⟨j, h, rfl⟩

theorem inTurn_append {ts us : List Tree} {i j : Nat} :
    InTurn text (ts ++ us) i j ↔ ∃ k, InTurn text ts i k ∧ InTurn text us k j := by
  induction ts generalizing i with
  | nil =>
    constructor
    · exact fun h => ⟨i, rfl, h⟩
    · rintro ⟨_, rfl, h⟩
      exact h
  | cons t rest ih =>
    constructor
    · rintro ⟨k, hk, hrest⟩
      obtain ⟨l, hl, hus⟩ := ih.1 hrest
      exact ⟨l, ⟨k, hk, hl⟩, hus⟩
    · rintro ⟨l, ⟨k, hk, hl⟩, hus⟩
      exact ⟨k, hk, ih.2 ⟨l, hl, hus⟩⟩

theorem inTurn_parts {t : Tree} {i j : Nat} : InTurn text t.parts i j ↔ t.Matches text i j := by
  induction t generalizing i with
  | empty => rfl
  | seq a b _ ihb => exact exists_congr fun k => and_congr_right fun _ => ihb
  | _ => exact inTurn_singleton

theorem inTurn_flatMap_parts {ts : List Tree} {i j : Nat} :
    InTurn text (ts.flatMap parts) i j ↔ InTurn text ts i j := by
  induction ts generalizing i with
  | nil => rfl
  | cons t rest ih =>
    rw [List.flatMap_cons, inTurn_append]
    exact exists_congr fun k => and_congr inTurn_parts ih

theorem matches_literal_append {a b : List Char} {i j : Nat} :
    Matches text (literal (a ++ b)) i j ↔
      ∃ k, Matches text (literal a) i k ∧ Matches text (literal b) k j := by
  constructor
  · rintro ⟨⟨rest, hrest⟩, rfl⟩
    have hdrop : text.drop (i + a.length) = b ++ rest := by
      rw [← List.drop_drop, ← hrest, List.append_assoc, List.drop_left]
    refine ⟨i + a.length, ⟨⟨b ++ rest, by rw [← hrest, List.append_assoc]⟩, rfl⟩, ?_, ?_⟩
    · exact ⟨rest, hdrop.symm⟩
    · rw [List.length_append, Nat.add_assoc]
  · rintro ⟨_, ⟨⟨rest, hrest⟩, rfl⟩, ⟨rest', hrest'⟩, rfl⟩
    rw [← List.drop_drop, ← hrest, List.drop_left] at hrest'
    refine ⟨⟨rest', ?_⟩, by rw [List.length_append, Nat.add_assoc]⟩
    rw [List.append_assoc, hrest', hrest]

theorem inTurn_joinLiterals {ts : List Tree} {i j : Nat} :
    InTurn text (joinLiterals ts) i j ↔ InTurn text ts i j := by
  induction ts generalizing i with
  | nil => rfl
  | cons t rest ih =>
    have hsame : InTurn text (t :: joinLiterals rest) i j ↔ InTurn text (t :: rest) i j :=
      exists_congr fun k => and_congr_right fun _ => ih
    cases t with
    | literal a =>
      unfold joinLiterals
      split
      · next b rest' hrest =>
        rw [← hsame, hrest]
        change (∃ k, _ ∧ _) ↔ ∃ k, _ ∧ ∃ l, _ ∧ _
        simp only [matches_literal_append]
        constructor
        · rintro ⟨l, ⟨k, ha, hb⟩, hl⟩
          exact ⟨k, ha, l, hb, hl⟩
        · rintro ⟨k, ha, l, hb, hl⟩
          exact ⟨l, ⟨k, ha, hb⟩, hl⟩
      · exact hsame
    | _ => exact hsame

theorem matches_ofParts {ts : List Tree} {i j : Nat} :
    (ofParts ts).Matches text i j ↔ InTurn text ts i j := by
  induction ts generalizing i with
  | nil => rfl
  | cons t rest ih =>
    cases rest with
    | nil => exact inTurn_singleton.symm
    | cons u rest => exact exists_congr fun k => and_congr_right fun _ => ih

theorem matches_concat {ts : List Tree} {i j : Nat} :
    (concat ts).Matches text i j ↔ InTurn text ts i j := by
  unfold concat
  rw [matches_ofParts, inTurn_joinLiterals, inTurn_flatMap_parts]

theorem Rounds.le_length {R : Nat → Nat → Prop} (hR : ∀ i j, i ≤ text.length → R i j →
    j ≤ text.length) {n i j : Nat} (hi : i ≤ text.length) (h : Rounds R n i j) :
    j ≤ text.length := by
  induction h with
  | none => exact hi
  | more hij _ ih => exact ih (hR _ _ hi hij)

theorem Matches.le_length {t : Tree} {i j : Nat} (hi : i ≤ text.length)
    (h : t.Matches text i j) : j ≤ text.length := by
  induction t generalizing i j with
  | empty => exact h ▸ hi
  | literal word =>
    obtain ⟨hword, rfl⟩ := h
    have hlength := hword.length_le
    rw [List.length_drop] at hlength
    omega
  | oneOf set =>
    obtain ⟨hany, rfl⟩ := h
    by_contra hlong
    rw [List.getElem?_eq_none (by omega)] at hany
    cases hany
  | assertion a => exact h.2 ▸ hi
  | capture index t ih => exact ih hi h
  | seq a b iha ihb =>
    obtain ⟨k, ha, hb⟩ := h
    exact ihb (iha hi ha) hb
  | alt a b iha ihb => exact h.elim (iha hi) (ihb hi)
  | repetition t least most greedy ih =>
    obtain ⟨n, -, -, hrounds⟩ := h
    exact Rounds.le_length (fun i j hi h => ih hi h) hi hrounds

theorem holds_textStart {i : Nat} (hi : i ≤ text.length) (after : Option Char) :
    Assertion.textStart.holds (charBefore text i) after = true ↔ i = 0 := by
  change (charBefore text i).isNone = true ↔ i = 0
  unfold charBefore
  by_cases hzero : i = 0
  · simp [hzero]
  · rw [if_neg hzero, List.getElem?_eq_getElem (by omega)]
    simp [hzero]

theorem holds_textEnd {i : Nat} (hi : i ≤ text.length) (before : Option Char) :
    Assertion.textEnd.holds before text[i]? = true ↔ i = text.length := by
  change text[i]?.isNone = true ↔ _
  rw [Option.isNone_iff_eq_none, List.getElem?_eq_none_iff]
  omega

/-- Between anchors a tree matches from the start of a text to its end. -/
def anchored (t : Tree) : Tree := concat [assertion .textStart, t, assertion .textEnd]

theorem matches_anchored {t : Tree} {i j : Nat} (hi : i ≤ text.length) :
    t.anchored.Matches text i j ↔ i = 0 ∧ j = text.length ∧ t.MatchesAll text := by
  unfold anchored
  rw [matches_concat]
  constructor
  · rintro ⟨_, ⟨hstart, rfl⟩, k, hk, _, ⟨hend, rfl⟩, rfl⟩
    obtain rfl := (holds_textStart hi _).1 hstart
    obtain rfl := (holds_textEnd (hk.le_length hi) _).1 hend
    exact ⟨rfl, rfl, hk⟩
  · rintro ⟨rfl, rfl, h⟩
    exact ⟨0, ⟨(holds_textStart hi _).2 rfl, rfl⟩, text.length, h, text.length,
      ⟨(holds_textEnd (Nat.le_refl _) _).2 rfl, rfl⟩, rfl⟩

end Tree

end SeriesQuery.Pattern
