import Mathlib.Data.List.Basic
import SeriesQuery.Text.Quoted

/-!
# Reading quoted text

A quoted text can be read back: no two texts have the same form between quotes, whatever stands
behind the closing quote. Every escaped form begins with a backslash, the character behind it
tells which form it is, and a code point ends with its closing brace.
-/

namespace SeriesQuery.Text

theorem digitChar_injective {a b : Nat} (ha : a < 16) (hb : b < 16)
    (h : a.digitChar = b.digitChar) : a = b := by
  have key : ∀ a < 16, ∀ b < 16, a.digitChar = b.digitChar → a = b := by decide
  exact key a ha b hb h

theorem hexDigits_eq (n : Nat) :
    hexDigits n =
      if n < 16 then [n.digitChar] else hexDigits (n / 16) ++ [(n % 16).digitChar] := by
  unfold hexDigits
  rw [Nat.toDigits_eq_if (by decide)]

theorem mem_hexDigits {n : Nat} {c : Char} (h : c ∈ hexDigits n) :
    ∃ d, d < 16 ∧ c = d.digitChar := by
  induction n using Nat.strongRecOn with
  | ind n ih =>
    rw [hexDigits_eq] at h
    by_cases hn : n < 16
    · rw [if_pos hn, List.mem_singleton] at h
      exact ⟨n, hn, h⟩
    · rw [if_neg hn, List.mem_append, List.mem_singleton] at h
      rcases h with h | h
      · exact ih (n / 16) (by omega) h
      · exact ⟨n % 16, by omega, h⟩

theorem ne_closing_of_mem_hexDigits {n : Nat} {c : Char} (h : c ∈ hexDigits n) : c ≠ '\x7d' := by
  obtain ⟨d, hd, rfl⟩ := mem_hexDigits h
  have key : ∀ d < 16, d.digitChar ≠ '\x7d' := by decide
  exact key d hd

theorem hexDigits_injective {a b : Nat} (h : hexDigits a = hexDigits b) : a = b := by
  induction a using Nat.strongRecOn generalizing b with
  | ind a ih =>
    have hnonempty (n : Nat) : hexDigits n ≠ [] := Nat.toDigits_ne_nil
    rw [hexDigits_eq a, hexDigits_eq b] at h
    by_cases ha : a < 16
    · rw [if_pos ha] at h
      by_cases hb : b < 16
      · rw [if_pos hb] at h
        exact digitChar_injective ha hb (List.singleton_inj.1 h)
      · rw [if_neg hb] at h
        have hlength := congrArg List.length h
        have hpos := List.length_pos_iff.2 (hnonempty (b / 16))
        rw [List.length_singleton, List.length_append, List.length_singleton] at hlength
        omega
    · rw [if_neg ha] at h
      by_cases hb : b < 16
      · rw [if_pos hb] at h
        have hlength := congrArg List.length h
        have hpos := List.length_pos_iff.2 (hnonempty (a / 16))
        rw [List.length_singleton, List.length_append, List.length_singleton] at hlength
        omega
      · rw [if_neg hb] at h
        obtain ⟨hinit, hlast⟩ := List.append_inj' h rfl
        have hquot := ih (a / 16) (by omega) hinit
        have hrem := digitChar_injective (by omega) (by omega) (List.singleton_inj.1 hlast)
        omega

/-- Where a text of certain characters ends is determined by the first other character. -/
theorem append_cons_inj {γ : Type} {P : γ → Prop} {p q x y : List γ} {c d : γ}
    (hp : ∀ a ∈ p, P a) (hq : ∀ a ∈ q, P a) (hc : ¬P c) (hd : ¬P d)
    (h : p ++ c :: x = q ++ d :: y) : p = q ∧ c :: x = d :: y := by
  induction p generalizing q with
  | nil =>
    cases q with
    | nil => exact ⟨rfl, h⟩
    | cons b q =>
      obtain ⟨rfl, -⟩ := List.cons.inj h
      exact absurd (hq c (.head _)) hc
  | cons a p ih =>
    cases q with
    | nil =>
      obtain ⟨rfl, -⟩ := List.cons.inj h
      exact absurd (hp a (.head _)) hd
    | cons b q =>
      obtain ⟨rfl, hrest⟩ := List.cons.inj h
      have hp' : ∀ a ∈ p, P a := fun a ha => hp a (.tail _ ha)
      have hq' : ∀ a ∈ q, P a := fun a ha => hq a (.tail _ ha)
      obtain ⟨rfl, htail⟩ := ih hp' hq' hrest
      exact ⟨rfl, htail⟩

def shortForm? (c : Char) : Option Char :=
  if c = '\x00' then some '0'
  else if c = '\t' then some 't'
  else if c = '\r' then some 'r'
  else if c = '\n' then some 'n'
  else if c = '"' then some '"'
  else if c = '\\' then some '\\'
  else none

theorem escape_cases (c : Char) :
    (∃ k, shortForm? c = some k ∧ escape c = ['\\', k]) ∨
      escape c = '\\' :: 'u' :: '\x7b' :: (hexDigits c.toNat ++ ['\x7d']) ∨
      (c ≠ '\\' ∧ c ≠ '"' ∧ escape c = [c]) := by
  unfold shortForm? escape
  repeat' split
  all_goals simp_all

theorem shortForm?_ne_u {c k : Char} (h : shortForm? c = some k) : k ≠ 'u' := by
  rintro rfl
  unfold shortForm? at h
  repeat' split at h
  all_goals simp at h

theorem shortForm?_injective {a b k : Char} (ha : shortForm? a = some k)
    (hb : shortForm? b = some k) : a = b := by
  unfold shortForm? at ha hb
  repeat' split at ha
  all_goals
    cases ha
    repeat' split at hb
    all_goals simp_all

/-- The form of a character tells which character it is and where it ends. -/
theorem escape_append_inj {a b : Char} {x y : List Char} (h : escape a ++ x = escape b ++ y) :
    a = b ∧ x = y := by
  rcases escape_cases a with ⟨k, hk, ha⟩ | ha | ⟨hslash, -, ha⟩
  · rcases escape_cases b with ⟨l, hl, hb⟩ | hb | ⟨hslash, -, hb⟩
    · rw [ha, hb] at h
      simp only [List.cons_append, List.nil_append, List.cons.injEq, true_and] at h
      obtain ⟨rfl, rfl⟩ := h
      exact ⟨shortForm?_injective hk hl, rfl⟩
    · rw [ha, hb] at h
      simp only [List.cons_append, List.nil_append, List.cons.injEq, true_and] at h
      exact absurd h.1 (shortForm?_ne_u hk)
    · rw [ha, hb] at h
      simp only [List.cons_append, List.nil_append, List.cons.injEq] at h
      exact absurd h.1.symm hslash
  · rcases escape_cases b with ⟨l, hl, hb⟩ | hb | ⟨hslash, -, hb⟩
    · rw [ha, hb] at h
      simp only [List.cons_append, List.nil_append, List.cons.injEq, true_and] at h
      exact absurd h.1.symm (shortForm?_ne_u hl)
    · rw [ha, hb] at h
      simp only [List.cons_append, List.append_assoc, List.nil_append, List.cons.injEq,
        true_and] at h
      obtain ⟨hdigits, htail⟩ := append_cons_inj (P := (· ≠ '\x7d'))
        (fun _ => ne_closing_of_mem_hexDigits) (fun _ => ne_closing_of_mem_hexDigits)
        (fun hne => hne rfl) (fun hne => hne rfl) h
      have hnat := hexDigits_injective hdigits
      exact ⟨Char.toNat_inj.1 hnat, (List.cons.inj htail).2⟩
    · rw [ha, hb] at h
      simp only [List.cons_append, List.nil_append, List.cons.injEq] at h
      exact absurd h.1.symm hslash
  · rcases escape_cases b with ⟨l, hl, hb⟩ | hb | ⟨-, -, hb⟩
    · rw [ha, hb] at h
      simp only [List.cons_append, List.nil_append, List.cons.injEq] at h
      exact absurd h.1 hslash
    · rw [ha, hb] at h
      simp only [List.cons_append, List.nil_append, List.cons.injEq] at h
      exact absurd h.1 hslash
    · rw [ha, hb] at h
      simp only [List.cons_append, List.nil_append, List.cons.injEq] at h
      exact h

theorem escape_append_ne_quote (c : Char) (x y : List Char) : escape c ++ x ≠ '"' :: y := by
  intro h
  rcases escape_cases c with ⟨k, -, hc⟩ | hc | ⟨-, hquote, hc⟩
  · rw [hc] at h
    simp only [List.cons_append, List.cons.injEq] at h
    exact absurd h.1 (by decide)
  · rw [hc] at h
    simp only [List.cons_append, List.cons.injEq] at h
    exact absurd h.1 (by decide)
  · rw [hc] at h
    simp only [List.cons_append, List.cons.injEq] at h
    exact hquote h.1

theorem flatMap_escape_inj {v w x y : List Char}
    (h : v.flatMap escape ++ '"' :: x = w.flatMap escape ++ '"' :: y) : v = w ∧ x = y := by
  induction v generalizing w with
  | nil =>
    cases w with
    | nil => exact ⟨rfl, (List.cons.inj h).2⟩
    | cons d w =>
      rw [List.flatMap_cons, List.append_assoc] at h
      exact absurd h.symm (escape_append_ne_quote d _ _)
  | cons c v ih =>
    cases w with
    | nil =>
      rw [List.flatMap_cons, List.append_assoc] at h
      exact absurd h (escape_append_ne_quote c _ _)
    | cons d w =>
      rw [List.flatMap_cons, List.flatMap_cons, List.append_assoc, List.append_assoc] at h
      obtain ⟨rfl, hrest⟩ := escape_append_inj h
      obtain ⟨rfl, rfl⟩ := ih hrest
      exact ⟨rfl, rfl⟩

/-- A quoted text and what stands behind it are determined by the text of both. -/
theorem quote_append_inj {v w : String} {x y : List Char}
    (h : (quote v).toList ++ x = (quote w).toList ++ y) : v = w ∧ x = y := by
  unfold quote at h
  rw [String.toList_ofList, String.toList_ofList] at h
  simp only [List.cons_append, List.append_assoc, List.nil_append, List.cons.injEq,
    true_and] at h
  obtain ⟨hlist, rfl⟩ := flatMap_escape_inj h
  exact ⟨String.toList_inj.1 hlist, rfl⟩

end SeriesQuery.Text
