import Mathlib.Data.List.TakeDrop
import SeriesQuery.Pattern.Reader

/-!
# Texts before a closing

A pattern stands before a closing parenthesis and an anchor. What scans a text looks no further than
to where it stops, so if it leaves the closing alone it splits off the same of the text without the
closing.
-/

namespace SeriesQuery.Pattern

def closing : List Char := [')', '$']

/-- A text without its last two characters, which may be the closing. -/
def beforeClosing (x : List Char) : List Char := x.dropLast.dropLast

section

variable {c : Char} {cs x p q : List Char}

@[simp] theorem beforeClosing_append : beforeClosing (p ++ closing) = p := by
  simp [beforeClosing, closing, List.dropLast_append_of_ne_nil]

theorem beforeClosing_cons (h : closing <:+ cs) :
    beforeClosing (c :: cs) = c :: beforeClosing cs := by
  obtain ⟨p, rfl⟩ := h
  rw [← List.cons_append, beforeClosing_append, beforeClosing_append]

theorem closing_suffix_cons : closing <:+ c :: cs ↔ c :: cs = closing ∨ closing <:+ cs := by
  rw [List.suffix_cons_iff, eq_comm]

theorem of_closing_suffix {P : List Char → List Char → Prop} {z : List Char} (hz : z <:+ x)
    (hclosing : closing <:+ z) (h : ∀ p q, x = p ++ closing → z = q ++ closing → P p q) :
    P (beforeClosing x) (beforeClosing z) := by
  obtain ⟨p, rfl⟩ := hclosing.trans hz
  obtain ⟨q, rfl⟩ := hclosing
  rw [beforeClosing_append, beforeClosing_append]
  exact h p q rfl rfl

theorem not_closing_suffix (h : x.length < 2) : ¬ closing <:+ x :=
  fun hsuffix => Nat.not_lt.2 hsuffix.length_le h

end

namespace Flags

variable {flags : Flags} {keep : Char → Bool} {x p q : List Char}

theorem dropBlanks_suffix (inComment : Bool) (x : List Char) : dropBlanks inComment x <:+ x := by
  induction x generalizing inComment with
  | nil => exact List.suffix_rfl
  | cons c cs ih =>
    unfold dropBlanks
    split_ifs
    · exact (ih _).trans (List.suffix_cons c cs)
    · exact (ih _).trans (List.suffix_cons c cs)
    · exact (ih _).trans (List.suffix_cons c cs)
    · exact List.suffix_rfl

theorem dropBlanks_append {inComment : Bool}
    (h : dropBlanks inComment (p ++ closing) = q ++ closing) : dropBlanks inComment p = q := by
  induction p generalizing inComment with
  | nil =>
    have hlength := (dropBlanks_suffix inComment closing).length_le
    rw [List.nil_append] at h
    rw [h, List.length_append] at hlength
    exact (List.length_eq_zero_iff.1 (by omega)).symm
  | cons c cs ih =>
    rw [List.cons_append] at h
    unfold dropBlanks at h ⊢
    split_ifs at h ⊢
    · exact ih h
    · exact ih h
    · exact ih h
    · exact List.append_cancel_right h

theorem skip_suffix (flags : Flags) (x : List Char) : flags.skip x <:+ x := by
  unfold skip
  split_ifs
  · exact dropBlanks_suffix false x
  · exact List.suffix_rfl

theorem isBlank_brace : isBlank '\x7b' = false := by decide +kernel

theorem isBlank_parenthesis : isBlank ')' = false := by decide +kernel

/-- A closing is dropped with a comment or not at all. -/
theorem dropBlanks_closing (inComment : Bool) (p : List Char) :
    dropBlanks inComment (p ++ closing) = [] ∨ closing <:+ dropBlanks inComment (p ++ closing) := by
  induction p generalizing inComment with
  | nil =>
    cases inComment with
    | true => exact .inl rfl
    | false =>
      refine .inr ?_
      simp [closing, dropBlanks, isBlank_parenthesis]
  | cons c cs ih =>
    rw [List.cons_append]
    unfold dropBlanks
    split_ifs
    · exact ih _
    · exact ih _
    · exact ih _
    · exact .inr (List.suffix_append (c :: cs) closing)

theorem skip_closing (flags : Flags) (p : List Char) :
    flags.skip (p ++ closing) = [] ∨ closing <:+ flags.skip (p ++ closing) := by
  unfold skip
  split_ifs
  · exact dropBlanks_closing false p
  · exact .inr (List.suffix_append p closing)

theorem skip_append (h : flags.skip (p ++ closing) = q ++ closing) : flags.skip p = q := by
  unfold skip at h ⊢
  split_ifs at h ⊢
  · exact dropBlanks_append h
  · exact List.append_cancel_right h

theorem span_suffix (flags : Flags) (keep : Char → Bool) (inComment : Bool) (x : List Char) :
    (flags.span keep inComment x).2 <:+ x := by
  induction x generalizing inComment with
  | nil => exact List.suffix_rfl
  | cons c cs ih =>
    unfold span
    split_ifs
    · exact (ih _).trans (List.suffix_cons c cs)
    · exact (ih _).trans (List.suffix_cons c cs)
    · exact (ih _).trans (List.suffix_cons c cs)
    · exact (ih _).trans (List.suffix_cons c cs)
    · exact List.suffix_rfl

theorem span_append {inComment : Bool} {taken : List Char}
    (h : flags.span keep inComment (p ++ closing) = (taken, q ++ closing)) :
    flags.span keep inComment p = (taken, q) := by
  induction p generalizing inComment taken with
  | nil =>
    have hshort {b : Bool} (hspan : (flags.span keep b ['$']).2 = q ++ closing) : False := by
      have hlength := (flags.span_suffix keep b ['$']).length_le
      rw [hspan, List.length_append] at hlength
      exact absurd hlength (by simp [closing])
    change flags.span keep inComment (')' :: ['$']) = _ at h
    unfold span at h ⊢
    split_ifs at h
    · exact (hshort (congrArg Prod.snd h)).elim
    · exact (hshort (congrArg Prod.snd h)).elim
    · exact (hshort (congrArg Prod.snd h)).elim
    · exact (hshort (congrArg Prod.snd h)).elim
    · obtain ⟨rfl, hq⟩ := Prod.mk.inj h
      have hq' : [] ++ closing = q ++ closing := hq
      rw [List.append_cancel_right hq']
  | cons c cs ih =>
    rw [List.cons_append] at h
    unfold span at h ⊢
    split_ifs at h ⊢
    · exact ih h
    · exact ih h
    · exact ih h
    · obtain ⟨rfl, hq⟩ := Prod.mk.inj h
      rw [ih (Prod.ext rfl hq)]
    · obtain ⟨rfl, hq⟩ := Prod.mk.inj h
      have hq' : c :: cs ++ closing = q ++ closing := hq
      rw [List.append_cancel_right hq']

theorem initial_span (keep : Char → Bool) (x : List Char) :
    initial.span keep false x = x.span keep := by
  rw [List.span_eq_takeWhile_dropWhile]
  induction x with
  | nil => rfl
  | cons c cs ih =>
    have hspan : initial.span keep false (c :: cs) =
      if keep c then (c :: (initial.span keep false cs).1, (initial.span keep false cs).2)
      else ([], c :: cs) := rfl
    rw [hspan, ih, List.takeWhile_cons, List.dropWhile_cons]
    split_ifs <;> rfl

theorem take?_suffix {n : Nat} {taken z : List Char} (h : flags.take? n x = some (taken, z)) :
    z <:+ x := by
  induction n generalizing x taken with
  | zero =>
    cases h
    exact List.suffix_rfl
  | succ n ih =>
    cases x with
    | nil => cases h
    | cons c cs =>
      obtain ⟨⟨taken', z'⟩, htake, hpure⟩ := Option.bind_eq_some_iff.1 h
      cases hpure
      exact (ih htake).trans ((flags.skip_suffix cs).trans (List.suffix_cons c cs))

theorem take?_append {n : Nat} {taken : List Char}
    (h : flags.take? n (p ++ closing) = some (taken, q ++ closing)) :
    flags.take? n p = some (taken, q) := by
  induction n generalizing p taken with
  | zero =>
    obtain ⟨rfl, hq⟩ := Prod.mk.inj (Option.some.inj h)
    rw [List.append_cancel_right hq]
    rfl
  | succ n ih =>
    cases p with
    | nil =>
      obtain ⟨⟨taken', z⟩, htake, hpure⟩ := Option.bind_eq_some_iff.1 h
      cases hpure
      have hlength := ((take?_suffix htake).trans (flags.skip_suffix _)).length_le
      rw [List.length_append] at hlength
      exact absurd hlength (by simp [closing])
    | cons c cs =>
      obtain ⟨⟨taken', z⟩, htake, hpure⟩ := Option.bind_eq_some_iff.1 h
      cases hpure
      change flags.take? n (flags.skip (cs ++ closing)) = _ at htake
      obtain ⟨r, hr⟩ : closing <:+ flags.skip (cs ++ closing) :=
        (List.suffix_append q closing).trans (take?_suffix htake)
      rw [← hr] at htake
      have hskip := skip_append hr.symm
      change (flags.take? n (flags.skip cs)).bind _ = _
      rw [hskip, ih htake]
      rfl

theorem skip_beforeClosing (hclosing : closing <:+ flags.skip x) :
    flags.skip (beforeClosing x) = beforeClosing (flags.skip x) :=
  of_closing_suffix (P := fun p q => flags.skip p = q) (flags.skip_suffix x) hclosing
    fun p q hp hq => skip_append (by rw [← hp, hq])

theorem span_beforeClosing {keep : Char → Bool} {taken z : List Char}
    (hspan : flags.span keep false x = (taken, z)) (hclosing : closing <:+ z) :
    flags.span keep false (beforeClosing x) = (taken, beforeClosing z) := by
  have hz := flags.span_suffix keep false x
  rw [hspan] at hz
  exact of_closing_suffix (P := fun p q => flags.span keep false p = (taken, q)) hz hclosing
    fun p q hp hq => span_append (by rw [← hp, hspan, hq])

theorem take?_succ_suffix {n : Nat} {c : Char} {cs taken z : List Char}
    (h : flags.take? (n + 1) (c :: cs) = some (taken, z)) : z <:+ cs := by
  obtain ⟨⟨taken', z'⟩, htake, hpure⟩ := Option.bind_eq_some_iff.1 h
  cases hpure
  exact (take?_suffix htake).trans (flags.skip_suffix cs)

theorem take?_beforeClosing {n : Nat} {taken z : List Char}
    (h : flags.take? n x = some (taken, z)) (hclosing : closing <:+ z) :
    flags.take? n (beforeClosing x) = some (taken, beforeClosing z) :=
  of_closing_suffix (P := fun p q => flags.take? n p = some (taken, q)) (take?_suffix h)
    hclosing fun p q hp hq => take?_append (by rw [← hp, h, hq])

end Flags

section

variable {flags : Flags} {x : List Char}

theorem span_split {keep : Char → Bool} {taken z : List Char} (h : x.span keep = (taken, z)) :
    z <:+ x ∧ (closing <:+ z → (beforeClosing x).span keep = (taken, beforeClosing z)) := by
  rw [← Flags.initial_span] at h ⊢
  refine ⟨?_, Flags.span_beforeClosing h⟩
  have hsuffix := Flags.initial.span_suffix keep false x
  rwa [h] at hsuffix

/-- A text that comes next without the closing comes next with it. -/
theorem isPrefix_of_beforeClosing {word : List Char} (hclosing : closing <:+ x)
    (h : word <+: beforeClosing x) : word <+: x := by
  obtain ⟨p, rfl⟩ := hclosing
  rw [beforeClosing_append] at h
  exact h.trans (List.prefix_append p closing)

/-- A text that comes next and leaves the closing comes next without the closing. -/
theorem isPrefix_beforeClosing {word : List Char} (hword : word <+: x)
    (hclosing : closing <:+ x.drop word.length) :
    word <+: beforeClosing x ∧
      (beforeClosing x).drop word.length = beforeClosing (x.drop word.length) := by
  refine of_closing_suffix (P := fun p q => word <+: p ∧ p.drop word.length = q)
    (List.drop_suffix _ _) hclosing ?_
  rintro p q rfl hq
  have hlength := congrArg List.length hq
  rw [List.length_drop, List.length_append, List.length_append] at hlength
  have htwo : closing.length = 2 := rfl
  have hle : word.length ≤ p.length := by omega
  refine ⟨List.prefix_of_prefix_length_le hword (List.prefix_append p closing) hle, ?_⟩
  rw [List.drop_append_of_le_length hle] at hq
  exact List.append_cancel_right hq

theorem isPrefix_iff_beforeClosing {word : List Char} (hword : ')' ∉ word)
    (hclosing : closing <:+ x) : word <+: x ↔ word <+: beforeClosing x := by
  refine ⟨fun h => ?_, isPrefix_of_beforeClosing hclosing⟩
  obtain ⟨p, rfl⟩ := hclosing
  rw [beforeClosing_append]
  rcases Nat.lt_or_ge p.length word.length with hlt | hle
  · have hparenthesis : p ++ [')'] <+: word := by
      refine List.prefix_of_prefix_length_le ⟨['$'], ?_⟩ h ?_
      · rw [List.append_assoc]
        rfl
      · rw [List.length_append]
        exact hlt
    exact absurd (hparenthesis.subset (List.mem_append_right p (List.mem_singleton_self _))) hword
  · exact List.prefix_of_prefix_length_le h (List.prefix_append p closing) hle

theorem dropWhile_isBlank_append (p : List Char) :
    (p ++ closing).dropWhile Flags.isBlank = p.dropWhile Flags.isBlank ++ closing := by
  induction p with
  | nil =>
    rw [List.nil_append, closing, List.dropWhile_cons_of_neg]
    · rfl
    · rw [Flags.isBlank_parenthesis]
      exact Bool.false_ne_true
  | cons c cs ih =>
    rw [List.cons_append, List.dropWhile_cons, List.dropWhile_cons, ih]
    split_ifs <;> rfl

theorem isHyphenAlone_append (p : List Char) :
    isHyphenAlone flags (p ++ closing) = isHyphenAlone flags p := by
  have hhead (p : List Char) : (decide ((p ++ closing).head? = some ']') ||
      decide ((p ++ closing).head? = some '-')) =
      (decide (p.head? = some ']') || decide (p.head? = some '-')) := by
    cases p <;> rfl
  unfold isHyphenAlone
  dsimp only
  split_ifs
  · rw [dropWhile_isBlank_append]
    cases p.dropWhile Flags.isBlank with
    | nil => rfl
    | cons c cs =>
      rw [List.cons_append]
      split
      · next cs' hcs =>
        cases hcs
        rw [dropWhile_isBlank_append]
        exact hhead _
      · next cs' hcs =>
        rw [← List.cons_append]
        split
        · next hcomment =>
          cases hcomment
          exact absurd rfl (hcs _)
        · exact hhead _
  · exact hhead p

theorem SetOperator.split?_append (p : List Char) :
    SetOperator.split? (p ++ closing) =
      (SetOperator.split? p).map fun r => (r.1, r.2 ++ closing) := by
  rcases p with _ | ⟨a, _ | ⟨b, p⟩⟩
  · rfl
  · simp [split?, closing]
  · unfold split?
    rw [List.cons_append, List.cons_append]
    split
    · next h =>
      cases h
      rfl
    · next h =>
      cases h
      rfl
    · next h =>
      cases h
      rfl
    · next hand hminus htilde =>
      split
      · next h =>
        cases h
        exact absurd rfl (hand _)
      · next h =>
        cases h
        exact absurd rfl (hminus _)
      · next h =>
        cases h
        exact absurd rfl (htilde _)
      · rfl

theorem splitCaret_append (p : List Char) :
    splitCaret (p ++ closing) = ((splitCaret p).1, (splitCaret p).2 ++ closing) := by
  cases p with
  | nil => rfl
  | cons a p =>
    by_cases ha : a = '^'
    · subst ha
      rfl
    · simp [splitCaret, ha]

theorem endNamedClass?_append (negated : Bool) (name z : List Char) :
    endNamedClass? negated name (z ++ closing) =
      (endNamedClass? negated name z).map fun r => (r.1, r.2.1, r.2.2 ++ closing) := by
  rcases z with _ | ⟨a, _ | ⟨b, z⟩⟩
  · rfl
  · simp [endNamedClass?, closing]
  · by_cases hab : a = ':' ∧ b = ']'
    · obtain ⟨rfl, rfl⟩ := hab
      change (namedClass? (String.ofList name)).map _ =
        ((namedClass? (String.ofList name)).map _).map _
      rw [Option.map_map]
      rfl
    · have hnone (z : List Char) : endNamedClass? negated name (a :: b :: z) = none := by
        unfold endNamedClass?
        split
        · next h =>
          cases h
          exact absurd ⟨rfl, rfl⟩ hab
        · rfl
      rw [List.cons_append, List.cons_append, hnone, hnone]
      rfl

theorem splitNamedClass?_append (p : List Char) :
    splitNamedClass? (p ++ closing) =
      (splitNamedClass? p).map fun r => (r.1, r.2.1, r.2.2 ++ closing) := by
  have hother (a : Char) (ha : a ≠ ':') (p : List Char) : splitNamedClass? (a :: p) = none := by
    unfold splitNamedClass?
    split
    · next h => exact absurd (List.cons.inj h).1 ha
    · rfl
  cases p with
  | nil => rfl
  | cons a p =>
    by_cases ha : a = ':'
    · subst ha
      rw [List.cons_append]
      simp only [splitNamedClass?, splitCaret_append, List.span_eq_takeWhile_dropWhile,
        List.takeWhile_append, List.dropWhile_append]
      cases hdrop : (splitCaret p).2.dropWhile (· != ':') with
      | nil => rfl
      | cons c z =>
        have hsum := congrArg List.length
          (List.takeWhile_append_dropWhile (p := (· != ':')) (l := (splitCaret p).2))
        rw [List.length_append, hdrop, List.length_cons] at hsum
        rw [if_neg (by omega), if_neg (by simp)]
        exact endNamedClass?_append _ _ (c :: z)
    · rw [List.cons_append, hother a ha, hother a ha]
      rfl

theorem SetOperator.split?_suffix {cs z : List Char} {op : SetOperator}
    (h : SetOperator.split? cs = some (op, z)) : z <:+ cs.tail := by
  unfold split? at h
  split at h
  · cases h
    exact List.suffix_cons ..
  · cases h
    exact List.suffix_cons ..
  · cases h
    exact List.suffix_cons ..
  · cases h

theorem splitNamedClass?_suffix {cs z : List Char} {negated : Bool} {set : CharSet}
    (h : splitNamedClass? cs = some (negated, set, z)) : z <:+ cs := by
  have hcaret (cs : List Char) : (splitCaret cs).2 <:+ cs := by
    unfold splitCaret
    split
    · exact List.suffix_cons ..
    · exact List.suffix_rfl
  have hend {negated' : Bool} {name cs : List Char}
      (h : endNamedClass? negated' name cs = some (negated, set, z)) : z <:+ cs := by
    unfold endNamedClass? at h
    split at h
    · obtain ⟨s, -, hs⟩ := Option.map_eq_some_iff.1 h
      cases hs
      exact List.suffix_append [':', ']'] z
    · cases h
  unfold splitNamedClass? at h
  split at h
  · dsimp only at h
    rw [List.span_eq_takeWhile_dropWhile] at h
    exact (hend h).trans ((List.dropWhile_suffix _).trans ((hcaret _).trans (List.suffix_cons ..)))
  · cases h

theorem SetOperator.split?_beforeClosing (hclosing : closing <:+ x) :
    SetOperator.split? (beforeClosing x) =
      (SetOperator.split? x).map fun r => (r.1, beforeClosing r.2) := by
  obtain ⟨p, rfl⟩ := hclosing
  simp [split?_append, Option.map_map, Function.comp_def]

theorem splitNamedClass?_beforeClosing (hclosing : closing <:+ x) :
    splitNamedClass? (beforeClosing x) =
      (splitNamedClass? x).map fun r => (r.1, r.2.1, beforeClosing r.2.2) := by
  obtain ⟨p, rfl⟩ := hclosing
  simp [splitNamedClass?_append, Option.map_map, Function.comp_def]

end

end SeriesQuery.Pattern
