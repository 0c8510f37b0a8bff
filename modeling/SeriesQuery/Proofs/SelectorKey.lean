import Mathlib.Data.List.Basic
import SeriesQuery.Evaluation.Stepwise
import SeriesQuery.Proofs.Text.Quoted
import SeriesQuery.Relabel
import Std.Data.String.ToInt

/-!
# Selector keys

Series are remembered by the displayed matchers of their selector and by its window. Values are
quoted in the key and the names of labels are not. If no name contains a quote or ends with an
exclamation mark, then the text can be read back: a name and its operator end before the quote,
the operator is told by its characters, and a quoted value ends at its closing quote.
-/

namespace SeriesQuery

/-- The name of the label shows where it ends when an operator and a quoted value follow. -/
def LabelMatcher.Delimited (m : LabelMatcher) : Prop :=
  '"' ∉ m.name.toList ∧ m.name.toList.getLast? ≠ some '!'

instance (m : LabelMatcher) : Decidable m.Delimited := inferInstanceAs (Decidable (_ ∧ _))

def IsNameChar (c : Char) : Prop := (c.isAlphanum || c = '_') = true

theorem isNameChar_of_mem {name : String} (h : isLabelName name = true) {c : Char}
    (hc : c ∈ name.toList) : IsNameChar c := by
  unfold isLabelName at h
  generalize name.toList = chars at h hc
  cases chars with
  | nil => cases h
  | cons a rest =>
    rw [Bool.and_eq_true, List.all_eq_true] at h
    rcases List.mem_cons.1 hc with rfl | hc
    · have ha := h.1
      unfold IsNameChar Char.isAlphanum
      simp only [Bool.or_eq_true, decide_eq_true_eq] at ha ⊢
      tauto
    · exact h.2 c hc

theorem LabelMatcher.delimited_of_isLabelName {m : LabelMatcher}
    (h : isLabelName m.name = true) : m.Delimited := by
  constructor
  · intro hquote
    have hchar : IsNameChar '"' := isNameChar_of_mem h hquote
    exact absurd hchar (by unfold IsNameChar; decide)
  · intro hlast
    have hchar : IsNameChar '!' := isNameChar_of_mem h (List.mem_of_getLast? hlast)
    exact absurd hchar (by unfold IsNameChar; decide)

namespace MatchOp

theorem quote_notMem_symbol (op : MatchOp) : '"' ∉ op.symbol.toList := by
  cases op <;> decide

/-- A name that does not end with an exclamation mark can be told from the operator behind it. -/
theorem append_symbol_inj {op op' : MatchOp} {name name' : List Char}
    (h : name.getLast? ≠ some '!') (h' : name'.getLast? ≠ some '!')
    (heq : name ++ op.symbol.toList = name' ++ op'.symbol.toList) : name = name' ∧ op = op' := by
  -- read from the end, the operator comes first
  have key : ∀ r r' : List Char, r.head? ≠ some '!' → r'.head? ≠ some '!' →
      op.symbol.toList.reverse ++ r = op'.symbol.toList.reverse ++ r' → r = r' ∧ op = op' := by
    intro r r' hr hr' hrr
    clear h h' heq
    cases op <;> cases op' <;> simp_all [symbol]
    subst hrr
    exact hr' rfl
  have hreverse := congrArg List.reverse heq
  rw [List.reverse_append, List.reverse_append] at hreverse
  rw [List.getLast?_eq_head?_reverse] at h h'
  obtain ⟨hname, hop⟩ := key _ _ h h' hreverse
  exact ⟨List.reverse_injective hname, hop⟩

end MatchOp

namespace LabelMatcher

theorem toList_display (m : LabelMatcher) :
    m.display.toList =
      (m.name.toList ++ m.op.symbol.toList) ++
        '"' :: (m.value.toList.flatMap Text.escape ++ ['"']) := by
  unfold display Text.quote
  rw [String.toList_append, String.toList_append, String.toList_ofList]
  rfl

theorem quote_mem_display (m : LabelMatcher) : '"' ∈ m.display.toList := by
  rw [toList_display]
  exact List.mem_append_right _ (.head _)

/-- A displayed matcher tells which matcher it is and where it ends. -/
theorem display_append_inj {m m' : LabelMatcher} (hm : m.Delimited) (hm' : m'.Delimited)
    {x y : List Char} (h : m.display.toList ++ x = m'.display.toList ++ y) : m = m' ∧ x = y := by
  have hquote {m : LabelMatcher} (hm : m.Delimited) :
      ∀ c ∈ m.name.toList ++ m.op.symbol.toList, c ≠ '"' := by
    rintro c hc rfl
    rcases List.mem_append.1 hc with hc | hc
    · exact hm.1 hc
    · exact m.op.quote_notMem_symbol hc
  rw [toList_display, toList_display, List.append_assoc _ _ x, List.append_assoc _ _ y,
    List.cons_append, List.cons_append] at h
  obtain ⟨hleft, hright⟩ := Text.append_cons_inj (P := (· ≠ '"')) (hquote hm) (hquote hm')
    (fun hne => hne rfl) (fun hne => hne rfl) h
  obtain ⟨hname, hop⟩ := MatchOp.append_symbol_inj hm.2 hm'.2 hleft
  have hvalues : (Text.quote m.value).toList ++ x = (Text.quote m'.value).toList ++ y := by
    unfold Text.quote
    rw [String.toList_ofList, String.toList_ofList]
    exact hright
  obtain ⟨hvalue, htail⟩ := Text.quote_append_inj hvalues
  exact ⟨LabelMatcher.ext_value (String.toList_inj.1 hname) hop hvalue, htail⟩

end LabelMatcher

/-- The displayed matchers behind the first, each after a comma. -/
def displayedRest : List LabelMatcher → List Char
  | [] => []
  | m :: rest => ',' :: (m.display.toList ++ displayedRest rest)

theorem toList_intercalate_display (m : LabelMatcher) (rest : List LabelMatcher) :
    (String.intercalate "," ((m :: rest).map LabelMatcher.display)).toList =
      m.display.toList ++ displayedRest rest := by
  induction rest generalizing m with
  | nil => simp [displayedRest]
  | cons m' rest ih =>
    rw [List.map_cons, List.map_cons, String.intercalate_cons_cons, String.toList_append,
      String.toList_append, List.append_assoc, ← List.map_cons, ih]
    rfl

theorem displayedRest_append_inj {ms ms' : List LabelMatcher} (hms : ∀ m ∈ ms, m.Delimited)
    (hms' : ∀ m ∈ ms', m.Delimited) {x y : List Char}
    (h : displayedRest ms ++ '\x7d' :: x = displayedRest ms' ++ '\x7d' :: y) :
    ms = ms' ∧ x = y := by
  induction ms generalizing ms' with
  | nil =>
    cases ms' with
    | nil => exact ⟨rfl, (List.cons.inj h).2⟩
    | cons m' rest' => exact absurd (List.cons.inj h).1 (by decide)
  | cons m rest ih =>
    cases ms' with
    | nil => exact absurd (List.cons.inj h).1 (by decide)
    | cons m' rest' =>
      have hdisplayed : (m.display.toList ++ displayedRest rest) ++ '\x7d' :: x =
          (m'.display.toList ++ displayedRest rest') ++ '\x7d' :: y := (List.cons.inj h).2
      rw [List.append_assoc, List.append_assoc] at hdisplayed
      obtain ⟨rfl, hrest⟩ :=
        LabelMatcher.display_append_inj (hms m (.head _)) (hms' m' (.head _)) hdisplayed
      obtain ⟨rfl, rfl⟩ := ih (fun a ha => hms a (.tail _ ha)) (fun a ha => hms' a (.tail _ ha))
        hrest
      exact ⟨rfl, rfl⟩

/-- A text without quotes is not the text of a displayed matcher and what follows it. -/
theorem display_append_ne (m : LabelMatcher) (x : List Char) {y : List Char} (hy : '"' ∉ y) :
    m.display.toList ++ x ≠ y := by
  rintro rfl
  exact hy (List.mem_append_left _ m.quote_mem_display)

theorem intercalate_display_inj {ms ms' : List LabelMatcher} (hms : ∀ m ∈ ms, m.Delimited)
    (hms' : ∀ m ∈ ms', m.Delimited) {x y : List Char} (hx : '"' ∉ x) (hy : '"' ∉ y)
    (h : (String.intercalate "," (ms.map LabelMatcher.display)).toList ++ '\x7d' :: x =
      (String.intercalate "," (ms'.map LabelMatcher.display)).toList ++ '\x7d' :: y) :
    ms = ms' ∧ x = y := by
  have hclosing {z : List Char} (hz : '"' ∉ z) : '"' ∉ '\x7d' :: z := by
    simpa using hz
  cases ms with
  | nil =>
    cases ms' with
    | nil => exact ⟨rfl, (List.cons.inj h).2⟩
    | cons m' rest' =>
      rw [toList_intercalate_display, List.append_assoc] at h
      exact absurd h.symm (display_append_ne m' _ (hclosing hx))
  | cons m rest =>
    cases ms' with
    | nil =>
      rw [toList_intercalate_display, List.append_assoc] at h
      exact absurd h (display_append_ne m _ (hclosing hy))
    | cons m' rest' =>
      rw [toList_intercalate_display, toList_intercalate_display, List.append_assoc,
        List.append_assoc] at h
      obtain ⟨rfl, hrest⟩ :=
        LabelMatcher.display_append_inj (hms m (.head _)) (hms' m' (.head _)) h
      obtain ⟨rfl, rfl⟩ := displayedRest_append_inj (fun a ha => hms a (.tail _ ha))
        (fun a ha => hms' a (.tail _ ha)) hrest
      exact ⟨rfl, rfl⟩

def Selector.NamesLabels (s : Selector) : Prop := ∀ m ∈ s.matchers, isLabelName m.name = true

instance (s : Selector) : Decidable s.NamesLabels :=
  inferInstanceAs (Decidable (∀ m ∈ s.matchers, _))

namespace Selector

/-- The matchers of a selector can be read back from their text. -/
def Delimited (s : Selector) : Prop := ∀ m ∈ s.matchers, m.Delimited

instance (s : Selector) : Decidable s.Delimited :=
  inferInstanceAs (Decidable (∀ m ∈ s.matchers, _))

theorem NamesLabels.delimited {s : Selector} (h : s.NamesLabels) : s.Delimited :=
  fun m hm => LabelMatcher.delimited_of_isLabelName (h m hm)

theorem toList_key (s : Selector) (window : Int) :
    (s.key window).toList =
      '\x7b' :: ((String.intercalate "," (s.matchers.map LabelMatcher.display)).toList ++
        '\x7d' :: '[' :: ((toString window).toList ++ [']'])) := by
  simp only [key, String.toList_append, List.append_assoc]
  rfl

theorem quote_notMem_toString (window : Int) : '"' ∉ (toString window).toList := by
  have hdigits (n : Nat) : '"' ∉ n.repr.toList := by
    intro h
    rw [Nat.repr, String.toList_ofList] at h
    exact absurd (Nat.isDigit_of_mem_toDigits (by decide) (by decide) h) (by decide)
  change '"' ∉ window.repr.toList
  cases window with
  | ofNat n => exact hdigits n
  | negSucc n =>
    rw [Int.repr, String.toList_append, List.mem_append, not_or]
    exact ⟨by decide, hdigits _⟩

/-- Selectors are remembered under one key only if they select the same over the same window. -/
theorem key_inj {s s' : Selector} (hs : s.Delimited) (hs' : s'.Delimited) {window window' : Int}
    (h : s.key window = s'.key window') : s.matchers = s'.matchers ∧ window = window' := by
  have hlist := congrArg String.toList h
  rw [toList_key, toList_key] at hlist
  have htail (w : Int) : '"' ∉ '[' :: ((toString w).toList ++ [']']) := by
    have hw := quote_notMem_toString w
    simpa using hw
  obtain ⟨hmatchers, hwindow⟩ :=
    intercalate_display_inj hs hs' (htail window) (htail window') (List.cons.inj hlist).2
  have hdigits := (List.append_inj' (List.cons.inj hwindow).2 rfl).1
  exact ⟨hmatchers, Int.repr_injective (String.toList_inj.1 hdigits)⟩

theorem key_eq_iff {s s' : Selector} (hs : s.Delimited) (hs' : s'.Delimited)
    {window window' : Int} :
    s.key window = s'.key window' ↔ s.matchers = s'.matchers ∧ window = window' := by
  constructor
  · exact key_inj hs hs'
  · rintro ⟨hmatchers, rfl⟩
    unfold key
    rw [hmatchers]

end Selector

end SeriesQuery
