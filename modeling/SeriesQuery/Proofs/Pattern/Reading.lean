import SeriesQuery.Proofs.Pattern.Closing

/-!
# Reading a pattern before a closing

Each reader that leaves the closing alone reads the text before it as it would without the closing:
the end of the text stops it as the parenthesis does.
-/

namespace SeriesQuery.Pattern

def ReadState.on (s : ReadState) (x : List Char) : ReadState := { s with rest := x }

theorem Reader.run_bind_eq_some {f : Reader α} {k : α → Reader β} {s t : ReadState} {b : β} :
    (f >>= k).run s = some (b, t) ↔
      ∃ a u, f.run s = some (a, u) ∧ (k a).run u = some (b, t) := by
  rw [StateT.run_bind]
  constructor
  · intro h
    obtain ⟨⟨a, u⟩, hf, hk⟩ := Option.bind_eq_some_iff.1 h
    exact ⟨a, u, hf, hk⟩
  · rintro ⟨a, u, hf, hk⟩
    exact Option.bind_eq_some_iff.2 ⟨(a, u), hf, hk⟩

theorem Reader.run_bind_some {f : Reader α} {k : α → Reader β} {s t : ReadState} {a : α}
    (h : f.run s = some (a, t)) : (f >>= k).run s = (k a).run t := by
  rw [StateT.run_bind, h]
  rfl

theorem Reader.run_bind_none {f : Reader α} {k : α → Reader β} {s : ReadState}
    (h : f.run s = none) : (f >>= k).run s = none := by
  rw [StateT.run_bind, h]
  rfl

/-- A reader leaves an end of one text when it reads another. If the closing is still behind what it
leaves, the second reader does the same without the closing. -/
def Follows (y x : List Char) (f g : Reader α) : Prop :=
  ∀ (s : ReadState) (a : α) (t : ReadState), f.run (s.on x) = some (a, t) → t.rest <:+ y ∧
    (closing <:+ t.rest → g.run (s.on (beforeClosing x)) = some (a, t.on (beforeClosing t.rest)))

namespace Follows

variable {x y z : List Char} {f g : Reader α}

theorem mono (h : Follows y x f g) (hz : y <:+ z) : Follows z x f g := fun s a t hrun =>
  ⟨(h s a t hrun).1.trans hz, (h s a t hrun).2⟩

theorem past {g' : Reader α} (h : Follows y x f g) (hy : ¬ closing <:+ y) : Follows y x f g' :=
  fun s a t hrun =>
    have hsuffix := (h s a t hrun).1
    ⟨hsuffix, fun hclosing => absurd (hclosing.trans hsuffix) hy⟩

theorem bind {k l : α → Reader β} (h : Follows y x f g)
    (h' : ∀ a z, z <:+ y → Follows z z (k a) (l a)) : Follows y x (f >>= k) (g >>= l) := by
  intro s b t hrun
  obtain ⟨a, u, hf, hk⟩ := Reader.run_bind_eq_some.1 hrun
  obtain ⟨hu, hlocal⟩ := h s a u hf
  obtain ⟨ht, hrest⟩ := h' a u.rest hu u b t hk
  refine ⟨ht.trans hu, fun hclosing => ?_⟩
  exact Reader.run_bind_eq_some.2 ⟨a, _, hlocal (hclosing.trans ht), hrest hclosing⟩

theorem pure (a : α) : Follows x x (pure a) (pure a) := by
  rintro s b t ⟨⟩
  exact ⟨List.suffix_rfl, fun _ => rfl⟩

theorem failure : Follows y x (failure : Reader α) g := nofun

theorem lift (o : Option α) : Follows x x (liftM o : Reader α) (liftM o) := by
  cases o with
  | none => exact nofun
  | some a => exact pure a

theorem ite {c d : Prop} [Decidable c] [Decidable d] {f' g' : Reader α}
    (hcd : closing <:+ y → (c ↔ d)) (h : c → Follows y x f g) (h' : ¬ c → Follows y x f' g') :
    Follows y x (if c then f else f') (if d then g else g') := by
  by_cases hy : closing <:+ y
  · by_cases hc : c
    · rw [if_pos hc, if_pos ((hcd hy).1 hc)]
      exact h hc
    · rw [if_neg hc, if_neg fun hd => hc ((hcd hy).2 hd)]
      exact h' hc
  · split_ifs with hc
    all_goals first
      | exact h hc
      | exact h' hc
      | exact (h hc).past hy
      | exact (h' hc).past hy

/-- What a reader does has to be compared only if it leaves the closing. -/
theorem of_closing {g' : Reader α} (h : Follows z x f g') (hz : z <:+ y)
    (hg : closing <:+ z → g = g') : Follows y x f g := by
  by_cases hclosing : closing <:+ z
  · rw [hg hclosing]
    exact h.mono hz
  · exact (h.past hclosing).mono hz

/-- Where more fuel than the text is long is enough, one less is enough for less text. -/
theorem of_fuel {g : Nat → Reader α} {fuel : Nat}
    (h : ∀ fuel, x.length ≤ fuel + 2 → Follows x x f (g (fuel + 1)))
    (hfuel : x.length ≤ fuel + 1) : Follows x x f (g fuel) := by
  cases fuel with
  | zero =>
    have hshort := not_closing_suffix (Nat.lt_succ_of_le hfuel)
    exact (h 0 (Nat.le_succ_of_le hfuel)).past hshort
  | succ fuel => exact h fuel hfuel

theorem setRest {z' : List Char} (hz : z <:+ y) (h : closing <:+ z → z' = beforeClosing z) :
    Follows y x (Reader.setRest z) (Reader.setRest z') := by
  rintro s a t ⟨⟩
  refine ⟨hz, fun hclosing => ?_⟩
  rw [h hclosing]
  rfl

theorem setRest_bind {k l : Unit → Reader α} (h : Follows y z (k ()) (l ())) :
    Follows y x (Reader.setRest z >>= k) (Reader.setRest (beforeClosing z) >>= l) := h

theorem rest {k l : List Char → Reader α} (h : Follows y x (k x) (l (beforeClosing x))) :
    Follows y x (Reader.rest >>= k) (Reader.rest >>= l) := h

/-- What goes past the next character may be taken to leave the closing. -/
theorem rest_cons {k l : List Char → Reader α} (hnil : k [] = Alternative.failure)
    (h : ∀ c cs, x = c :: cs → Follows cs x (k (c :: cs)) (l (c :: beforeClosing cs))) :
    Follows x.tail x (Reader.rest >>= k) (Reader.rest >>= l) := by
  refine .rest ?_
  cases x with
  | nil =>
    rw [hnil]
    exact .failure
  | cons c cs =>
    by_cases hclosing : closing <:+ cs
    · rw [beforeClosing_cons hclosing]
      exact h c cs rfl
    · exact (h c cs rfl).past hclosing

theorem peek {k l : Char → Reader α}
    (h : ∀ c cs, x = c :: cs → Follows cs x (k c) (l c)) :
    Follows x.tail x (Reader.peek >>= k) (Reader.peek >>= l) := by
  unfold Reader.peek
  rw [bind_assoc, bind_assoc]
  exact .rest_cons rfl h

end Follows

open Reader

section

variable {x : List Char} (flags : Flags)

theorem skipBlanks_follows : Follows x x (skipBlanks flags) (skipBlanks flags) :=
  .rest (.setRest (flags.skip_suffix x) Flags.skip_beforeClosing)

theorem advance_follows : Follows x.tail x (advance flags) (advance flags) :=
  .rest_cons rfl fun _ cs _ => .setRest (flags.skip_suffix cs) Flags.skip_beforeClosing

theorem takeWhile_follows (keep : Char → Bool) :
    Follows x x (takeWhile flags keep) (takeWhile flags keep) := by
  refine .rest ?_
  have hsuffix := flags.span_suffix keep false x
  generalize hspan : flags.span keep false x = r at hsuffix
  obtain ⟨taken, z⟩ := r
  have hset : Follows z x (setRest z >>= fun _ => pure taken)
      (setRest (beforeClosing z) >>= fun _ => pure taken) :=
    .bind (.setRest List.suffix_rfl fun _ => rfl) fun _ _ _ => .pure taken
  refine hset.of_closing hsuffix fun hclosing => ?_
  rw [Flags.span_beforeClosing hspan hclosing]

theorem run_accept_of_absent (text : String) {s : ReadState} (h : ¬ text.toList <+: x) :
    (accept text).run (s.on x) = some (false, s.on x) := by
  change (if text.toList.isPrefixOf x then _ else pure false : Reader Bool).run (s.on x) = _
  rw [if_neg fun hstarts => h (List.isPrefixOf_iff_prefix.1 hstarts)]
  rfl

theorem accept_follows (text : String) : Follows x x (accept text) (accept text) := by
  refine .rest ?_
  rw [← String.length_toList]
  by_cases hstarts : text.toList <+: x
  · rw [if_pos (List.isPrefixOf_iff_prefix.2 hstarts)]
    have hset : Follows (x.drop text.toList.length) x
        (setRest (x.drop text.toList.length) >>= fun _ => pure true)
        (setRest (beforeClosing (x.drop text.toList.length)) >>= fun _ => pure true) :=
      .bind (.setRest List.suffix_rfl fun _ => rfl) fun _ _ _ => .pure true
    refine hset.of_closing (List.drop_suffix _ _) fun hclosing => ?_
    obtain ⟨hword, hdrop⟩ := isPrefix_beforeClosing hstarts hclosing
    rw [if_pos (List.isPrefixOf_iff_prefix.2 hword), hdrop]
  · rw [if_neg fun h => hstarts (List.isPrefixOf_iff_prefix.1 h)]
    refine (Follows.pure false).of_closing List.suffix_rfl fun hclosing => if_neg fun h => ?_
    exact hstarts (isPrefix_of_beforeClosing hclosing (List.isPrefixOf_iff_prefix.1 h))

theorem expect_follows (text : String) :
    Follows (x.drop text.toList.length) x (expect text) (expect text) := by
  have hexpect : expect text = rest >>= fun cs =>
      if text.toList.isPrefixOf cs then setRest (cs.drop text.toList.length) else failure := by
    unfold expect accept
    rw [bind_assoc, String.length_toList]
    congr
    funext cs
    split <;> rfl
  rw [hexpect]
  refine .rest ?_
  by_cases hstarts : text.toList <+: x
  · rw [if_pos (List.isPrefixOf_iff_prefix.2 hstarts)]
    refine (Follows.setRest List.suffix_rfl fun _ => rfl).of_closing List.suffix_rfl
      fun hclosing => ?_
    obtain ⟨hword, hdrop⟩ := isPrefix_beforeClosing hstarts hclosing
    rw [if_pos (List.isPrefixOf_iff_prefix.2 hword), hdrop]
  · rw [if_neg fun h => hstarts (List.isPrefixOf_iff_prefix.1 h)]
    exact .failure

theorem dropOne_follows : Follows x.tail x (rest >>= fun cs => setRest (cs.drop 1))
    (rest >>= fun cs => setRest (cs.drop 1)) := by
  refine .rest (.setRest (List.drop_one ▸ List.suffix_rfl) fun hclosing => ?_)
  cases x with
  | nil => exact absurd hclosing (not_closing_suffix Nat.two_pos)
  | cons c cs =>
    change closing <:+ cs at hclosing
    rw [beforeClosing_cons hclosing]
    rfl

theorem readCodePoint_follows (n : Nat) :
    Follows x.tail x (readCodePoint flags (n + 1)) (readCodePoint flags (n + 1)) := by
  unfold readCodePoint
  refine .bind (advance_follows flags) fun _ x _ => ?_
  refine (Follows.peek fun c cs hx => ?_).mono (List.tail_suffix x)
  subst hx
  refine .ite (fun _ => Iff.rfl) (fun _ => ?_) fun _ => .rest ?_
  · refine .bind (advance_follows flags) fun _ x _ => ?_
    refine .bind (takeWhile_follows flags _) fun digits x _ => ?_
    refine .bind ((expect_follows _).mono (List.drop_suffix _ _)) fun _ x _ => ?_
    exact .bind (skipBlanks_follows flags) fun _ x _ => .lift _
  · cases htake : flags.take? (n + 1) (c :: cs) with
    | none => exact .failure
    | some r =>
      obtain ⟨digits, z⟩ := r
      have hset : Follows z (c :: cs) (setRest z >>= fun _ => liftM (codePoint? flags digits))
          (setRest (beforeClosing z) >>= fun _ => liftM (codePoint? flags digits)) :=
        .setRest_bind (.lift _)
      refine hset.of_closing (Flags.take?_succ_suffix htake) fun hclosing => ?_
      rw [Flags.take?_beforeClosing htake hclosing]
      rfl

theorem readProperty_follows : Follows x.tail x (readProperty flags) (readProperty flags) := by
  unfold readProperty
  refine .peek fun p cs hx => ?_
  subst hx
  refine .bind (advance_follows flags) fun _ x _ => ?_
  refine (Follows.peek fun c cs hx => ?_).mono (List.tail_suffix x)
  subst hx
  refine .ite (fun _ => Iff.rfl) (fun _ => ?_) fun _ => ?_
  · refine .bind (advance_follows flags) fun _ x _ => ?_
    refine .bind (takeWhile_follows flags _) fun name x _ => ?_
    exact .bind ((expect_follows _).mono (List.drop_suffix _ _)) fun _ x _ => .lift _
  · refine .peek fun c cs hx => ?_
    exact .bind (hx ▸ advance_follows flags) fun _ x _ => .lift _

section

variable {cs z : List Char} {c : Char} {s : ReadState} (k : Boundary → Reader α)

theorem run_readBoundary_brace :
    (readBoundary flags >>= k).run (s.on ('\x7b' :: cs)) =
      (readNamedBoundary flags ('\x7b' :: cs) >>= k).run (s.on cs) := rfl

theorem run_readBoundary_plain (hx : ¬ ['\x7b'] <+: x) :
    (readBoundary flags >>= k).run (s.on x) = (k .edge).run (s.on x) := by
  change (((accept "\x7b" >>= fun b => if b then readNamedBoundary flags x
    else pure .edge) >>= k) : Reader α).run _ = _
  rw [bind_assoc, run_bind_some (run_accept_of_absent "\x7b" hx)]
  rfl

theorem run_readNamedBoundary (hz : flags.skip cs = c :: z) :
    (readNamedBoundary flags x >>= k).run (s.on cs) =
      if isBoundaryChar c then (readBoundaryName flags >>= k).run (s.on (c :: z))
      else (k .edge).run (s.on x) := by
  have hskip : (skipBlanks flags).run (s.on cs) = some ((), s.on (c :: z)) := by
    change some ((), s.on (flags.skip cs)) = _
    rw [hz]
  unfold readNamedBoundary
  rw [bind_assoc, run_bind_some hskip]
  change ((if isBoundaryChar c then readBoundaryName flags else setRest x >>= fun _ => pure .edge :
    Reader Boundary) >>= k).run (s.on (c :: z)) = _
  split_ifs <;> rfl

theorem run_readNamedBoundary_nil (hz : flags.skip cs = []) :
    (readNamedBoundary flags x >>= k).run (s.on cs) = none := by
  have hskip : (skipBlanks flags).run (s.on cs) = some ((), s.on []) := by
    change some ((), s.on (flags.skip cs)) = _
    rw [hz]
  unfold readNamedBoundary
  rw [bind_assoc, run_bind_some hskip]
  rfl

end

theorem readBoundaryName_follows :
    Follows x x (readBoundaryName flags) (readBoundaryName flags) :=
  .bind (takeWhile_follows flags _) fun _ _ _ =>
    .bind ((expect_follows _).mono (List.drop_suffix _ _)) fun _ _ _ => .lift _

/-- The name of a boundary may be looked for in a brace that the closing cuts off. What reads on
from that brace has to fail. -/
theorem readBoundary_bind_follows {k l : Boundary → Reader α}
    (h : ∀ b z, z <:+ x → Follows z z (k b) (l b))
    (hcut : ∀ (s : ReadState) (cs : List Char), flags.skip cs = closing →
      (k .edge).run (s.on ('\x7b' :: cs)) = none) :
    Follows x x (readBoundary flags >>= k) (readBoundary flags >>= l) := by
  intro s a t hrun
  by_cases hx : ['\x7b'] <+: x
  · obtain ⟨cs, rfl⟩ := hx
    rw [List.singleton_append] at *
    rw [run_readBoundary_brace] at hrun
    have hskip := flags.skip_suffix cs
    have hcs : cs <:+ '\x7b' :: cs := List.suffix_cons _ cs
    cases hz : flags.skip cs with
    | nil =>
      rw [run_readNamedBoundary_nil flags k hz] at hrun
      cases hrun
    | cons c z =>
      rw [run_readNamedBoundary flags k hz] at hrun
      rw [hz] at hskip
      -- without the closing the brace leads to the same place
      have hbefore (hclosing : closing <:+ z) :
          (readBoundary flags >>= l).run (s.on (beforeClosing ('\x7b' :: cs))) =
            if isBoundaryChar c then
              (readBoundaryName flags >>= l).run (s.on (beforeClosing (c :: z)))
            else (l .edge).run (s.on (beforeClosing ('\x7b' :: cs))) := by
        have hcz : closing <:+ c :: z := hclosing.trans (List.suffix_cons c z)
        rw [beforeClosing_cons (hcz.trans hskip), beforeClosing_cons hclosing,
          run_readBoundary_brace, run_readNamedBoundary]
        rw [← beforeClosing_cons hclosing, ← hz]
        exact Flags.skip_beforeClosing (hz ▸ hcz)
      split_ifs at hrun with hc
      · have hname := (readBoundaryName_follows (x := c :: z) flags).bind
          fun b y hy => h b y (hy.trans (hskip.trans hcs))
        obtain ⟨hsuffix, hlocal⟩ := hname s a t hrun
        refine ⟨hsuffix.trans (hskip.trans hcs), fun hclosing => ?_⟩
        have hrest : closing <:+ z := by
          refine (closing_suffix_cons.1 (hclosing.trans hsuffix)).resolve_left fun h => ?_
          cases h
          cases hc
        rw [hbefore hrest, if_pos hc]
        exact hlocal hclosing
      · obtain ⟨hsuffix, hlocal⟩ := h .edge _ List.suffix_rfl s a t hrun
        refine ⟨hsuffix, fun hclosing => ?_⟩
        have hrest : closing <:+ z := by
          obtain ⟨p, rfl⟩ : closing <:+ cs := by
            refine (closing_suffix_cons.1 (hclosing.trans hsuffix)).resolve_left fun h => ?_
            cases h
          rcases flags.skip_closing p with hnil | hclosing
          · rw [hz] at hnil
            cases hnil
          · rw [hz] at hclosing
            refine (closing_suffix_cons.1 hclosing).resolve_left fun h => ?_
            rw [hcut s _ (hz.trans h)] at hrun
            cases hrun
        rw [hbefore hrest, if_neg hc]
        exact hlocal hclosing
  · rw [run_readBoundary_plain flags k hx] at hrun
    obtain ⟨hsuffix, hlocal⟩ := h .edge x List.suffix_rfl s a t hrun
    refine ⟨hsuffix, fun hclosing => ?_⟩
    have hplain : ¬ ['\x7b'] <+: beforeClosing x := fun hbefore =>
      hx (isPrefix_of_beforeClosing (hclosing.trans hsuffix) hbefore)
    rw [run_readBoundary_plain flags l hplain]
    exact hlocal hclosing

theorem readEscape_bind_follows {k l : Escape → Reader α}
    (h : ∀ e z, z <:+ x.tail → Follows z z (k e) (l e))
    (hcut : ∀ (s : ReadState) (cs : List Char) (a : Assertion), flags.skip cs = closing →
      (k (.assertion a)).run (s.on ('\x7b' :: cs)) = none) :
    Follows x.tail x (readEscape flags >>= k) (readEscape flags >>= l) := by
  unfold readEscape
  rw [bind_assoc, bind_assoc]
  refine .peek fun c cs hx => ?_
  subst hx
  by_cases hboundary : c = 'b'
  · subst hboundary
    change Follows cs ('b' :: cs)
      ((expect "b" >>= fun _ => readBoundary flags >>= fun b =>
        pure (.assertion (flags.boundary b))) >>= k)
      ((expect "b" >>= fun _ => readBoundary flags >>= fun b =>
        pure (.assertion (flags.boundary b))) >>= l)
    simp only [bind_assoc, pure_bind]
    refine .bind (expect_follows "b") fun _ x hx => ?_
    exact readBoundary_bind_follows flags (fun b z hz => h _ z (hz.trans hx))
      fun s cs hcs => hcut s cs _ hcs
  · refine .bind ?_ fun e z hz => h e z hz
    split
    · exact .bind (readCodePoint_follows flags 1) fun _ _ _ => .pure _
    · exact .bind (readCodePoint_follows flags 3) fun _ _ _ => .pure _
    · exact .bind (readCodePoint_follows flags 7) fun _ _ _ => .pure _
    · exact .bind (readProperty_follows flags) fun _ _ _ => .pure _
    · exact .bind (readProperty_follows flags) fun _ _ _ => .pure _
    · exact absurd rfl hboundary
    · rw [← bind_assoc]
      exact .bind dropOne_follows fun _ _ _ => .lift _

theorem readMember_follows : Follows x.tail x (readMember flags) (readMember flags) := by
  unfold readMember
  refine .peek fun c cs hx => ?_
  subst hx
  rw [← bind_assoc]
  refine .bind dropOne_follows fun _ x _ => .ite (fun _ => Iff.rfl) (fun _ => ?_) fun _ => .pure _
  refine (readEscape_bind_follows flags (fun e z _ => ?_) fun _ _ _ _ => rfl).mono
    (List.tail_suffix x)
  cases e with
  | literal c => exact .pure _
  | set s => exact .pure _
  | assertion a => exact .failure

theorem readMembers_follows : Follows x.tail x (readMembers flags) (readMembers flags) := by
  unfold readMembers
  refine .bind (readMember_follows flags) fun first x _ => ?_
  refine .bind (skipBlanks_follows flags) fun _ x _ => .rest ?_
  refine .ite (fun hclosing => ?_) (fun _ => ?_) fun _ => ?_
  · obtain ⟨p, rfl⟩ := hclosing
    rw [beforeClosing_append]
    cases p with
    | nil => exact Iff.rfl
    | cons c p =>
      by_cases hc : c = '-'
      · subst hc
        change (!isHyphenAlone flags (p ++ closing)) = true ↔ (!isHyphenAlone flags p) = true
        rw [isHyphenAlone_append]
      · rw [List.cons_append]
        split
        · next h => exact absurd (List.cons.inj h).1 hc
        · split
          · next h => exact absurd (List.cons.inj h).1 hc
          · exact Iff.rfl
  · refine .bind ((advance_follows flags).mono (List.tail_suffix x)) fun _ x _ => ?_
    refine .bind ((readMember_follows flags).mono (List.tail_suffix x)) fun last x _ => ?_
    cases first with
    | inl lo =>
      cases last with
      | inl hi => exact .lift _
      | inr s => exact .failure
    | inr s => exact .failure
  · cases first with
    | inl c => exact .lift _
    | inr s => exact .pure s

theorem readOpening_follows : Follows x x (readOpening flags) (readOpening flags) := by
  unfold readOpening
  refine .bind (skipBlanks_follows flags) fun _ x _ => ?_
  refine .bind (accept_follows "^") fun negated x _ => ?_
  refine .bind (skipBlanks_follows flags) fun _ x _ => ?_
  refine .bind (takeWhile_follows flags _) fun hyphens x _ => ?_
  have hend (bracket : Bool) (x : List Char) : Follows x x
      (skipBlanks flags >>= fun _ => pure (⟨negated, (hyphens ++ if bracket then [']'] else []).map
        fun c => Operand.plain (.ofChar c), none⟩ : OpenClass))
      (skipBlanks flags >>= fun _ => pure ⟨negated, (hyphens ++ if bracket then [']'] else []).map
        fun c => Operand.plain (.ofChar c), none⟩) :=
    .bind (skipBlanks_follows flags) fun _ _ _ => .pure _
  refine .ite (fun _ => Iff.rfl) (fun _ => ?_) fun _ => ?_
  · exact .bind (accept_follows "]") fun bracket x _ => hend bracket x
  · exact .bind (.pure false) fun bracket x _ => hend bracket x

end

/-- Without the closing less fuel is enough for a class, and more levels do no harm. -/
theorem readClass_follows (flags : Flags) (fuel' : Nat) {fuel levels levels' : Nat}
    {k : OpenClass} {x : List Char} (hlevels : levels ≤ levels') (hfuel : x.length ≤ fuel' + 2) :
    Follows x x (readClass flags fuel levels k) (readClass flags (fuel' + 1) levels' k) := by
  induction fuel generalizing fuel' levels levels' k x with
  | zero => exact .failure
  | succ fuel ih =>
    have hnext {levels levels' : Nat} {k : OpenClass} {x : List Char} (hlevels : levels ≤ levels')
        (hfuel : x.length ≤ fuel' + 1) :
        Follows x x (readClass flags fuel levels k) (readClass flags fuel' levels' k) :=
      .of_fuel (g := fun fuel => readClass flags fuel levels' k) (fun fuel' => ih fuel' hlevels)
        hfuel
    unfold readClass
    refine .bind (skipBlanks_follows flags) fun _ z hz => ?_
    have hlength := hz.length_le
    refine (Follows.rest_cons rfl fun c cs hx => ?_).mono (List.tail_suffix z)
    subst hx
    rw [List.length_cons] at hlength
    by_cases hclose : c = ']'
    · subst hclose
      exact .bind (.setRest List.suffix_rfl fun _ => rfl) fun _ _ _ => .lift _
    by_cases hopen : c = '['
    · subst hopen
      refine .setRest_bind ?_
      cases hnamed : splitNamedClass? cs with
      | none =>
        refine Follows.of_closing ?_ List.suffix_rfl fun hclosing => by
          rw [splitNamedClass?_beforeClosing hclosing, hnamed, Option.map_none]
        cases levels with
        | zero => exact .failure
        | succ levels =>
          obtain ⟨levels', rfl⟩ := Nat.exists_eq_add_one_of_ne_zero (Nat.ne_zero_of_lt hlevels)
          refine .bind (readOpening_follows flags) fun opened z hz => ?_
          have hz := hz.length_le
          refine .bind (hnext (by omega) (by omega)) fun inner w hw => ?_
          have hw := hw.length_le
          exact hnext (by omega) (by omega)
      | some r =>
        obtain ⟨negated, set, w⟩ := r
        have hw := splitNamedClass?_suffix hnamed
        refine Follows.of_closing ?_ hw fun hclosing => by
          rw [splitNamedClass?_beforeClosing (hclosing.trans hw), hnamed, Option.map_some]
        have hw := hw.length_le
        refine .setRest_bind (.bind (.lift _) fun set z hz => ?_)
        have hz := hz.length_le
        exact hnext hlevels (by omega)
    · simp only [List.cons.injEq, hclose, hopen, false_and, imp_self, implies_true]
      have hsplit (hclosing : closing <:+ cs) : SetOperator.split? (c :: beforeClosing cs) =
          (SetOperator.split? (c :: cs)).map fun r => (r.1, beforeClosing r.2) := by
        rw [← beforeClosing_cons hclosing, SetOperator.split?_beforeClosing]
        exact hclosing.trans (List.suffix_cons c cs)
      cases hop : SetOperator.split? (c :: cs) with
      | none =>
        refine Follows.of_closing ?_ List.suffix_rfl fun hclosing => by
          rw [hsplit hclosing, hop, Option.map_none]
        refine .bind (readMembers_follows flags) fun set z hz => ?_
        have hz : z.length ≤ cs.length := hz.length_le
        exact hnext hlevels (by omega)
      | some r =>
        obtain ⟨op, w⟩ := r
        have hw : w <:+ cs := SetOperator.split?_suffix hop
        refine Follows.of_closing ?_ hw fun hclosing => by
          rw [hsplit (hclosing.trans hw), hop, Option.map_some]
        have hw := hw.length_le
        exact .setRest_bind (hnext hlevels (by omega))

section

variable {x : List Char} (flags : Flags)

theorem readGroupName_follows : Follows x x readGroupName readGroupName := by
  unfold readGroupName
  refine .rest ?_
  generalize hspan : x.span (· != '>') = r
  obtain ⟨name, z⟩ := r
  obtain ⟨hz, hbefore⟩ := span_split hspan
  refine Follows.of_closing ?_ hz fun hclosing => by rw [hbefore hclosing]
  refine .setRest_bind ?_
  refine .bind ((expect_follows ">").mono (List.drop_suffix _ _)) fun _ y _ => ?_
  cases name with
  | nil => exact .failure
  | cons c cs => exact .ite (fun _ => Iff.rfl) (fun _ => .pure _) fun _ => .failure

theorem openGroup_follows (name : Option String) :
    Follows x x (openGroup name) (openGroup name) := by
  intro s a t hrun
  cases name with
  | none =>
    cases hrun
    exact ⟨List.suffix_rfl, fun _ => rfl⟩
  | some name =>
    have hopen (x : List Char) : (openGroup (some name)).run (s.on x) =
        (if (s.groupNames.lookup name).isSome then failure
          else set (⟨x, s.groupCount + 1, (name, s.groupCount + 1) :: s.groupNames⟩ : ReadState) >>=
            fun _ => pure (s.groupCount + 1) : Reader Nat).run (s.on x) := rfl
    rw [hopen] at hrun ⊢
    split_ifs at hrun ⊢
    · cases hrun
    · cases hrun
      exact ⟨List.suffix_rfl, fun _ => rfl⟩

theorem readGroupStart_follows :
    Follows x x (readGroupStart flags) (readGroupStart flags) := by
  unfold readGroupStart
  have hnamed (x : List Char) : Follows x x
      (readGroupName >>= fun name => openGroup (some name) >>= fun index =>
        pure (GroupStart.capture index))
      (readGroupName >>= fun name => openGroup (some name) >>= fun index =>
        pure (GroupStart.capture index)) :=
    .bind readGroupName_follows fun name _ _ =>
      .bind (openGroup_follows (some name)) fun index _ _ => .pure (GroupStart.capture index)
  refine .bind (skipBlanks_follows flags) fun _ x _ => .rest ?_
  refine .ite (fun hclosing => ?_) (fun _ => .failure) fun _ => ?_
  · have hword : ∀ word ∈ ["?=", "?!", "?<=", "?<!"], ')' ∉ word.toList := by decide
    rw [List.any_eq_true, List.any_eq_true]
    refine exists_congr fun word => and_congr_right fun hmem => ?_
    rw [List.isPrefixOf_iff_prefix, List.isPrefixOf_iff_prefix]
    exact isPrefix_iff_beforeClosing (hword word hmem) hclosing
  refine .bind (accept_follows "?P<") fun _ x _ => ?_
  refine .ite (fun _ => Iff.rfl) (fun _ => hnamed x) fun _ => ?_
  refine .bind (accept_follows "?<") fun _ x _ => ?_
  refine .ite (fun _ => Iff.rfl) (fun _ => hnamed x) fun _ => ?_
  refine .bind (accept_follows "?") fun _ x _ => ?_
  refine .ite (fun _ => Iff.rfl) (fun _ => .rest ?_) fun _ => ?_
  · generalize hspan : x.span (fun c => c != ':' && c != ')') = r
    obtain ⟨letters, z⟩ := r
    obtain ⟨hz, hbefore⟩ := span_split hspan
    refine Follows.of_closing ?_ hz fun hclosing => by rw [hbefore hclosing]
    refine .setRest_bind (.bind (.lift _) fun inner y _ => ?_)
    refine .bind (accept_follows ":") fun _ y _ => ?_
    refine .ite (fun _ => Iff.rfl) (fun _ => .pure _) fun _ => ?_
    refine .bind ((expect_follows ")").mono (List.drop_suffix _ _)) fun _ y _ => ?_
    exact .ite (fun _ => Iff.rfl) (fun _ => .failure) fun _ => .pure _
  · exact .bind (openGroup_follows none) fun index _ _ => .pure _

theorem dropBlanks_follows :
    Follows x x (rest >>= fun cs => setRest (cs.dropWhile Flags.isBlank))
      (rest >>= fun cs => setRest (cs.dropWhile Flags.isBlank)) := by
  refine .rest (.setRest (List.dropWhile_suffix _) fun hclosing => ?_)
  obtain ⟨p, rfl⟩ := hclosing.trans (List.dropWhile_suffix _)
  rw [dropWhile_isBlank_append, beforeClosing_append, beforeClosing_append]

theorem readDecimal_follows : Follows x x (readDecimal flags) (readDecimal flags) := by
  unfold readDecimal
  rw [← bind_assoc]
  refine .bind dropBlanks_follows fun _ x _ => ?_
  refine .bind (takeWhile_follows flags _) fun digits x _ => ?_
  rw [← bind_assoc]
  refine .bind dropBlanks_follows fun _ x _ => ?_
  exact .ite (fun _ => Iff.rfl) (fun _ => .failure) fun _ => .pure _

theorem readBounds_follows : Follows x x (readBounds flags) (readBounds flags) := by
  have hend (bounds : Nat × Option Nat) (x : List Char) : Follows x x
      (expect "\x7d" >>= fun _ => skipBlanks flags >>= fun _ => pure bounds)
      (expect "\x7d" >>= fun _ => skipBlanks flags >>= fun _ => pure bounds) :=
    .bind ((expect_follows _).mono (List.drop_suffix _ _)) fun _ _ _ =>
      .bind (skipBlanks_follows flags) fun _ _ _ => .pure bounds
  unfold readBounds
  refine .bind (skipBlanks_follows flags) fun _ x _ => ?_
  refine .bind (readDecimal_follows flags) fun least x _ => ?_
  refine .bind (accept_follows ",") fun _ x _ => ?_
  refine .ite (fun _ => Iff.rfl) (fun _ => ?_)
    fun _ => .bind (.pure _) fun bounds x _ => hend bounds x
  refine .bind (skipBlanks_follows flags) fun _ x _ => .rest ?_
  refine .ite (fun hclosing => ?_) (fun _ => .bind (.pure _) fun bounds x _ => hend bounds x)
    fun _ => ?_
  · rw [List.isPrefixOf_iff_prefix, List.isPrefixOf_iff_prefix]
    exact isPrefix_iff_beforeClosing (by decide) hclosing
  · refine .bind (readDecimal_follows flags) fun most x _ => ?_
    exact .ite (fun _ => Iff.rfl) (fun _ => .failure)
      fun _ => .bind (.pure _) fun bounds x _ => hend bounds x

theorem readRepetition_follows (c : Char) :
    Follows x x (readRepetition flags c) (readRepetition flags c) := by
  unfold readRepetition
  split
  · exact .pure _
  · exact .pure _
  · exact .pure _
  · exact readBounds_follows flags

theorem readBounds_cut {cs : List Char} (h : flags.skip cs = closing) (s : ReadState) :
    (readBounds flags).run (s.on cs) = none := by
  have hblanks : (rest >>= fun cs => setRest (cs.dropWhile Flags.isBlank)).run (s.on closing) =
      some ((), s.on closing) := by
    change some ((), s.on (([] ++ closing).dropWhile Flags.isBlank)) = _
    rw [dropWhile_isBlank_append]
    rfl
  have hdigits : (takeWhile flags Char.isDigit).run (s.on closing) = some ([], s.on closing) := by
    have hspan : flags.span Char.isDigit false closing = ([], closing) := by
      simp [closing, Flags.span, Flags.isBlank_parenthesis]
    change (let r := flags.span Char.isDigit false closing; some (r.1, s.on r.2)) = _
    rw [hspan]
  have hdecimal : (readDecimal flags).run (s.on closing) = none := by
    unfold readDecimal
    rw [← bind_assoc, run_bind_some hblanks, run_bind_some hdigits]
    rfl
  have hskip : (skipBlanks flags).run (s.on cs) = some ((), s.on closing) := by
    change some ((), s.on (flags.skip cs)) = _
    rw [h]
  unfold readBounds
  rw [run_bind_some hskip, run_bind_none hdecimal]

theorem readBranches_cut {cs : List Char} (h : flags.skip cs = closing) (s : ReadState)
    (fuel levels : Nat) (b : Branches) :
    (readBranches fuel levels flags b).run (s.on ('\x7b' :: cs)) = none := by
  cases fuel with
  | zero => rfl
  | succ fuel =>
    have hskip : (skipBlanks flags).run (s.on ('\x7b' :: cs)) =
        some ((), s.on ('\x7b' :: cs)) := by
      have hbrace : flags.skip ('\x7b' :: cs) = '\x7b' :: cs := by
        simp [Flags.skip, Flags.dropBlanks, Flags.isBlank_brace]
      change some ((), s.on (flags.skip ('\x7b' :: cs))) = _
      rw [hbrace]
    have hrest : rest.run (s.on ('\x7b' :: cs)) = some ('\x7b' :: cs, s.on ('\x7b' :: cs)) := rfl
    have hset : (setRest cs).run (s.on ('\x7b' :: cs)) = some ((), s.on cs) := rfl
    unfold readBranches
    rw [run_bind_some hskip, run_bind_some hrest]
    dsimp only
    rw [if_neg (by decide), run_bind_some hset]
    exact run_bind_none (readBounds_cut flags h s)

end

/-- Without the closing less fuel is enough for a pattern, and more levels do no harm. -/
theorem readBranches_follows (fuel' : Nat) {flags : Flags} {fuel levels levels' : Nat}
    {b : Branches} {x : List Char} (hlevels : levels ≤ levels') (hfuel : x.length ≤ fuel' + 2) :
    Follows x x (readBranches fuel levels flags b) (readBranches (fuel' + 1) levels' flags b) := by
  induction fuel generalizing fuel' levels levels' flags b x with
  | zero => exact .failure
  | succ fuel ih =>
    have hnext {levels levels' : Nat} {flags : Flags} {b : Branches} {x : List Char}
        (hlevels : levels ≤ levels') (hfuel : x.length ≤ fuel' + 1) :
        Follows x x (readBranches fuel levels flags b) (readBranches fuel' levels' flags b) :=
      .of_fuel (g := fun fuel => readBranches fuel levels' flags b) (fun fuel' => ih fuel' hlevels)
        hfuel
    have hgroup {levels levels' : Nat} {inner : Flags} {x : List Char} (nest : Part → Part)
        (hlevels : levels ≤ levels') (hfuel : x.length ≤ fuel' + 1) :
        Follows x x
          (readBranches fuel levels inner .start >>= fun p => expect ")" >>= fun _ =>
            readBranches fuel (levels + 1) flags (b.push (nest p)))
          (readBranches fuel' levels' inner .start >>= fun p => expect ")" >>= fun _ =>
            readBranches fuel' (levels' + 1) flags (b.push (nest p))) := by
      refine .bind (hnext hlevels hfuel) fun p z hz => ?_
      refine .bind ((expect_follows ")").mono (List.drop_suffix _ _)) fun _ w hw => ?_
      have hw := (hw.trans hz).length_le
      exact hnext (Nat.succ_le_succ hlevels) (by omega)
    unfold readBranches
    refine .bind (skipBlanks_follows flags) fun _ z hz => .rest ?_
    have hlength := hz.length_le
    cases z with
    | nil => exact .pure b.part
    | cons c cs =>
      rw [List.length_cons] at hlength
      by_cases hc : c = ')'
      · subst hc
        refine (Follows.pure b.part).of_closing List.suffix_rfl fun hclosing => ?_
        rcases closing_suffix_cons.1 hclosing with h | h
        · rw [h]
          rfl
        · rw [beforeClosing_cons h]
          rfl
      · refine Follows.of_closing ?_ (List.suffix_cons c cs) fun hclosing => by
          rw [beforeClosing_cons hclosing]
        dsimp only
        rw [if_neg hc, if_neg hc]
        refine .setRest_bind ?_
        have hrepeat : Follows cs cs
            (readRepetition flags c >>= fun bounds => accept "?" >>= fun isLazy =>
              liftM (b.repeat? bounds (isLazy == flags.swapGreed)) >>= fun b =>
                readBranches fuel levels flags b)
            (readRepetition flags c >>= fun bounds => accept "?" >>= fun isLazy =>
              liftM (b.repeat? bounds (isLazy == flags.swapGreed)) >>= fun b =>
                readBranches fuel' levels' flags b) := by
          refine .bind (readRepetition_follows flags c) fun bounds y hy => ?_
          refine .bind (accept_follows "?") fun isLazy z hz => ?_
          refine .bind (.lift _) fun b w hw => ?_
          have hw := (hw.trans (hz.trans hy)).length_le
          exact hnext hlevels (by omega)
        split
        · exact hnext hlevels (by omega)
        · refine .bind (readGroupStart_follows flags) fun start y hy => ?_
          have hy := hy.length_le
          cases start with
          | flags flags => exact hnext hlevels (by omega)
          | capture index =>
            cases levels with
            | zero => exact .failure
            | succ levels =>
              obtain ⟨levels', rfl⟩ :=
                Nat.exists_eq_add_one_of_ne_zero (Nat.ne_zero_of_lt hlevels)
              exact hgroup (fun p => p.nest (.capture index p.tree)) (by omega) (by omega)
          | group inner =>
            cases levels with
            | zero => exact .failure
            | succ levels =>
              obtain ⟨levels', rfl⟩ :=
                Nat.exists_eq_add_one_of_ne_zero (Nat.ne_zero_of_lt hlevels)
              exact hgroup (fun p => p.nest p.tree) (by omega) (by omega)
        · refine .bind (readOpening_follows flags) fun opened y hy => ?_
          have hclass : Follows y y (readClass flags fuel levels opened)
              (readClass flags fuel' levels' opened) := by
            have hy := hy.length_le
            exact .of_fuel (g := fun fuel => readClass flags fuel levels' opened)
              (fun fuel' => readClass_follows flags fuel' hlevels) (by omega)
          refine .bind hclass fun k z hz => ?_
          have hz := (hz.trans hy).length_le
          exact hnext hlevels (by omega)
        · refine (readEscape_bind_follows flags (fun e y hy => ?_) fun s cs a hcut => ?_).mono
            (List.tail_suffix cs)
          · have hy := (hy.trans (List.tail_suffix cs)).length_le
            exact hnext hlevels (by omega)
          · exact readBranches_cut flags hcut s fuel levels _
        · exact hrepeat
        · exact hrepeat
        · exact hrepeat
        · exact hrepeat
        · refine .bind (.lift _) fun t y hy => ?_
          have hy := hy.length_le
          exact hnext hlevels (by omega)

end SeriesQuery.Pattern
