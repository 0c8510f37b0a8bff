import Mathlib.Data.List.Basic
import SeriesQuery.Pattern.Reader

/-!
# Dots that match newlines

Whether a dot matches a newline decides what a pattern matches, but not which texts are patterns:
they are read to the same places, with the same groups and the same nesting.
-/

namespace SeriesQuery.Pattern

open Reader

namespace Flags

def withDots (flags : Flags) (all : Bool) : Flags := { flags with dotMatchesNewline := all }

/-- Flags that differ in nothing but what a dot matches. -/
def Alike (flags flags' : Flags) : Prop := ∃ all, flags' = flags.withDots all

theorem Alike.refl (flags : Flags) : flags.Alike flags := ⟨flags.dotMatchesNewline, rfl⟩

variable (flags : Flags) (all : Bool)

theorem span_withDots : (flags.withDots all).span = flags.span := by
  funext keep inComment x
  induction x generalizing inComment with
  | nil => rfl
  | cons c cs ih =>
    unfold span
    simp only [ih]
    rfl

theorem take?_withDots : (flags.withDots all).take? = flags.take? := by
  funext n x
  induction n generalizing x with
  | zero => rfl
  | succ n ih =>
    cases x with
    | nil => rfl
    | cons c cs =>
      unfold take?
      rw [ih]
      rfl

theorem set?_withDots (value : Bool) (c : Char) :
    Option.Rel Alike (flags.set? value c) ((flags.withDots all).set? value c) := by
  unfold set?
  split
  all_goals first
    | exact .some ⟨all, rfl⟩
    | exact .some ⟨value, rfl⟩
    | exact .none

theorem withLetters?_withDots (value : Bool) (used cs : List Char) :
    Option.Rel Alike (flags.withLetters? value used cs)
      ((flags.withDots all).withLetters? value used cs) := by
  induction cs generalizing value used flags all with
  | nil =>
    unfold withLetters?
    split_ifs
    · exact .none
    · exact .some ⟨all, rfl⟩
  | cons c cs ih =>
    unfold withLetters?
    split_ifs
    · exact .none
    · exact ih ..
    · have hset := flags.set?_withDots all value c
      generalize flags.set? value c = set, (flags.withDots all).set? value c = set' at hset
      cases hset with
      | none => exact .none
      | some halike =>
        obtain ⟨all', rfl⟩ := halike
        exact ih ..

end Flags

section

variable (flags : Flags) (all : Bool)

theorem takeWhile_withDots : takeWhile (flags.withDots all) = takeWhile flags := by
  funext keep
  unfold takeWhile
  rw [Flags.span_withDots]

theorem readCodePoint_withDots : readCodePoint (flags.withDots all) = readCodePoint flags := by
  funext width
  unfold readCodePoint
  rw [takeWhile_withDots, Flags.take?_withDots]
  rfl

theorem readProperty_withDots : readProperty (flags.withDots all) = readProperty flags := by
  unfold readProperty
  rw [takeWhile_withDots]
  rfl

theorem readBoundaryName_withDots :
    readBoundaryName (flags.withDots all) = readBoundaryName flags := by
  unfold readBoundaryName
  rw [takeWhile_withDots]

theorem readNamedBoundary_withDots :
    readNamedBoundary (flags.withDots all) = readNamedBoundary flags := by
  funext atBrace
  unfold readNamedBoundary
  rw [readBoundaryName_withDots]
  rfl

theorem readBoundary_withDots : readBoundary (flags.withDots all) = readBoundary flags := by
  unfold readBoundary
  rw [readNamedBoundary_withDots]

theorem readEscape_withDots : readEscape (flags.withDots all) = readEscape flags := by
  unfold readEscape
  rw [readCodePoint_withDots, readProperty_withDots, readBoundary_withDots]
  rfl

theorem readMember_withDots : readMember (flags.withDots all) = readMember flags := by
  unfold readMember
  rw [readEscape_withDots]

theorem readMembers_withDots : readMembers (flags.withDots all) = readMembers flags := by
  unfold readMembers
  rw [readMember_withDots]
  rfl

theorem readOpening_withDots : readOpening (flags.withDots all) = readOpening flags := by
  unfold readOpening
  rw [takeWhile_withDots]
  rfl

theorem readClass_withDots : readClass (flags.withDots all) = readClass flags := by
  funext fuel levels k
  induction fuel generalizing levels k with
  | zero => rfl
  | succ fuel ih =>
    unfold readClass
    simp only [ih, readMembers_withDots, readOpening_withDots]
    rfl

theorem readRepetition_withDots : readRepetition (flags.withDots all) = readRepetition flags := by
  funext c
  unfold readRepetition readBounds readDecimal
  rw [takeWhile_withDots]
  rfl

end

/-- What of a part decides how it can be read on. -/
def Part.shape (p : Part) : Nat × Bool := (p.depth, p.canRepeat)

namespace Part

variable {p q : Part} {ps qs : List Part}

theorem maxDepth_shape (ps : List Part) :
    maxDepth ps = ((ps.map shape).map Prod.fst).foldl max 0 := by
  unfold maxDepth
  rw [List.map_map]
  rfl

theorem shape_concat (h : ps.map shape = qs.map shape) : (concat ps).shape = (concat qs).shape := by
  have hdepth : maxDepth ps = maxDepth qs := by rw [maxDepth_shape, maxDepth_shape, h]
  match ps, qs, h with
  | [], [], _ => rfl
  | [_], [_], h => exact List.singleton_inj.1 h
  | [_], _ :: _ :: _, h => cases (List.cons.inj h).2
  | _ :: _ :: _, [_], h => cases (List.cons.inj h).2
  | _ :: _ :: _, _ :: _ :: _, _ => exact congrArg (fun depth => (depth + 1, true)) hdepth

theorem shape_alternation (h : ps.map shape = qs.map shape) :
    (alternation ps).shape = (alternation qs).shape := by
  have hdepth : maxDepth ps = maxDepth qs := by rw [maxDepth_shape, maxDepth_shape, h]
  match ps, qs, h with
  | [], [], _ => rfl
  | [_], [_], h => exact List.singleton_inj.1 h
  | [_], _ :: _ :: _, h => cases (List.cons.inj h).2
  | _ :: _ :: _, [_], h => cases (List.cons.inj h).2
  | _ :: _ :: _, _ :: _ :: _, _ => exact congrArg (fun depth => (depth + 1, true)) hdepth

end Part

namespace Branches

/-- Branches whose parts have the same shapes. -/
structure Alike (b b' : Branches) : Prop where
  closed : b.closed.map Part.shape = b'.closed.map Part.shape
  current : b.current.map Part.shape = b'.current.map Part.shape

variable {b b' : Branches} {p p' : Part}

theorem Alike.push (h : b.Alike b') (hp : p.shape = p'.shape) : (b.push p).Alike (b'.push p') :=
  ⟨h.closed, congrArg₂ List.cons hp h.current⟩

theorem Alike.close (h : b.Alike b') : b.close.Alike b'.close where
  closed := by
    refine congrArg₂ List.cons (Part.shape_concat ?_) h.closed
    rw [List.map_reverse, List.map_reverse, h.current]
  current := rfl

theorem Alike.part (h : b.Alike b') : b.part.shape = b'.part.shape := by
  refine Part.shape_alternation ?_
  rw [List.map_reverse, List.map_reverse, h.close.closed]

theorem Alike.repeat? (h : b.Alike b') (bounds : Nat × Option Nat) (greedy : Bool) :
    Option.Rel Alike (b.repeat? bounds greedy) (b'.repeat? bounds greedy) := by
  obtain ⟨closed, current⟩ := b
  obtain ⟨closed', current'⟩ := b'
  obtain ⟨hclosed, hcurrent⟩ := h
  match current, current' with
  | [], [] => exact .none
  | p :: ps, p' :: ps' =>
    obtain ⟨hp, hps⟩ := List.cons.inj hcurrent
    obtain ⟨hdepth, hrepeat⟩ := Prod.mk.inj hp
    unfold Branches.repeat?
    dsimp only
    rw [hrepeat]
    split_ifs
    · exact .some ⟨hclosed, congrArg₂ List.cons (congrArg (fun n => (n + 1, true)) hdepth) hps⟩
    · exact .none

end Branches

/-- Readers that read to the same places, with results that are related. -/
def Alike (R : α → β → Prop) (f : Reader α) (g : Reader β) : Prop :=
  ∀ s, Option.Rel (fun r r' => R r.1 r'.1 ∧ r.2 = r'.2) (f.run s) (g.run s)

namespace Alike

variable {R : α → β → Prop} {f : Reader α} {g : Reader β}

theorem bind {S : γ → δ → Prop} {k : α → Reader γ} {l : β → Reader δ} (h : Alike R f g)
    (h' : ∀ a b, R a b → Alike S (k a) (l b)) : Alike S (f >>= k) (g >>= l) := by
  intro s
  rw [StateT.run_bind, StateT.run_bind]
  have hs := h s
  generalize f.run s = r, g.run s = r' at hs
  cases hs with
  | none => exact .none
  | @some p q hpq =>
    obtain ⟨a, t⟩ := p
    obtain ⟨b, u⟩ := q
    obtain ⟨hab, rfl⟩ := hpq
    exact h' a b hab t

theorem pure {a : α} {b : β} (h : R a b) : Alike R (pure a) (pure b) := fun _ => .some ⟨h, rfl⟩

theorem failure : Alike R (failure : Reader α) (failure : Reader β) := fun _ => .none

theorem refl (f : Reader α) : Alike Eq f f := by
  intro s
  cases f.run s with
  | none => exact .none
  | some r => exact .some ⟨rfl, rfl⟩

theorem lift {o : Option α} {o' : Option β} (h : Option.Rel R o o') :
    Alike R (liftM o : Reader α) (liftM o' : Reader β) := by
  cases h with
  | none => exact failure
  | some h => exact pure h

theorem ite {c : Prop} [Decidable c] {f' : Reader α} {g' : Reader β} (h : c → Alike R f g)
    (h' : ¬ c → Alike R f' g') : Alike R (if c then f else f') (if c then g else g') := by
  split_ifs with hc
  · exact h hc
  · exact h' hc

/-- The same reading goes on with readers that are alike. -/
theorem after {k : γ → Reader α} {l : γ → Reader β} (f : Reader γ)
    (h : ∀ c, Alike R (k c) (l c)) : Alike R (f >>= k) (f >>= l) :=
  (refl f).bind fun c _ hc => hc ▸ h c

end Alike

inductive GroupStart.Alike : GroupStart → GroupStart → Prop
  | flags {flags flags' : Flags} : flags.Alike flags' → Alike (.flags flags) (.flags flags')
  | capture (index : Nat) : Alike (.capture index) (.capture index)
  | group {flags flags' : Flags} : flags.Alike flags' → Alike (.group flags) (.group flags')

theorem readGroupStart_withDots (flags : Flags) (all : Bool) :
    Alike GroupStart.Alike (readGroupStart flags) (readGroupStart (flags.withDots all)) := by
  have hcapture (name : Option String) : Alike GroupStart.Alike
      (openGroup name >>= fun index => pure (GroupStart.capture index))
      (openGroup name >>= fun index => pure (GroupStart.capture index)) :=
    .after _ fun index => .pure (.capture index)
  unfold readGroupStart
  refine .after (skipBlanks flags) fun _ => .after rest fun cs => ?_
  refine .ite (fun _ => .failure) fun _ => .after (accept "?P<") fun _ => ?_
  refine .ite (fun _ => .after readGroupName fun name => hcapture name) fun _ => ?_
  refine .after (accept "?<") fun _ => ?_
  refine .ite (fun _ => .after readGroupName fun name => hcapture name) fun _ => ?_
  refine .after (accept "?") fun _ => .ite (fun _ => ?_) fun _ => hcapture none
  refine .after rest fun cs => .after (setRest _) fun _ => ?_
  refine .bind (.lift (flags.withLetters?_withDots all true [] _)) fun inner inner' hinner => ?_
  refine .after (accept ":") fun _ => .ite (fun _ => .pure (.group hinner)) fun _ => ?_
  refine .after (expect ")") fun _ => ?_
  exact .ite (fun _ => .failure) fun _ => .pure (.flags hinner)

/-- What a dot matches does not decide whether it may stand in a pattern. -/
theorem character?_withDots (flags : Flags) (all : Bool) (c : Char) :
    Option.Rel (fun _ _ => True) (character? flags c) (character? (flags.withDots all) c) := by
  have hdot (flags : Flags) : flags.dot?.isSome = flags.unicode := by
    unfold Flags.dot?
    cases flags.unicode with
    | false => rfl
    | true =>
      rw [Bool.not_true, if_neg Bool.false_ne_true]
      split_ifs <;> rfl
  unfold character?
  split
  · have hsome := (hdot flags).trans (hdot (flags.withDots all)).symm
    generalize flags.dot? = dot, (flags.withDots all).dot? = dot' at hsome
    cases dot with
    | none =>
      cases dot' with
      | none => exact .none
      | some => cases hsome
    | some =>
      cases dot' with
      | none => cases hsome
      | some => exact .some trivial
  all_goals exact .some trivial

/-- What a dot matches does not change to where a pattern is read. -/
theorem readBranches_alike {flags flags' : Flags} {b b' : Branches} (hflags : flags.Alike flags')
    (hb : b.Alike b') (fuel levels : Nat) :
    Alike (fun p q => p.shape = q.shape) (readBranches fuel levels flags b)
      (readBranches fuel levels flags' b') := by
  induction fuel generalizing levels flags flags' b b' with
  | zero => exact .failure
  | succ fuel ih =>
    obtain ⟨all, rfl⟩ := hflags
    have hsame : flags.Alike (flags.withDots all) := ⟨all, rfl⟩
    have hpart (p : Part) : (b.push p).Alike (b'.push p) := hb.push rfl
    unfold readBranches
    refine .after (skipBlanks flags) fun _ => .after rest fun z => ?_
    cases z with
    | nil => exact .pure hb.part
    | cons c cs =>
      refine .ite (fun _ => .pure hb.part) fun _ => .after (setRest cs) fun _ => ?_
      have hrepeat : Alike (fun p q => p.shape = q.shape)
          (readRepetition flags c >>= fun bounds => accept "?" >>= fun isLazy =>
            liftM (b.repeat? bounds (isLazy == flags.swapGreed)) >>= fun b =>
              readBranches fuel levels flags b)
          (readRepetition (flags.withDots all) c >>= fun bounds => accept "?" >>= fun isLazy =>
            liftM (b'.repeat? bounds (isLazy == flags.swapGreed)) >>= fun b =>
              readBranches fuel levels (flags.withDots all) b) := by
        rw [readRepetition_withDots]
        refine .after _ fun bounds => .after (accept "?") fun isLazy => ?_
        exact .bind (.lift (hb.repeat? bounds _)) fun b b' hb => ih hsame hb levels
      have hgroup {levels : Nat} {inner inner' : Flags} (hinner : inner.Alike inner')
          (nest : Part → Part)
          (hnest : ∀ p q, p.shape = q.shape → (nest p).shape = (nest q).shape) :
          Alike (fun p q => p.shape = q.shape)
            (readBranches fuel levels inner .start >>= fun p => expect ")" >>= fun _ =>
              readBranches fuel (levels + 1) flags (b.push (nest p)))
            (readBranches fuel levels inner' .start >>= fun p => expect ")" >>= fun _ =>
              readBranches fuel (levels + 1) (flags.withDots all) (b'.push (nest p))) :=
        .bind (ih hinner ⟨rfl, rfl⟩ levels) fun p q hpq => .after (expect ")") fun _ =>
          ih hsame (hb.push (hnest p q hpq)) (levels + 1)
      have hdeeper (p q : Part) (h : p.shape = q.shape) :
          (p.depth + 1, true) = (q.depth + 1, true) :=
        congrArg (fun r => (r.1 + 1, true)) h
      split
      · exact ih hsame hb.close levels
      · refine .bind (readGroupStart_withDots flags all) fun start start' hstart => ?_
        cases hstart with
        | flags hinner => exact ih hinner (hpart _) levels
        | capture index =>
          cases levels with
          | zero => exact .failure
          | succ levels => exact hgroup hsame (fun p => p.nest (.capture index p.tree)) hdeeper
        | group hinner =>
          cases levels with
          | zero => exact .failure
          | succ levels => exact hgroup hinner (fun p => p.nest p.tree) hdeeper
      · rw [readOpening_withDots, readClass_withDots]
        exact .after _ fun opened => .after _ fun k => ih hsame (hpart _) levels
      · rw [readEscape_withDots]
        exact .after _ fun e => ih hsame (hpart _) levels
      · exact hrepeat
      · exact hrepeat
      · exact hrepeat
      · exact hrepeat
      · refine .bind (.lift (character?_withDots flags all c)) fun t t' _ => ?_
        have hshape : (Part.ofTree t).shape = (Part.ofTree t').shape := rfl
        exact ih hsame (hb.push hshape) levels

end SeriesQuery.Pattern
