import Mathlib.Data.List.Perm.Basic
import SeriesQuery.Trace.Outline
import SeriesQuery.Trace.Schedule

/-!
# Spans are accounted for

However turns are taken, a recorder holds one span for each piece of work that has been started,
under the number and the parent that the work knows. Spans are numbered as they start, so a parent
comes before what is inside it, and when the outermost span has ended all others have.
-/

namespace SeriesQuery

structure SpanEntry where
  id : Nat
  parent : Option Nat
  name : String
  ended : Bool
deriving DecidableEq, Repr

namespace Recorder

def entries (r : Recorder) : List SpanEntry :=
  r.spans.map fun s => ⟨s.id, s.parent, s.name, s.duration.isSome⟩

theorem entries_start (r : Recorder) (now : Nat) (name : String) (parent : Option Nat) :
    (r.start now name parent).entries = r.entries ++ [⟨r.nextId, parent, name, false⟩] := by
  simp [entries, start]

/-- The entry of a span when the span with a number has ended. -/
def close (id : Nat) (e : SpanEntry) : SpanEntry :=
  if e.id = id then { e with ended := true } else e

theorem entries_finish (r : Recorder) (now id : Nat) :
    (r.finish now id).entries = r.entries.map (close id) := by
  unfold entries finish
  rw [List.map_map, List.map_map]
  refine List.map_congr_left fun s _ => ?_
  cases hd : s.duration <;> by_cases hid : s.id = id <;> simp [close, hd, hid]

/-- Spans are numbered in the order in which they start, and each has a parent that was there. -/
structure Ordered (r : Recorder) : Prop where
  numbered : r.entries.map SpanEntry.id = List.range' 1 r.entries.length
  earlier : ∀ e ∈ r.entries, ∀ p ∈ e.parent, 1 ≤ p ∧ p < e.id

namespace Ordered

variable {r : Recorder}

protected theorem empty : Ordered Recorder.empty := ⟨rfl, nofun⟩

theorem nextId_eq (r : Recorder) : r.nextId = 1 + r.entries.length := by
  unfold nextId entries
  rw [List.length_map, Nat.add_comm]

theorem mem_ids_iff (h : r.Ordered) {id : Nat} :
    id ∈ r.entries.map SpanEntry.id ↔ 1 ≤ id ∧ id < r.nextId := by
  rw [h.numbered, List.mem_range'_1, nextId_eq]

theorem start (h : r.Ordered) (now : Nat) (name : String) {parent : Option Nat}
    (hparent : ∀ p ∈ parent, 1 ≤ p ∧ p < r.nextId) : (r.start now name parent).Ordered := by
  constructor
  · rw [entries_start, List.map_append, h.numbered, List.length_append, List.length_singleton,
      List.range'_1_concat, nextId_eq]
    rfl
  · rw [entries_start]
    intro e he
    rcases List.mem_append.1 he with he | he
    · exact h.earlier e he
    · obtain rfl := List.mem_singleton.1 he
      exact hparent

theorem finish (h : r.Ordered) (now id : Nat) : (r.finish now id).Ordered := by
  have hclose (e : SpanEntry) : (close id e).id = e.id ∧ (close id e).parent = e.parent := by
    unfold close
    split <;> exact ⟨rfl, rfl⟩
  constructor
  · rw [entries_finish, List.map_map, List.length_map, ← h.numbered]
    exact List.map_congr_left fun e _ => (hclose e).1
  · rw [entries_finish]
    intro e he
    obtain ⟨e', he', rfl⟩ := List.mem_map.1 he
    rw [(hclose e').1, (hclose e').2]
    exact h.earlier e' he'

end Ordered

end Recorder

namespace Work

mutual

def plan : Work → SpanTree
  | waiting plan => plan
  | opened _ name inner => .node name (plans inner)
  | ended _ _ name inner => .node name (plans inner)

def plans : List Work → List SpanTree
  | [] => []
  | w :: rest => w.plan :: plans rest

end

mutual

def entries (parent : Option Nat) : Work → List SpanEntry
  | waiting _ => []
  | opened id name inner => ⟨id, parent, name, false⟩ :: entriesAll (some id) inner
  | ended _ id name inner => ⟨id, parent, name, true⟩ :: entriesAll (some id) inner

def entriesAll (parent : Option Nat) : List Work → List SpanEntry
  | [] => []
  | w :: rest => w.entries parent ++ entriesAll parent rest

end

mutual

/-- Whether all that was planned has ended with a result. -/
def isComplete : Work → Bool
  | waiting _ => false
  | opened _ _ _ => false
  | ended ok _ _ inner => ok && areComplete inner

def areComplete : List Work → Bool
  | [] => true
  | w :: rest => w.isComplete && areComplete rest

end

theorem plans_eq_map (ws : List Work) : plans ws = ws.map plan := by
  induction ws with
  | nil => rfl
  | cons w rest ih => rw [plans, ih, List.map_cons]

theorem entriesAll_append (parent : Option Nat) (ws vs : List Work) :
    entriesAll parent (ws ++ vs) = entriesAll parent ws ++ entriesAll parent vs := by
  induction ws with
  | nil => rfl
  | cons w rest ih => rw [List.cons_append, entriesAll, entriesAll, ih, List.append_assoc]

theorem plans_map_waiting (plans : List SpanTree) : Work.plans (plans.map waiting) = plans := by
  rw [plans_eq_map, List.map_map]
  exact List.map_id plans

theorem entriesAll_map_waiting (parent : Option Nat) (plans : List SpanTree) :
    entriesAll parent (plans.map waiting) = [] := by
  induction plans with
  | nil => rfl
  | cons t rest ih => rw [List.map_cons, entriesAll, ih]; rfl

variable {parent : Option Nat} {s s' : Work × Recorder}

theorem Move.plan_eq (h : Move parent s s') : s'.1.plan = s.1.plan := by
  induction h with
  | start now => simp only [plan, plans_map_waiting]
  | inside h ih => simp only [plan, plans_eq_map, List.map_append, List.map_cons, ih]
  | succeed now h => rfl
  | fail now h => rfl

/-- Ending an open span changes its own entry and no other. -/
theorem close_perm {r : Recorder} (hr : r.Ordered) {id : Nat} {name : String}
    {others : List SpanEntry} (h : r.entries.Perm (⟨id, parent, name, false⟩ :: others)) :
    (r.entries.map (Recorder.close id)).Perm (⟨id, parent, name, true⟩ :: others) := by
  have hnodup : (id :: others.map SpanEntry.id).Nodup := by
    have hids := h.map SpanEntry.id
    rw [hr.numbered] at hids
    exact hids.nodup_iff.1 List.nodup_range'
  refine (h.map _).trans ?_
  rw [List.map_cons]
  have hself : Recorder.close id ⟨id, parent, name, false⟩ = ⟨id, parent, name, true⟩ := if_pos rfl
  have hothers : others.map (Recorder.close id) = others := by
    refine (List.map_congr_left fun e he => if_neg fun hid => ?_).trans (List.map_id _)
    exact (List.nodup_cons.1 hnodup).1 (hid ▸ List.mem_map_of_mem he)
  rw [hself, hothers]

/-- The recorder holds what has been started and some entries besides. -/
def Records (parent : Option Nat) (others : List SpanEntry) (s : Work × Recorder) : Prop :=
  s.2.Ordered ∧ s.2.entries.Perm (s.1.entries parent ++ others)

theorem Move.records (h : Move parent s s') {others : List SpanEntry}
    (hparent : ∀ p ∈ parent, 1 ≤ p ∧ p < s.2.nextId) (hs : Records parent others s) :
    Records parent others s' := by
  induction h generalizing others with
  | @start parent name inner r now =>
    obtain ⟨hr, hperm⟩ := hs
    refine ⟨hr.start now name hparent, ?_⟩
    change (r.start now name parent).entries.Perm
      (⟨r.nextId, parent, name, false⟩ :: entriesAll (some r.nextId) (inner.map waiting) ++ others)
    rw [Recorder.entries_start, entriesAll_map_waiting]
    exact (List.perm_append_singleton _ _).trans (hperm.cons _)
  | @inside parent id name before w w' after r r' h ih =>
    obtain ⟨hr, hperm⟩ := hs
    -- what stands around the work that moves counts with the others
    have hsplit (w : Work) : ((opened id name (before ++ w :: after)).entries parent ++ others).Perm
        (w.entries (some id) ++ (⟨id, parent, name, false⟩ ::
          (entriesAll (some id) before ++ entriesAll (some id) after ++ others))) := by
      rw [entries, entriesAll_append, entriesAll, List.cons_append]
      refine .trans (.cons _ ?_) List.perm_middle.symm
      rw [List.append_assoc, List.append_assoc, List.append_assoc]
      exact List.perm_append_comm_assoc ..
    have hid : ∀ p ∈ some id, 1 ≤ p ∧ p < r.nextId := by
      intro p hp
      obtain rfl := Option.mem_some.1 hp
      refine hr.mem_ids_iff.1 (List.mem_map.2 ⟨⟨id, parent, name, false⟩, ?_, rfl⟩)
      exact hperm.mem_iff.2 (.head _)
    obtain ⟨hr', hperm'⟩ := ih hid ⟨hr, hperm.trans (hsplit w)⟩
    exact ⟨hr', hperm'.trans (hsplit w').symm⟩
  | @succeed parent id name inner r now h =>
    obtain ⟨hr, hperm⟩ := hs
    refine ⟨hr.finish now id, ?_⟩
    rw [Recorder.entries_finish]
    exact close_perm hr hperm
  | @fail parent id name inner r now h =>
    obtain ⟨hr, hperm⟩ := hs
    refine ⟨hr.finish now id, ?_⟩
    rw [Recorder.entries_finish]
    exact close_perm hr hperm

/-- Nothing is open inside a span that has ended, and with a result it has ended only if all
inside it has. -/
inductive Sound : Work → Prop
  | waiting {plan} : Sound (waiting plan)
  | opened {id name inner} (hinner : ∀ w ∈ inner, Sound w) : Sound (opened id name inner)
  | ended {ok id name inner} (hinner : ∀ w ∈ inner, Sound w)
    (hopen : ∀ w ∈ inner, w.isOpen = false) (hok : ok = true → ∀ w ∈ inner, w.isOk = true) :
    Sound (ended ok id name inner)

theorem isOpen_of_isOk {w : Work} (h : w.isOk = true) : w.isOpen = false := by
  cases w with
  | ended => rfl
  | _ => cases h

theorem Move.sound (h : Move parent s s') (hs : Sound s.1) : Sound s'.1 := by
  induction h with
  | start now =>
    refine .opened fun w hw => ?_
    obtain ⟨t, -, rfl⟩ := List.mem_map.1 hw
    exact .waiting
  | inside h ih =>
    cases hs with
    | opened hinner =>
      refine .opened fun v hv => ?_
      rcases List.mem_append.1 hv with hv | hv
      · exact hinner v (List.mem_append_left _ hv)
      · rcases List.mem_cons.1 hv with rfl | hv
        · exact ih (hinner _ (List.mem_append_right _ (.head _)))
        · exact hinner v (List.mem_append_right _ (.tail _ hv))
  | succeed now h =>
    cases hs with
    | opened hinner => exact .ended hinner (fun w hw => isOpen_of_isOk (h w hw)) fun _ => h
  | fail now h =>
    cases hs with
    | opened hinner => exact .ended hinner h nofun

theorem mem_entriesAll_iff {ws : List Work} {e : SpanEntry} :
    e ∈ entriesAll parent ws ↔ ∃ w ∈ ws, e ∈ w.entries parent := by
  induction ws with
  | nil => simp [entriesAll]
  | cons w rest ih => simp [entriesAll, ih]

theorem areComplete_iff {ws : List Work} :
    areComplete ws = true ↔ ∀ w ∈ ws, w.isComplete = true := by
  induction ws with
  | nil => simp [areComplete]
  | cons w rest ih => simp [areComplete, ih]

theorem Sound.ended_of_mem {w : Work} (hw : Sound w) (hopen : w.isOpen = false)
    {e : SpanEntry} (he : e ∈ w.entries parent) : e.ended = true := by
  induction hw generalizing parent with
  | waiting => cases he
  | opened hinner ih => cases hopen
  | ended hinner hover hok ih =>
    rw [entries, List.mem_cons, mem_entriesAll_iff] at he
    rcases he with rfl | ⟨w, hw, he⟩
    · rfl
    · exact ih w hw (hover w hw) he

theorem Sound.isComplete {w : Work} (hw : Sound w) (h : w.isOk = true) : w.isComplete = true := by
  induction hw with
  | waiting => cases h
  | opened hinner ih => cases h
  | ended hinner hover hok ih =>
    unfold Work.isComplete
    rw [Bool.and_eq_true, areComplete_iff]
    exact ⟨h, fun w hw => ih w hw (hok h w hw)⟩

mutual

theorem length_entries (parent : Option Nat) : ∀ {w : Work}, w.isComplete = true →
    (w.entries parent).length = w.plan.size
  | .ended ok id name inner, h => by
    rw [isComplete, Bool.and_eq_true] at h
    rw [entries, plan, SpanTree.size, List.length_cons, length_entriesAll (some id) h.2,
      Nat.add_comm]

theorem length_entriesAll (parent : Option Nat) : ∀ {ws : List Work}, areComplete ws = true →
    (entriesAll parent ws).length = SpanTree.sizeAll (plans ws)
  | [], _ => rfl
  | w :: rest, h => by
    rw [areComplete, Bool.and_eq_true] at h
    rw [entriesAll, plans, SpanTree.sizeAll, List.length_append, length_entries parent h.1,
      length_entriesAll parent h.2]

end

mutual

/-- Only the outermost span can be without a parent. -/
theorem parent_ne_none_of_mem {id : Nat} : ∀ {w : Work} {e : SpanEntry},
    e ∈ w.entries (some id) → e.parent ≠ none
  | .opened _ _ _, _, .head _ => nofun
  | .opened _ _ _, _, .tail _ he => parent_ne_none_of_memAll he
  | .ended _ _ _ _, _, .head _ => nofun
  | .ended _ _ _ _, _, .tail _ he => parent_ne_none_of_memAll he

theorem parent_ne_none_of_memAll {id : Nat} : ∀ {ws : List Work} {e : SpanEntry},
    e ∈ entriesAll (some id) ws → e.parent ≠ none
  | w :: rest, e, he => by
    rw [entriesAll, List.mem_append] at he
    exact he.elim parent_ne_none_of_mem parent_ne_none_of_memAll

end

end Work

namespace Recorder

/-- Every span has ended, one is without a parent, and the parents of the others come first. -/
structure Accounted (r : Recorder) : Prop where
  distinct : (r.spans.map Span.id).Nodup
  ended : ∀ s ∈ r.spans, s.duration.isSome = true
  root : ∃ s, r.spans.filter (fun s => s.parent.isNone) = [s]
  earlier : ∀ (i : Nat) (s : Span) (p : Nat), r.spans[i]? = some s → s.parent = some p →
    ∃ (j : Nat) (s' : Span), j < i ∧ r.spans[j]? = some s' ∧ s'.id = p

/-- The spans are those of a plan: they can be put in its place one by one, each with its name and
with the number of what it lies inside as its parent. -/
def Mirrors (r : Recorder) (plan : SpanTree) : Prop :=
  ∃ w : Work, w.plan = plan ∧ w.isComplete = true ∧ r.entries.Perm (w.entries none)

theorem Mirrors.length_eq {r : Recorder} {plan : SpanTree} (h : r.Mirrors plan) :
    r.spans.length = plan.size := by
  obtain ⟨w, rfl, hcomplete, hperm⟩ := h
  rw [← Work.length_entries none hcomplete, ← hperm.length_eq, entries, List.length_map]

theorem Ordered.accounted {r : Recorder} (h : r.Ordered) {root : SpanEntry}
    {inner : List SpanEntry} (hperm : r.entries.Perm (root :: inner)) (hroot : root.parent = none)
    (hinner : ∀ e ∈ inner, e.parent ≠ none) (hended : ∀ e ∈ root :: inner, e.ended = true) :
    r.Accounted := by
  have hids : r.spans.map Span.id = List.range' 1 r.spans.length := by
    have hnumbered := h.numbered
    unfold entries at hnumbered
    rwa [List.map_map, List.length_map] at hnumbered
  have hid {i : Nat} {s : Span} (hi : r.spans[i]? = some s) : s.id = 1 + i := by
    have hget : (r.spans.map Span.id)[i]? = some s.id := by rw [List.getElem?_map, hi]; rfl
    rw [hids, List.getElem?_range' (List.getElem?_eq_some_iff.1 hi).1] at hget
    simpa using (Option.some.inj hget).symm
  refine ⟨hids ▸ List.nodup_range', fun s hs => ?_, ?_, fun i s p hi hp => ?_⟩
  · exact hended _ (hperm.mem_iff.1 (List.mem_map_of_mem hs))
  · have hroots : r.entries.filter (fun e => e.parent.isNone) = [root] := by
      have hothers : inner.filter (fun e => e.parent.isNone) = [] :=
        List.filter_eq_nil_iff.2 fun e he hnone => hinner e he (Option.isNone_iff_eq_none.1 hnone)
      have hfiltered := hperm.filter fun e => e.parent.isNone
      rw [List.filter_cons_of_pos (by simp [hroot]), hothers] at hfiltered
      exact List.perm_singleton.1 hfiltered
    rw [entries, List.filter_map] at hroots
    obtain ⟨s, hs, -⟩ := List.map_eq_singleton_iff.1 hroots
    exact ⟨s, hs⟩
  · obtain ⟨hpos, hlt⟩ := h.earlier _ (List.mem_map_of_mem (List.mem_of_getElem? hi)) p hp
    change p < s.id at hlt
    have hlength := (List.getElem?_eq_some_iff.1 hi).1
    rw [hid hi] at hlt
    -- spans are numbered from one, so the parent stands one place before its number
    have hget : r.spans[p - 1]? = some r.spans[p - 1] := List.getElem?_eq_getElem (by omega)
    refine ⟨p - 1, _, by omega, hget, ?_⟩
    rw [hid hget]
    omega

end Recorder

/-- However its turns are taken, an evaluation accounts for its spans, and one that has a result
has gone through all that was planned. -/
theorem SpanTree.Leaves.accounted {plan : SpanTree} {ok : Bool} {r : Recorder}
    (h : plan.Leaves ok r) : r.Accounted ∧ (ok = true → r.Mirrors plan) := by
  obtain ⟨w, hrun, hover, rfl⟩ := h
  obtain ⟨hplan, hsound, hordered, hperm⟩ :
      w.plan = plan ∧ w.Sound ∧ Work.Records none [] (w, r) := by
    generalize hs : (w, r) = s at hrun
    obtain rfl : w = s.1 := congrArg Prod.fst hs
    obtain rfl : r = s.2 := congrArg Prod.snd hs
    clear hs hover
    induction hrun with
    | refl => exact ⟨rfl, .waiting, .empty, .nil⟩
    | tail _ hmove ih =>
      obtain ⟨hplan, hsound, hrecords⟩ := ih
      exact ⟨hmove.plan_eq.trans hplan, hmove.sound hsound, hmove.records nofun hrecords⟩
  rw [List.append_nil] at hperm
  refine ⟨?_, fun hok => ⟨w, hplan, hsound.isComplete hok, hperm⟩⟩
  cases w with
  | waiting plan => cases hover
  | opened id name inner => cases hover
  | ended ok id name inner =>
    have hended : ∀ e ∈ (Work.ended ok id name inner).entries none, e.ended = true :=
      fun e => hsound.ended_of_mem rfl
    exact hordered.accounted hperm rfl (fun e => Work.parent_ne_none_of_memAll) hended

end SeriesQuery
