import Mathlib.Data.List.Nodup
import SeriesQuery.Trace.Recorder

/-!
# What a recorder holds after its calls

However spans are started and ended, they are numbered from one in the order in which they start,
and each lasts until the first call after its start that ends its number.
-/

namespace SeriesQuery

namespace SpanCall

def end? (id : Nat) : SpanCall → Option Nat
  | .start _ _ _ => none
  | .finish now ended => if ended = id then some now else none

def firstEnd? (id : Nat) (calls : List SpanCall) : Option Nat := calls.findSome? (end? id)

theorem firstEnd?_finish (id now ended : Nat) (calls : List SpanCall) :
    firstEnd? id (.finish now ended :: calls) =
      if ended = id then some now else firstEnd? id calls := by
  unfold firstEnd?
  by_cases h : ended = id <;> simp [end?, h]

end SpanCall

namespace Span

def after (calls : List SpanCall) (s : Span) : Span :=
  { s with duration := s.duration <|> (SpanCall.firstEnd? s.id calls).map (· - s.start) }

theorem after_nil (s : Span) : s.after [] = s := by
  obtain ⟨id, parent, name, start, duration⟩ := s
  cases duration <;> rfl

theorem after_start (now : Nat) (name : String) (parent : Option Nat) (calls : List SpanCall)
    (s : Span) : s.after (.start now name parent :: calls) = s.after calls := rfl

def ended (now id : Nat) (s : Span) : Span :=
  if s.id = id ∧ s.duration.isNone then { s with duration := some (now - s.start) } else s

theorem id_ended (now id : Nat) (s : Span) : (s.ended now id).id = s.id := by
  unfold ended
  split <;> rfl

theorem ended_of_ne {now id : Nat} {s : Span} (h : s.id ≠ id) : s.ended now id = s :=
  if_neg fun hs => h hs.1

theorem ended_of_isSome {now id : Nat} {s : Span} (h : s.duration.isSome) : s.ended now id = s :=
  if_neg fun hs => by simp [Option.isNone_iff_eq_none.1 hs.2] at h

theorem after_finish (now id : Nat) (calls : List SpanCall) (s : Span) :
    s.after (.finish now id :: calls) = (s.ended now id).after calls := by
  unfold after
  rw [SpanCall.firstEnd?_finish, id_ended]
  by_cases hid : s.id = id
  · rw [if_pos hid.symm]
    obtain ⟨own, parent, name, start, duration⟩ := s
    cases duration with
    | none =>
      unfold ended
      rw [if_pos ⟨hid, rfl⟩]
      rfl
    | some d =>
      rw [ended_of_isSome rfl]
      rfl
  · rw [if_neg fun h => hid h.symm, ended_of_ne hid]

end Span

def spansStarted : Nat → List SpanCall → List Span
  | _, [] => []
  | id, .start now name parent :: rest =>
    Span.after rest { id, parent, name, start := now, duration := none } ::
      spansStarted (id + 1) rest
  | id, .finish _ _ :: rest => spansStarted id rest

theorem ids_spansStarted (id : Nat) (calls : List SpanCall) :
    (spansStarted id calls).map Span.id = List.range' id (spansStarted id calls).length := by
  induction calls generalizing id with
  | nil => rfl
  | cons c rest ih =>
    cases c with
    | start now name parent => exact congrArg (id :: ·) (ih (id + 1))
    | finish now ended => exact ih id

namespace Recorder

variable {r : Recorder}

def Numbered (r : Recorder) : Prop := r.spans.map Span.id = List.range' 1 r.spans.length

theorem Numbered.nodup (h : r.Numbered) : (r.spans.map Span.id).Nodup := by
  rw [h]
  exact List.nodup_range'

theorem finishFirst_eq_map {now id : Nat} {spans : List Span} (h : (spans.map Span.id).Nodup) :
    finishFirst now id spans = spans.map (Span.ended now id) := by
  induction spans with
  | nil => rfl
  | cons s rest ih =>
    rw [List.map_cons, List.nodup_cons] at h
    obtain ⟨hs, hrest⟩ := h
    unfold finishFirst
    by_cases hid : s.id = id
    · have hothers : rest.map (Span.ended now id) = rest := by
        refine (List.map_congr_left fun t ht => ?_).trans (List.map_id rest)
        exact Span.ended_of_ne fun htid => hs (List.mem_map.2 ⟨t, ht, htid.trans hid.symm⟩)
      rw [if_pos hid, List.map_cons, hothers]
      obtain ⟨own, parent, name, start, duration⟩ := s
      cases duration with
      | none =>
        unfold Span.ended
        rw [if_pos ⟨hid, rfl⟩]
        rfl
      | some d =>
        rw [Span.ended_of_isSome rfl]
        rfl
    · rw [if_neg hid, List.map_cons, Span.ended_of_ne hid, ih hrest]

theorem finishLast_eq_finish (h : r.Numbered) (now id : Nat) :
    r.finishLast now id = r.finish now id := by
  have hreverse : (r.spans.reverse.map Span.id).Nodup := by
    rw [List.map_reverse, List.nodup_reverse]
    exact h.nodup
  unfold finishLast
  rw [finishFirst_eq_map hreverse, List.map_reverse, List.reverse_reverse]
  rfl

theorem finishLast_of_not_open (h : r.Numbered) {id : Nat}
    (hended : ∀ s ∈ r.spans, s.id = id → s.duration.isSome) (now : Nat) :
    r.finishLast now id = r := by
  rw [finishLast_eq_finish h]
  have hsame : r.spans.map (Span.ended now id) = r.spans := by
    refine (List.map_congr_left fun s hs => ?_).trans (List.map_id _)
    by_cases hid : s.id = id
    · exact Span.ended_of_isSome (hended s hs hid)
    · exact Span.ended_of_ne hid
  exact congrArg Recorder.mk hsame

theorem Numbered.empty : Recorder.empty.Numbered := rfl

theorem Numbered.start (h : r.Numbered) (now : Nat) (name : String) (parent : Option Nat) :
    (r.start now name parent).Numbered := by
  change (r.spans ++ [_]).map Span.id = List.range' 1 (r.spans ++ [_]).length
  rw [List.map_append, List.length_append, h, List.length_singleton, List.range'_1_concat]
  exact congrArg (fun id => _ ++ [id]) (Nat.add_comm _ _)

theorem Numbered.finish (h : r.Numbered) (now id : Nat) : (r.finish now id).Numbered := by
  change (r.spans.map (Span.ended now id)).map Span.id =
    List.range' 1 (r.spans.map (Span.ended now id)).length
  rw [List.map_map, List.length_map, ← h]
  exact List.map_congr_left fun s _ => Span.id_ended now id s

/-- What a recorder holds after calls: the spans it held, as the calls leave them, and those that
the calls start. -/
theorem callAll_eq (h : r.Numbered) (calls : List SpanCall) :
    r.callAll calls = ((spansStarted r.nextId calls).map Span.id,
      ⟨r.spans.map (Span.after calls) ++ spansStarted r.nextId calls⟩) := by
  induction calls generalizing r with
  | nil =>
    have hsame : r.spans.map (Span.after []) = r.spans :=
      (List.map_congr_left fun s _ => s.after_nil).trans (List.map_id _)
    rw [hsame]
    change ([], r) = ([], Recorder.mk (r.spans ++ []))
    rw [List.append_nil]
  | cons c rest ih =>
    cases c with
    | start now name parent =>
      have hnext : (r.start now name parent).nextId = r.nextId + 1 := by
        simp [nextId, Recorder.start]
      unfold callAll
      change (r.nextId :: ((r.start now name parent).callAll rest).1,
        ((r.start now name parent).callAll rest).2) = _
      have hafter : Span.after (.start now name parent :: rest) = Span.after rest :=
        funext (Span.after_start now name parent rest)
      rw [ih (h.start now name parent), hnext, hafter]
      change _ = (r.nextId :: _, Recorder.mk (r.spans.map (Span.after rest) ++ _ :: _))
      rw [List.append_cons]
      change (_, Recorder.mk ((r.spans ++ [_]).map _ ++ _)) = _
      rw [List.map_append]
      rfl
    | finish now id =>
      unfold callAll
      change (((r.finishLast now id).callAll rest).1, ((r.finishLast now id).callAll rest).2) = _
      rw [finishLast_eq_finish h, ih (h.finish now id)]
      have hnext : (r.finish now id).nextId = r.nextId := by
        simp [nextId, Recorder.finish]
      have hspans : (r.finish now id).spans.map (Span.after rest) =
          r.spans.map (Span.after (.finish now id :: rest)) := by
        change (r.spans.map (Span.ended now id)).map _ = _
        rw [List.map_map]
        exact List.map_congr_left fun s _ => (s.after_finish now id rest).symm
      rw [hnext, hspans]
      rfl

def recorded (calls : List SpanCall) : Recorder := (empty.callAll calls).2

theorem spans_recorded (calls : List SpanCall) :
    (recorded calls).spans = spansStarted 1 calls := by
  unfold recorded
  rw [callAll_eq .empty]
  rfl

theorem ids_recorded (calls : List SpanCall) :
    (empty.callAll calls).1 = (recorded calls).spans.map Span.id := by
  rw [spans_recorded, callAll_eq .empty]
  rfl

theorem numbered_recorded (calls : List SpanCall) : (recorded calls).Numbered := by
  unfold Numbered
  rw [spans_recorded]
  exact ids_spansStarted 1 calls

end Recorder

end SeriesQuery
