import Mathlib.Data.List.Basic
import SeriesQuery.Evaluation.Stepwise
import SeriesQuery.Proofs.Samples.Partition
import SeriesQuery.Store

/-!
# What selectors see of a series

The samples of a stored series are in order of time. Whatever larger range was fetched, an
evaluation at a timestamp sees the stored samples between two times.
-/

namespace SeriesQuery

variable {α : Type}

def InOrder (l : List (Sample α)) : Prop := l.Pairwise fun a b => a.timestamp < b.timestamp

namespace InOrder

variable {l : List (Sample α)}

theorem filter (h : InOrder l) (p : Sample α → Bool) : InOrder (l.filter p) :=
  List.Pairwise.filter p h

theorem leads_le (h : InOrder l) (t : Int) : Leads (fun s => s.timestamp ≤ t) l := by
  refine h.imp fun {a b} hab hb => ?_
  simp only [decide_eq_true_eq] at hb ⊢
  omega

theorem leads_lt (h : InOrder l) (t : Int) : Leads (fun s => s.timestamp < t) l := by
  refine h.imp fun {a b} hab hb => ?_
  simp only [decide_eq_true_eq] at hb ⊢
  omega

end InOrder

namespace Store

variable {stored : SortedMap Int α}

theorem inOrder_samplesIn (stored : SortedMap Int α) (range : TimeRange) :
    InOrder (samplesIn stored range) := by
  refine List.Pairwise.filterMap _ (fun a b hab a' ha b' hb => ?_) stored.ascending
  have hlt : a.1 < b.1 := by simpa [Int.compare_eq_lt] using hab
  by_cases hina : range.contains a.1 = true
  · by_cases hinb : range.contains b.1 = true
    · simp only [hina, if_true, Option.some.injEq] at ha
      simp only [hinb, if_true, Option.some.injEq] at hb
      subst ha hb
      exact hlt
    · simp [hinb] at hb
  · simp [hina] at ha

theorem filter_samplesIn {range : TimeRange} (part : TimeRange) (hstart : range.start ≤ part.start)
    (hfinish : part.finish ≤ range.finish) :
    (samplesIn stored range).filter (fun s => part.contains s.timestamp) =
      samplesIn stored part := by
  unfold samplesIn
  rw [List.filter_filterMap]
  refine List.filterMap_congr fun e _ => ?_
  by_cases hpart : part.contains e.1 = true
  · have hrange : range.contains e.1 = true := by
      simp only [TimeRange.contains, Bool.and_eq_true, decide_eq_true_eq] at hpart ⊢
      omega
    simp [hpart, hrange]
  · by_cases hrange : range.contains e.1 = true
    · simp [hpart, hrange]
    · simp [hpart, hrange]

end Store

/-- What lies between two counts of leading samples are the samples between two times. -/
theorem drop_take_counts {l : List (Sample α)} (h : InOrder l) {start finish : Int}
    (hle : start ≤ finish) :
    (l.take (l.filter fun s => s.timestamp ≤ finish).length).drop
        (l.filter fun s => s.timestamp < start).length =
      l.filter fun s => start ≤ s.timestamp && s.timestamp ≤ finish := by
  have hbefore : (l.filter fun s => decide (s.timestamp < start)) =
      (l.filter fun s => decide (s.timestamp ≤ finish)).filter fun s => s.timestamp < start := by
    rw [List.filter_filter]
    refine List.filter_congr fun s _ => ?_
    by_cases hs : s.timestamp < start
    · have : s.timestamp ≤ finish := by omega
      simp [hs, this]
    · simp [hs]
  rw [(h.leads_le finish).take_length_filter, hbefore,
    ((h.filter _).leads_lt start).drop_length_filter, List.filter_filter]
  refine List.filter_congr fun s _ => ?_
  simp only [← decide_not, Int.not_lt]

theorem count_lt_le_count_le (l : List (Sample α)) {start finish : Int} (hle : start ≤ finish) :
    (l.filter fun s => s.timestamp < start).length ≤
      (l.filter fun s => s.timestamp ≤ finish).length := by
  refine (List.monotone_filter_right l fun s hs => ?_).length_le
  simp only [decide_eq_true_eq] at hs ⊢
  omega

section Latest

variable [SampleValue α]

def Sample.current? (s : Sample α) : Option α := if s.isStale then none else some s.value

/-- The value of a sample that is recent enough and does not end its series. -/
def Sample.since? (start : Int) (s : Sample α) : Option α :=
  if start ≤ s.timestamp && !s.isStale then some s.value else none

theorem since?_of_le {start : Int} {s : Sample α} (h : start ≤ s.timestamp) :
    s.since? start = s.current? := by
  unfold Sample.since? Sample.current?
  cases s.isStale <;> simp [h]

theorem since?_of_lt {start : Int} {s : Sample α} (h : s.timestamp < start) :
    s.since? start = none := by
  have hnot : ¬start ≤ s.timestamp := by omega
  unfold Sample.since?
  simp [hnot]

/-- The last sample counts if it is among those that are recent enough. -/
theorem getLast?_bind_since? {l : List (Sample α)} (h : InOrder l) (start : Int) :
    l.getLast?.bind (Sample.since? start) =
      (l.filter fun s => start ≤ s.timestamp).getLast?.bind Sample.current? := by
  have hleads := h.leads_lt start
  have hrecent : (l.filter fun s => !decide (s.timestamp < start)) =
      l.filter fun s => start ≤ s.timestamp := by
    simp only [← decide_not, Int.not_lt]
  have hsplit := hleads.filter_append_filter_not
  rw [hrecent] at hsplit
  have hgetLast : l.getLast? = (l.filter fun s => decide (start ≤ s.timestamp)).getLast?.or
      (l.filter fun s => decide (s.timestamp < start)).getLast? := by
    rw [← List.getLast?_append, hsplit]
  rw [hgetLast]
  cases hlast : (l.filter fun s => decide (start ≤ s.timestamp)).getLast? with
  | none =>
    rw [Option.none_or]
    cases hold : (l.filter fun s => decide (s.timestamp < start)).getLast? with
    | none => rfl
    | some s =>
      have hs := (List.mem_filter.1 (List.mem_of_getLast? hold)).2
      exact since?_of_lt (by simpa using hs)
  | some s =>
    have hs := (List.mem_filter.1 (List.mem_of_getLast? hlast)).2
    exact since?_of_le (by simpa using hs)

/-- The value that a series has when only a part of its samples is looked at. -/
def Store.latestIn (stored : SortedMap Int α) (range : TimeRange) : Option α :=
  (samplesIn stored range).getLast?.bind Sample.current?

theorem Store.latestIn_eq {stored : SortedMap Int α} {range : TimeRange} {start finish : Int}
    (hstart : range.start ≤ start) (hfinish : finish ≤ range.finish) :
    ((samplesIn stored range).filter fun s => s.timestamp ≤ finish).getLast?.bind
      (Sample.since? start) = latestIn stored ⟨start, finish⟩ := by
  have horder := (inOrder_samplesIn stored range).filter fun s => s.timestamp ≤ finish
  rw [getLast?_bind_since? horder, List.filter_filter, latestIn,
    ← filter_samplesIn ⟨start, finish⟩ hstart hfinish]
  rfl

namespace Stepwise

theorem latest_eq {samples : Array (Sample α)} (h : InOrder samples.toList) (start finish : Int) :
    latest samples start finish =
      (samples.toList.filter fun s => s.timestamp ≤ finish).getLast?.bind
        (Sample.since? start) := by
  have hleads := h.leads_le finish
  unfold latest
  rw [partitionPoint_eq hleads]
  have htake := hleads.take_length_filter
  generalize hcount : (samples.toList.filter fun s => decide (s.timestamp ≤ finish)).length = count
    at htake
  cases count with
  | zero =>
    rw [List.length_eq_zero_iff.1 hcount]
    rfl
  | succ i =>
    have hlt : i < samples.toList.length := by
      have := List.length_filter_le (fun s : Sample α => s.timestamp ≤ finish) samples.toList
      omega
    rw [← htake, List.getLast?_take, if_neg (Nat.succ_ne_zero i), Nat.add_sub_cancel,
      Array.getElem?_toList]
    have hget : samples[i]? = some samples[i] := Array.getElem?_eq_getElem hlt
    change samples[i]?.bind (Sample.since? start) = _
    rw [hget]
    rfl

end Stepwise

end Latest

end SeriesQuery
