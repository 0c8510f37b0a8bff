import Mathlib.Data.List.Induction
import SeriesQuery.Proofs.Samples.Windows

/-!
# Histories of a store

A store is what a history of ingestions has made of the empty one. At a timestamp of a series it
holds the last value that was written there, whatever was written before or elsewhere. What a
selector sees of a series is told by these values.
-/

namespace SeriesQuery

variable {α : Type}

namespace Store

def value? (s : Store α) (m : Metric) (t : Int) : Option α := (s.series.get? m).bind (·.get? t)

theorem value?_empty (m : Metric) (t : Int) : (empty : Store α).value? m t = none := rfl

theorem value?_write (s : Store α) (t t' : Int) (m m' : Metric) (v : α) :
    (s.write t m v).value? m' t' = if m' = m ∧ t' = t then some v else s.value? m' t' := by
  unfold write value?
  rw [SortedMap.get?_alter]
  by_cases hm : m' = m
  · subst hm
    rw [if_pos rfl, Option.bind_some, SortedMap.get?_insert]
    by_cases ht : t' = t
    · rw [if_pos ht, if_pos ⟨rfl, ht⟩]
    · rw [if_neg ht, if_neg fun hand => ht hand.2]
      cases s.series.get? m' with
      | none => rfl
      | some stored => rfl
  · rw [if_neg hm, if_neg fun hand => hm hand.1]

/-- Of several values written at one time, the last of a series is kept. -/
theorem value?_foldl_write (s : Store α) (t : Int) (samples : List (Metric × α)) (m : Metric)
    (t' : Int) :
    (samples.foldl (fun s e => s.write t e.1 e.2) s).value? m t' =
      (if t' = t then (samples.filter (·.1 = m)).map Prod.snd else []).getLast?.or
        (s.value? m t') := by
  induction samples generalizing s with
  | nil => by_cases ht : t' = t <;> simp [ht]
  | cons e rest ih =>
    rw [List.foldl_cons, ih, value?_write]
    by_cases ht : t' = t
    · rw [if_pos ht, if_pos ht]
      by_cases hm : m = e.1
      · have hfilter : (e :: rest).filter (·.1 = m) = e :: rest.filter (·.1 = m) :=
          List.filter_cons_of_pos (by simp [hm])
        rw [if_pos ⟨hm, ht⟩, hfilter, List.map_cons, List.getLast?_cons, Option.or_some,
          Option.some_or]
      · have hfilter : (e :: rest).filter (·.1 = m) = rest.filter (·.1 = m) :=
          List.filter_cons_of_neg (by simp [Ne.symm hm])
        rw [if_neg fun hand => hm hand.1, hfilter]
    · rw [if_neg ht, if_neg ht, if_neg fun hand => ht hand.2]

end Store

/-- One value at a timestamp for each of several series, or the staleness marker instead of the
values. -/
structure Ingestion (α : Type) where
  timestamp : Int
  samples : List (Metric × α)
  stale : Bool := false

variable [SampleValue α]

namespace Ingestion

def marked (g : Ingestion α) : List (Metric × α) :=
  g.samples.map fun e => (e.1, if g.stale then SampleValue.staleMarker else e.2)

def writesAt (g : Ingestion α) (m : Metric) (t : Int) : List α :=
  if t = g.timestamp then (g.marked.filter (·.1 = m)).map Prod.snd else []

end Ingestion

def writesAt (history : List (Ingestion α)) (m : Metric) (t : Int) : List α :=
  history.flatMap (·.writesAt m t)

def written? (history : List (Ingestion α)) (m : Metric) (t : Int) : Option α :=
  (writesAt history m t).getLast?

namespace Store

def after (s : Store α) (g : Ingestion α) : Store α := s.ingest g.timestamp g.samples g.stale

def replay (history : List (Ingestion α)) : Store α := history.foldl after empty

theorem after_eq_foldl (s : Store α) (g : Ingestion α) :
    s.after g = g.marked.foldl (fun s e => s.write g.timestamp e.1 e.2) s := by
  unfold after ingest Ingestion.marked
  rw [List.foldl_map]

/-- An ingestion replaces the values at its timestamp of its series and no others. -/
theorem value?_after (s : Store α) (g : Ingestion α) (m : Metric) (t : Int) :
    (s.after g).value? m t = (g.writesAt m t).getLast?.or (s.value? m t) := by
  rw [after_eq_foldl, value?_foldl_write]
  rfl

theorem value?_replay (history : List (Ingestion α)) (m : Metric) (t : Int) :
    (replay history).value? m t = written? history m t := by
  induction history using List.reverseRecOn with
  | nil => exact value?_empty m t
  | append_singleton history g ih =>
    unfold replay written? writesAt at ih ⊢
    rw [List.foldl_append, List.foldl_cons, List.foldl_nil, value?_after, ih, List.flatMap_append,
      List.getLast?_append, List.flatMap_singleton]

theorem bind_get?_replay (history : List (Ingestion α)) (m : Metric) (t : Int) :
    ((replay history).series.get? m).bind (·.get? t) = written? history m t :=
  value?_replay history m t

end Store

/-- The last sample of a series in a range has a value and does not end the series. -/
def LatestIn (history : List (Ingestion α)) (m : Metric) (range : TimeRange) (v : α) : Prop :=
  ∃ t, range.contains t = true ∧ written? history m t = some v ∧ SampleValue.isStale v = false ∧
    ∀ t', t < t' → t' ≤ range.finish → written? history m t' = none

/-- The samples of a series in a range that do not end it, in order of time. -/
def LiveWindow (history : List (Ingestion α)) (m : Metric) (range : TimeRange)
    (samples : List (Sample α)) : Prop :=
  InOrder samples ∧ ∀ s : Sample α, s ∈ samples ↔
    range.contains s.timestamp = true ∧ written? history m s.timestamp = some s.value ∧
      s.isStale = false

omit [SampleValue α] in
theorem InOrder.eq_of_mem_iff {l l' : List (Sample α)} (h : InOrder l) (h' : InOrder l')
    (hmem : ∀ s, s ∈ l ↔ s ∈ l') : l = l' := by
  have hnodup {l : List (Sample α)} (h : InOrder l) : l.Nodup :=
    h.imp fun {a b} hab heq => by
      rw [heq] at hab
      exact Int.lt_irrefl _ hab
  have hperm : l.Perm l' := (List.perm_ext_iff_of_nodup (hnodup h) (hnodup h')).2 hmem
  refine hperm.eq_of_pairwise (fun a b _ _ hab hba => ?_) h h'
  omega

theorem LiveWindow.unique {history : List (Ingestion α)} {m : Metric} {range : TimeRange}
    {samples samples' : List (Sample α)} (h : LiveWindow history m range samples)
    (h' : LiveWindow history m range samples') : samples = samples' := by
  apply h.1.eq_of_mem_iff h'.1
  intro s
  rw [h.2, h'.2]

omit [SampleValue α] in
theorem InOrder.getLast?_eq_some_iff {l : List (Sample α)} (h : InOrder l) {s : Sample α} :
    l.getLast? = some s ↔ s ∈ l ∧ ∀ s' ∈ l, s'.timestamp ≤ s.timestamp := by
  induction l using List.reverseRecOn with
  | nil => simp
  | append_singleton l last ih =>
    have hbefore : ∀ s' ∈ l, s'.timestamp < last.timestamp := by
      intro s' hs'
      exact (List.pairwise_append.1 h).2.2 s' hs' last (.head _)
    rw [List.getLast?_concat, Option.some.injEq]
    constructor
    · rintro rfl
      refine ⟨List.mem_append_right _ (.head _), fun s' hs' => ?_⟩
      rcases List.mem_append.1 hs' with hs' | hs'
      · have := hbefore s' hs'
        omega
      · obtain rfl := List.mem_singleton.1 hs'
        exact Int.le_refl _
    · rintro ⟨hs, hall⟩
      have hlast := hall last (List.mem_append_right _ (.head _))
      rcases List.mem_append.1 hs with hs | hs
      · have := hbefore s hs
        omega
      · exact (List.mem_singleton.1 hs).symm

namespace Store

omit [SampleValue α] in
theorem mem_samplesIn_iff {stored : SortedMap Int α} {range : TimeRange} {s : Sample α} :
    s ∈ samplesIn stored range ↔
      range.contains s.timestamp = true ∧ stored.get? s.timestamp = some s.value := by
  unfold samplesIn
  rw [List.mem_filterMap, SortedMap.get?_eq_some_iff]
  constructor
  · rintro ⟨⟨t, v⟩, he, hs⟩
    change (if range.contains t = true then some ⟨t, v⟩ else none) = some s at hs
    by_cases ht : range.contains t = true
    · rw [if_pos ht, Option.some.injEq] at hs
      subst hs
      exact ⟨ht, he⟩
    · rw [if_neg ht] at hs
      cases hs
  · rintro ⟨ht, hv⟩
    refine ⟨(s.timestamp, s.value), hv, ?_⟩
    change (if range.contains s.timestamp = true then some s else none) = some s
    rw [if_pos ht]

/-- The latest value of a series is that of the last sample in the range, unless it ends the
series. -/
theorem latestIn_eq_some_iff {stored : SortedMap Int α} {range : TimeRange} {v : α} :
    latestIn stored range = some v ↔
      ∃ t, range.contains t = true ∧ stored.get? t = some v ∧ SampleValue.isStale v = false ∧
        ∀ t', t < t' → t' ≤ range.finish → stored.get? t' = none := by
  have horder := inOrder_samplesIn stored range
  unfold latestIn
  rw [Option.bind_eq_some_iff]
  constructor
  · rintro ⟨s, hlast, hcurrent⟩
    obtain ⟨hs, hall⟩ := horder.getLast?_eq_some_iff.1 hlast
    obtain ⟨hin, hget⟩ := mem_samplesIn_iff.1 hs
    unfold Sample.current? at hcurrent
    split at hcurrent
    · cases hcurrent
    · next hlive =>
      cases hcurrent
      refine ⟨s.timestamp, hin, hget, by simpa [Sample.isStale] using hlive, ?_⟩
      intro t' hlt hle
      cases hlater : stored.get? t' with
      | none => rfl
      | some v' =>
        -- a later sample in the range would be the last one
        have hin' : range.contains t' = true := by
          simp only [TimeRange.contains, Bool.and_eq_true, decide_eq_true_eq] at hin ⊢
          omega
        have hmem : (⟨t', v'⟩ : Sample α) ∈ samplesIn stored range :=
          mem_samplesIn_iff.2 ⟨hin', hlater⟩
        have hle' : t' ≤ s.timestamp := hall _ hmem
        omega
  · rintro ⟨t, hin, hget, hlive, hnone⟩
    have hmem : (⟨t, v⟩ : Sample α) ∈ samplesIn stored range := mem_samplesIn_iff.2 ⟨hin, hget⟩
    have hall : ∀ s' ∈ samplesIn stored range, s'.timestamp ≤ t := by
      intro s' hs'
      obtain ⟨hin', hget'⟩ := mem_samplesIn_iff.1 hs'
      by_contra hlt
      have hle : s'.timestamp ≤ range.finish := by
        simp only [TimeRange.contains, Bool.and_eq_true, decide_eq_true_eq] at hin'
        omega
      rw [hnone s'.timestamp (by omega) hle] at hget'
      cases hget'
    refine ⟨⟨t, v⟩, horder.getLast?_eq_some_iff.2 ⟨hmem, hall⟩, ?_⟩
    unfold Sample.current? Sample.isStale
    simp [hlive]

end Store

def Metric.requestsHere : Metric := .ofPairs [(metricName, "requests"), ("host", "a")]

def Metric.requestsThere : Metric := .ofPairs [(metricName, "requests"), ("host", "b")]

/-- Requests of two hosts, which end at the first while they could still be seen. -/
def endingRequests : List (Ingestion Binary64) :=
  [{ timestamp := 0, samples := [(.requestsHere, Numeric.zero)] },
    { timestamp := 60000,
      samples := [(.requestsHere, Numeric.one), (.requestsThere, Numeric.one)] },
    { timestamp := 90000, samples := [(.requestsHere, Numeric.zero)], stale := true }]

def Context.endingRequests : Context Binary64 where
  gateway := (Store.replay SeriesQuery.endingRequests).gateway
  frames := ⟨30000, 30000, 3, by decide, by decide⟩
  lookback := 300000
  hash := Fingerprint.fnv

end SeriesQuery
