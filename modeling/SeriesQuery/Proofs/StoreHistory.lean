import Mathlib.Data.List.Dedup
import SeriesQuery.Proofs.Samples.History
import SeriesQuery.Proofs.Samples.Selection
import SeriesQuery.Proofs.Series.Entries

/-!
# Stores and their histories

A store is told by the series it has seen and by the values they have. From these the number of
series and the answer to every query can be read off the history of ingestions. Ingestions that
write in different places may change places, and queries leave the store as it is.
-/

namespace SeriesQuery

variable {α : Type}

namespace Store

/-- Stores are told apart by the series they have seen and by the values of these. -/
theorem ext_value? {s s' : Store α}
    (hseries : ∀ m, (s.series.get? m).isSome = (s'.series.get? m).isSome)
    (hvalue : ∀ m t, s.value? m t = s'.value? m t) : s = s' := by
  have hget : s.series = s'.series := by
    apply SortedMap.ext_get?
    intro m
    have hsome := hseries m
    have hat := hvalue m
    unfold value? at hat
    cases hstored : s.series.get? m with
    | none =>
      rw [hstored] at hsome
      exact (Option.isSome_eq_false_iff.1 hsome.symm |> Option.isNone_iff_eq_none.1).symm
    | some stored =>
      rw [hstored] at hsome hat
      obtain ⟨stored', hstored'⟩ := Option.isSome_iff_exists.1 hsome.symm
      rw [hstored'] at hat
      rw [hstored', SortedMap.ext_get? hat]
  cases s
  cases s'
  exact congrArg Store.mk hget

theorem isSome_get?_write (s : Store α) (t : Int) (m m' : Metric) (v : α) :
    ((s.write t m v).series.get? m').isSome = (decide (m' = m) || (s.series.get? m').isSome) := by
  unfold write
  rw [SortedMap.get?_alter]
  by_cases hm : m' = m
  · simp [hm]
  · simp [hm]

theorem isSome_get?_foldl_write (s : Store α) (t : Int) (samples : List (Metric × α))
    (m : Metric) :
    ((samples.foldl (fun s e => s.write t e.1 e.2) s).series.get? m).isSome =
      (decide (m ∈ samples.map Prod.fst) || (s.series.get? m).isSome) := by
  induction samples generalizing s with
  | nil => simp
  | cons e rest ih =>
    rw [List.foldl_cons, ih, isSome_get?_write, List.map_cons]
    by_cases hm : m = e.1
    · simp [hm]
    · simp only [hm, decide_false, Bool.false_or, List.mem_cons, false_or]

end Store

namespace Ingestion

def metrics (g : Ingestion α) : List Metric := g.samples.map Prod.fst

def places (g : Ingestion α) : List (Metric × Int) := g.metrics.map (·, g.timestamp)

theorem mem_places_iff {g : Ingestion α} {m : Metric} {t : Int} :
    (m, t) ∈ g.places ↔ m ∈ g.metrics ∧ t = g.timestamp := by
  unfold places
  rw [List.mem_map]
  constructor
  · rintro ⟨m', hm', heq⟩
    obtain ⟨rfl, rfl⟩ := Prod.mk.inj heq
    exact ⟨hm', rfl⟩
  · rintro ⟨hm, rfl⟩
    exact ⟨m, hm, rfl⟩

variable [SampleValue α]

theorem map_fst_marked (g : Ingestion α) : g.marked.map Prod.fst = g.metrics := by
  unfold marked metrics
  rw [List.map_map]
  rfl

theorem writesAt_eq_nil_iff {g : Ingestion α} {m : Metric} {t : Int} :
    g.writesAt m t = [] ↔ (m, t) ∉ g.places := by
  unfold writesAt
  rw [mem_places_iff, ← map_fst_marked]
  by_cases ht : t = g.timestamp
  · rw [if_pos ht, List.map_eq_nil_iff, List.filter_eq_nil_iff]
    constructor
    · rintro hnone ⟨hm, -⟩
      obtain ⟨e, he, rfl⟩ := List.mem_map.1 hm
      exact hnone e he (decide_eq_true rfl)
    · intro hplace e he heq
      have hm : m ∈ g.marked.map Prod.fst := List.mem_map.2 ⟨e, he, of_decide_eq_true heq⟩
      exact hplace ⟨hm, ht⟩
  · rw [if_neg ht]
    exact iff_of_true rfl fun hplace => ht hplace.2

end Ingestion

variable [SampleValue α]

namespace Store

theorem isSome_get?_after (s : Store α) (g : Ingestion α) (m : Metric) :
    ((s.after g).series.get? m).isSome =
      (decide (m ∈ g.metrics) || (s.series.get? m).isSome) := by
  rw [after_eq_foldl, isSome_get?_foldl_write, g.map_fst_marked]

/-- Ingestions that write in different places may change places. -/
theorem after_comm (s : Store α) {g g' : Ingestion α} (h : g.places.Disjoint g'.places) :
    (s.after g).after g' = (s.after g').after g := by
  apply ext_value?
  · intro m
    rw [isSome_get?_after, isSome_get?_after, isSome_get?_after, isSome_get?_after,
      Bool.or_left_comm]
  · intro m t
    rw [value?_after, value?_after, value?_after, value?_after]
    by_cases hplace : (m, t) ∈ g.places
    · have hother : g'.writesAt m t = [] := Ingestion.writesAt_eq_nil_iff.2 (h hplace)
      rw [hother, List.getLast?_nil, Option.none_or, Option.none_or]
    · have hother : g.writesAt m t = [] := Ingestion.writesAt_eq_nil_iff.2 hplace
      rw [hother, List.getLast?_nil, Option.none_or, Option.none_or]

theorem replay_append (history later : List (Ingestion α)) :
    replay (history ++ later) = later.foldl after (replay history) := List.foldl_append

theorem replay_comm (history later : List (Ingestion α)) {g g' : Ingestion α}
    (h : g.places.Disjoint g'.places) :
    replay (history ++ g :: g' :: later) = replay (history ++ g' :: g :: later) := by
  rw [replay_append, replay_append, List.foldl_cons, List.foldl_cons, List.foldl_cons,
    List.foldl_cons, after_comm _ h]

end Store

omit [SampleValue α] in
def ingestedLabels (history : List (Ingestion α)) : List Labels :=
  (history.flatMap fun g => g.metrics.map Metric.labels).dedup

omit [SampleValue α] in
theorem mem_ingestedLabels_iff {history : List (Ingestion α)} {m : Metric} :
    m.labels ∈ ingestedLabels history ↔ ∃ g ∈ history, m ∈ g.metrics := by
  unfold ingestedLabels
  rw [List.mem_dedup, List.mem_flatMap]
  constructor
  · rintro ⟨g, hg, hlabels⟩
    obtain ⟨m', hm', heq⟩ := List.mem_map.1 hlabels
    exact ⟨g, hg, Metric.ext_labels heq ▸ hm'⟩
  · rintro ⟨g, hg, hm⟩
    exact ⟨g, hg, List.mem_map.2 ⟨m, hm, rfl⟩⟩

namespace Store

theorem isSome_get?_replay (history : List (Ingestion α)) (m : Metric) :
    ((replay history).series.get? m).isSome = true ↔ ∃ g ∈ history, m ∈ g.metrics := by
  induction history using List.reverseRecOn with
  | nil => simp [replay, Store.empty]
  | append_singleton history g ih =>
    rw [replay_append, List.foldl_cons, List.foldl_nil, isSome_get?_after, Bool.or_eq_true, ih,
      decide_eq_true_eq]
    constructor
    · rintro (hm | ⟨g', hg', hm⟩)
      · exact ⟨g, by simp, hm⟩
      · exact ⟨g', by simp [hg'], hm⟩
    · rintro ⟨g', hg', hm⟩
      rcases List.mem_append.1 hg' with hg' | hg'
      · exact .inr ⟨g', hg', hm⟩
      · obtain rfl := List.mem_singleton.1 hg'
        exact .inl hm

theorem seriesCount_replay (history : List (Ingestion α)) :
    (replay history).seriesCount = (ingestedLabels history).length := by
  have hinjective : Function.Injective Metric.labels := fun _ _ => Metric.ext_labels
  have hnodup : ((replay history).series.keys.map Metric.labels).Nodup :=
    ((replay history).series.nodup_keys).map hinjective
  have hperm : ((replay history).series.keys.map Metric.labels).Perm (ingestedLabels history) := by
    refine (List.perm_ext_iff_of_nodup hnodup (List.nodup_dedup _)).2 fun labels => ?_
    have hmem : Metric.ofLabels labels ∈ (replay history).series.keys ↔
        (Metric.ofLabels labels).labels ∈ ingestedLabels history := by
      rw [mem_ingestedLabels_iff, ← isSome_get?_replay]
      exact SortedMap.mem_keys_iff
    rw [← List.mem_map_of_injective hinjective] at hmem
    exact hmem
  calc (replay history).seriesCount
    _ = ((replay history).series.keys.map Metric.labels).length := by
      rw [List.length_map]
      exact (List.length_map _).symm
    _ = (ingestedLabels history).length := hperm.length_eq

end Store

/-- What a query returns after a history: in order, the series that satisfy the matchers and were
written to in the range, each with the samples that were written there last. -/
structure AnswersAfter (history : List (Ingestion α)) (matchers : List LabelMatcher)
    (range : TimeRange) (answer : List (SeriesSamples α)) : Prop where
  ascending : answer.Pairwise fun a b => compare a.metric b.metric = .lt
  series : ∀ m, m ∈ answer.map (·.metric) ↔ LabelMatcher.allAdmit matchers m.labels = true ∧
    ∃ t, range.contains t = true ∧ (written? history m t).isSome = true
  inOrder : ∀ a ∈ answer, InOrder a.samples.toList
  samples : ∀ a ∈ answer, ∀ s : Sample α, s ∈ a.samples.toList ↔
    range.contains s.timestamp = true ∧ written? history a.metric s.timestamp = some s.value

namespace Store

omit [SampleValue α] in
theorem ascending_matching (s : Store α) (matchers : List LabelMatcher) (range : TimeRange) :
    (s.matching matchers range).Pairwise fun a b => compare a.metric b.metric = .lt := by
  refine s.series.ascending.filterMap _ fun e e' hlt a ha a' ha' => ?_
  dsimp only at ha ha'
  split at ha
  · split at ha'
    · cases ha
      cases ha'
      exact hlt
    · cases ha'
  · cases ha

omit [SampleValue α] in
theorem mem_matching_iff {s : Store α} {matchers : List LabelMatcher} {range : TimeRange}
    {a : SeriesSamples α} :
    a ∈ s.matching matchers range ↔ ∃ stored, s.series.get? a.metric = some stored ∧
      LabelMatcher.allAdmit matchers a.metric.labels = true ∧ samplesIn stored range ≠ [] ∧
      a.samples = (samplesIn stored range).toArray := by
  unfold matching
  rw [List.mem_filterMap]
  constructor
  · rintro ⟨⟨m, stored⟩, he, ha⟩
    dsimp only at ha
    split at ha
    · next hseen =>
      rw [Bool.and_eq_true, Bool.not_eq_true', List.isEmpty_eq_false_iff] at hseen
      cases ha
      exact ⟨stored, SortedMap.get?_eq_some_iff.2 he, hseen.1, hseen.2, rfl⟩
    · cases ha
  · rintro ⟨stored, hget, hadmitted, hsome, hsamples⟩
    refine ⟨(a.metric, stored), SortedMap.get?_eq_some_iff.1 hget, ?_⟩
    dsimp only
    rw [if_pos (by rw [hadmitted, Bool.true_and, Bool.not_eq_true', List.isEmpty_eq_false_iff]
                   exact hsome), ← hsamples]

theorem answersAfter_matching (history : List (Ingestion α)) (matchers : List LabelMatcher)
    (range : TimeRange) :
    AnswersAfter history matchers range ((replay history).matching matchers range) := by
  have hwritten {m : Metric} {stored : SortedMap Int α}
      (hget : (replay history).series.get? m = some stored) (t : Int) :
      stored.get? t = written? history m t := by
    rw [← bind_get?_replay, hget, Option.bind_some]
  refine ⟨ascending_matching _ _ _, fun m => ?_, fun _ => inOrder_of_mem_matching,
    fun a ha s => ?_⟩
  · rw [List.mem_map]
    constructor
    · rintro ⟨a, ha, rfl⟩
      obtain ⟨stored, hget, hadmitted, hsome, -⟩ := mem_matching_iff.1 ha
      obtain ⟨s, hs⟩ := List.exists_mem_of_ne_nil _ hsome
      obtain ⟨hin, hvalue⟩ := mem_samplesIn_iff.1 hs
      rw [hwritten hget] at hvalue
      exact ⟨hadmitted, s.timestamp, hin, by rw [hvalue, Option.isSome_some]⟩
    · rintro ⟨hadmitted, t, hin, hsome⟩
      obtain ⟨v, hv⟩ := Option.isSome_iff_exists.1 hsome
      rw [← bind_get?_replay, Option.bind_eq_some_iff] at hv
      obtain ⟨stored, hget, hvalue⟩ := hv
      have hmem : (⟨t, v⟩ : Sample α) ∈ samplesIn stored range := mem_samplesIn_iff.2 ⟨hin, hvalue⟩
      refine ⟨⟨m, (samplesIn stored range).toArray⟩, mem_matching_iff.2 ?_, rfl⟩
      exact ⟨stored, hget, hadmitted, List.ne_nil_of_mem hmem, rfl⟩
  · obtain ⟨stored, hget, -, -, hsamples⟩ := mem_matching_iff.1 ha
    rw [hsamples, ← hwritten hget]
    exact mem_samplesIn_iff

omit [SampleValue α] in
/-- A query without a matcher or for an empty range is turned down, and no other is. -/
theorem query_error_iff {s : Store α} {matchers : List LabelMatcher} {range : TimeRange} :
    (∃ fault, s.query matchers range = .error (.invalidQuery fault)) ↔
      matchers = [] ∨ range.finish < range.start := by
  constructor
  · rintro ⟨fault, herror⟩
    by_contra hvalid
    rw [not_or] at hvalid
    rw [s.query_eq_matching hvalid.1 (by omega)] at herror
    cases herror
  · rintro (hnone | hempty)
    · refine ⟨.noMatcher, ?_⟩
      unfold query
      rw [hnone]
      rfl
    · unfold query
      split
      · exact ⟨.noMatcher, rfl⟩
      · refine ⟨.emptyRange range, ?_⟩
        rw [if_pos]
        unfold TimeRange.isEmpty
        rw [decide_eq_true_eq]
        exact hempty

end Store

inductive Request (α : Type)
  | ingest (g : Ingestion α)
  | query (matchers : List LabelMatcher) (range : TimeRange)

omit [SampleValue α] in
def Request.ingestion? : Request α → Option (Ingestion α)
  | ingest g => some g
  | query _ _ => none

omit [SampleValue α] in
def ingestions (requests : List (Request α)) : List (Ingestion α) :=
  requests.filterMap Request.ingestion?

namespace Store

/-- The answers to the queries of a session, first to last, and the store after it. -/
def session (s : Store α) : List (Request α) →
    List (Except GatewayError (List (SeriesSamples α))) × Store α
  | [] => ([], s)
  | .ingest g :: rest => (s.after g).session rest
  | .query matchers range :: rest =>
    (s.query matchers range :: (s.session rest).1, (s.session rest).2)

theorem session_append (s : Store α) (before later : List (Request α)) :
    s.session (before ++ later) =
      ((s.session before).1 ++ ((s.session before).2.session later).1,
        ((s.session before).2.session later).2) := by
  induction before generalizing s with
  | nil => rfl
  | cons request rest ih =>
    cases request with
    | ingest g => exact ih (s.after g)
    | query matchers range =>
      change (s.query matchers range :: (s.session (rest ++ later)).1,
        (s.session (rest ++ later)).2) = _
      rw [ih]
      rfl

/-- A session leaves behind what its ingestions alone do. -/
theorem session_snd (s : Store α) (requests : List (Request α)) :
    (s.session requests).2 = (ingestions requests).foldl after s := by
  induction requests generalizing s with
  | nil => rfl
  | cons request rest ih =>
    cases request with
    | ingest g => exact ih (s.after g)
    | query matchers range => exact ih s

theorem session_query (s : Store α) (before later : List (Request α))
    (matchers : List LabelMatcher) (range : TimeRange) :
    s.session (before ++ .query matchers range :: later) =
      ((s.session before).1 ++ (s.session before).2.query matchers range ::
          ((s.session before).2.session later).1,
        (s.session (before ++ later)).2) := by
  rw [session_append, session_append]
  rfl

/-- The number of series, the answer to every query and what changes neither are told by the
history of a store. -/
theorem history_semantics (history : List (Ingestion α)) :
    (replay history).seriesCount = (ingestedLabels history).length ∧
      (∀ matchers range, (∃ fault, (replay history).query matchers range =
          .error (.invalidQuery fault)) ↔ matchers = [] ∨ range.finish < range.start) ∧
      (∀ matchers range, matchers ≠ [] → range.start ≤ range.finish → ∃ answer,
        (replay history).query matchers range = .ok answer ∧
          AnswersAfter history matchers range answer) ∧
      (∀ g g' : Ingestion α, g.places.Disjoint g'.places → ∀ later,
        replay (history ++ g :: g' :: later) = replay (history ++ g' :: g :: later)) ∧
      ∀ before, ingestions before = history → (empty.session before).2 = replay history ∧
        ∀ matchers range later, empty.session (before ++ .query matchers range :: later) =
          ((empty.session before).1 ++ (replay history).query matchers range ::
              ((replay history).session later).1,
            (empty.session (before ++ later)).2) ∧
          empty.session (before ++ later) =
            ((empty.session before).1 ++ ((replay history).session later).1,
              ((replay history).session later).2) := by
  refine ⟨seriesCount_replay history, fun _ _ => query_error_iff, ?_, ?_, ?_⟩
  · intro matchers range hmatchers hrange
    refine ⟨(replay history).matching matchers range, ?_, ?_⟩
    · exact (replay history).query_eq_matching hmatchers hrange
    · exact answersAfter_matching history matchers range
  · intro g g' hdisjoint later
    exact replay_comm history later hdisjoint
  · intro before hbefore
    have hlast : (empty.session before).2 = replay history := by
      rw [session_snd, hbefore]
      rfl
    refine ⟨hlast, fun matchers range later => ⟨?_, ?_⟩⟩
    · rw [session_query, hlast]
    · rw [session_append, hlast]

/-- Two series have been seen, both can be queried, and later values at one time may be written in
either order. -/
theorem history_of_ending_requests :
    (replay endingRequests).seriesCount = 2 ∧
      (∃ answer, (replay endingRequests).query [.metricNamed "requests"] ⟨60000, 90000⟩ =
          .ok answer ∧
        AnswersAfter endingRequests [.metricNamed "requests"] ⟨60000, 90000⟩ answer) ∧
      replay (endingRequests ++ [{ timestamp := 0, samples := [(.requestsThere, Numeric.one)] },
          { timestamp := 0, samples := [(.requestsHere, Numeric.one)] }]) =
        replay (endingRequests ++ [{ timestamp := 0, samples := [(.requestsHere, Numeric.one)] },
          { timestamp := 0, samples := [(.requestsThere, Numeric.one)] }]) ∧
      (empty.session (.query [] ⟨0, 0⟩ :: endingRequests.map .ingest)).2 =
        replay endingRequests := by
  obtain ⟨hcount, -, hanswer, hcomm, hsession⟩ := history_semantics endingRequests
  refine ⟨hcount.trans (by decide), hanswer _ _ (by decide) (by decide), hcomm _ _ ?_ [], ?_⟩
  · refine List.disjoint_left.2 ?_
    decide
  · exact (hsession (.query [] ⟨0, 0⟩ :: endingRequests.map .ingest) rfl).1

end Store

end SeriesQuery
