import SeriesQuery.Gateway

/-!
# A store in memory

The store keeps, for every series ever written to, one value per timestamp. Writing again at a
timestamp replaces the value.
-/

namespace SeriesQuery

structure Store (α : Type) where
  series : SeriesMap (SortedMap Int α)

namespace Store

variable {α : Type}

def empty : Store α := ⟨.empty⟩

def seriesCount (s : Store α) : Nat := s.series.size

def write (s : Store α) (t : Int) (m : Metric) (v : α) : Store α :=
  ⟨s.series.alter m fun samples => some ((samples.getD .empty).insert t v)⟩

/-- Writes one value for each of several series, or the staleness marker instead of the values. -/
def ingest [SampleValue α] (s : Store α) (t : Int) (samples : List (Metric × α))
    (stale : Bool := false) : Store α :=
  samples.foldl
    (fun s (m, v) => s.write t m (if stale then SampleValue.staleMarker else v)) s

def samplesIn (samples : SortedMap Int α) (range : TimeRange) : List (Sample α) :=
  samples.toList.filterMap fun (t, v) => if range.contains t then some ⟨t, v⟩ else none

/-- The series that satisfy all matchers and have samples in the range, in order of metrics. -/
def query (s : Store α) (matchers : List LabelMatcher) (range : TimeRange) :
    Except GatewayError (List (SeriesSamples α)) :=
  if matchers.isEmpty then .error (.invalidQuery .noMatcher)
  else if range.isEmpty then .error (.invalidQuery (.emptyRange range))
  else .ok <| s.series.toList.filterMap fun (m, stored) =>
    let samples := samplesIn stored range
    if LabelMatcher.allAdmit matchers m.labels && !samples.isEmpty then
      some ⟨m, samples.toArray⟩
    else none

def gateway (s : Store α) : Gateway α := ⟨s.query⟩

end Store

end SeriesQuery
