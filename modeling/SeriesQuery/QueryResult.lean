import SeriesQuery.Time.Frames
import SeriesQuery.Value

/-!
# Results of queries

A result has one value per frame. It can be regrouped by series and laid out as a document.
-/

namespace SeriesQuery

structure QueryResult (α : Type) where
  frames : TimeFrames
  steps : Vector (Value α) frames.len

/-- Nested data made of numbers, texts, lists and records. -/
inductive Document (α : Type)
  | number (v : α)
  | text (s : String)
  | list (items : List (Document α))
  | record (fields : List (String × Document α))

namespace QueryResult

variable {α : Type}

def toList (r : QueryResult α) : List (Int × Value α) := r.frames.toList.zip r.steps.toList

def at? (r : QueryResult α) (t : Int) : Option (Value α) :=
  (r.frames.indexOf? t).bind (r.steps.toArray[·]?)

def instant? (r : QueryResult α) : Option (Value α) :=
  if r.frames.isInstant then r.steps.toArray[0]? else none

def approxEq [Numeric α] (epsilon : α) (a b : QueryResult α) : Bool :=
  decide (a.frames = b.frames) &&
    (a.steps.toList.zip b.steps.toList).all fun (x, y) => x.approxEq epsilon y

def addSample (t : Int) (series : SeriesMap (List (Sample α))) (e : Metric × α) :
    SeriesMap (List (Sample α)) :=
  series.alter e.1 fun samples => some (samples.getD [] ++ [⟨t, e.2⟩])

def addStep (series : SeriesMap (List (Sample α))) (step : Int × Value α) :
    SeriesMap (List (Sample α)) :=
  match step.2 with
  | .scalar v => addSample step.1 series (Metric.empty, v)
  | .vector vs => vs.toList.foldl (addSample step.1) series
  | _ => series

/-- The samples of each metric over all frames. Numbers form a series without labels; texts and
windows are left out. -/
def toSeries (r : QueryResult α) : SeriesMap (List (Sample α)) := r.toList.foldl addStep .empty

section Layout

variable [SampleValue α]

def point (t : Int) (v : α) : Document α :=
  .list [.number (Numeric.ofMillis t), .text (SampleValue.text v)]

def metricDocument (m : Metric) : Document α :=
  .record (m.labels.toList.map fun (name, value) => (name, .text value))

def withType (name : String) (result : Document α) : Document α :=
  .record [("resultType", .text name), ("result", result)]

def matrixDocument (series : SeriesMap (List (Sample α))) : Document α :=
  withType "matrix" <| .list <| series.toList.map fun (m, samples) =>
    .record [("metric", metricDocument m),
      ("values", .list (samples.map fun s => point s.timestamp s.value))]

/-- The result as a document: of its own type for a single timestamp, otherwise a matrix. -/
def toDocument (r : QueryResult α) : Document α :=
  match r.instant? with
  | some (.scalar v) => withType "scalar" (point r.frames.first v)
  | some (.string s) =>
    withType "string" (.list [.number (Numeric.ofMillis r.frames.first), .text s])
  | some (.vector vs) =>
    withType "vector" <| .list <| vs.toList.map fun (m, v) =>
      .record [("metric", metricDocument m), ("value", point r.frames.first v)]
  | some (.matrix series) => matrixDocument series
  | none => matrixDocument r.toSeries

end Layout

end QueryResult

end SeriesQuery
