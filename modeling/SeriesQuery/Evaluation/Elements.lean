import SeriesQuery.Expr
import SeriesQuery.Matching
import SeriesQuery.Relabel

/-!
# Elements of vectors

An operator or function makes a list of elements, in which no metric may occur twice. Elements are
grouped by the labels that a grouping keeps.
-/

namespace SeriesQuery

variable {α : Type}

/-- The vector with the given elements, unless two of them have the same metric. -/
def collect (duplicate : Metric → QueryError) (elements : List (Metric × α)) :
    Except QueryError (SeriesMap α) :=
  elements.foldlM (fun out (m, v) =>
    if out.contains m then .error (duplicate m) else .ok (out.insert m v)) .empty

/-- The vector with the elements whose values are computed one after the other. A metric without a
value is left out. -/
def collectComputed (duplicate : Metric → QueryError)
    (elements : List (Metric × Except QueryError (Option α))) : Except QueryError (SeriesMap α) :=
  elements.foldlM (fun out (m, value) => do
    match ← value with
    | some v => if out.contains m then .error (duplicate m) else .ok (out.insert m v)
    | none => .ok out) .empty

def QueryError.notUnique (m : Metric) : QueryError := .multipleMatch (.resultNotUnique m)

def Function.outputMetric (f : Function) (m : Metric) : Metric :=
  if f.dropsMetricName then m.withoutName else m

def BinaryOp.outputMetric (op : BinaryOp) (toBool : Bool) (m : Metric) : Metric :=
  if op.dropsMetricName toBool then m.withoutName else m

def keyed {β : Type} (hash : LabelHash) (filter : LabelFilter) (elements : List (Metric × β)) :
    List (Keyed Metric β) :=
  elements.map fun (m, v) => ⟨m, .of hash filter m, v⟩

def combineVectors [SampleValue α] (op : BinaryOp) (matching : VectorMatching) (toBool : Bool)
    (left right : List (Keyed Metric α)) : Except QueryError (SeriesMap α) :=
  if op.isSet then
    collect .duplicateSeries ((setStep op left right).map fun e => (e.item, e.value))
  else do
    let joined ← (joinStep op matching toBool left right).mapError .multipleMatch
    collect .notUnique <| joined.map fun j =>
      let metric :=
        if matching.cardinality.keepsRight then resultMetric op matching toBool j.right j.left
        else resultMetric op matching toBool j.left j.right
      (metric, j.value)

/-- The elements by the labels that a filter admits, each group in the order of its elements. -/
def groupElements {β : Type} (hash : LabelHash) (filter : LabelFilter)
    (elements : List (Metric × β)) : FingerprintMap Labels (List (Metric × β)) :=
  elements.foldl (fun groups e =>
    groups.upsert (hash (e.1.labels.admitted filter)) (e.1.labels.agreeOn · filter)
      (e.1.labels.restrict filter) [e] (· ++ [e])) .empty

def AggregateOp.elements [SampleValue α] (op : AggregateOp) (param : AggregateParam α)
    (labels : Labels) (members : List (Metric × α)) : List (Metric × α) :=
  match op.reduce (members.map Prod.snd) param with
  | .value v => [(Metric.ofLabels labels, v)]
  | .selected positions => positions.filterMap (members[·]?)
  | .counts counts =>
    match param with
    | .label name => counts.map fun (text, n) => ((Metric.ofLabels labels).setLabel name text, n)
    | _ => []

namespace Expr

def text? : Expr α → Except QueryError String
  | string text => .ok text
  | e => .error (.typeMismatch (.literalExpected e.valueType))

def relabelTexts (f : Function) (args : List (Expr α)) : Except QueryError (List String) :=
  if args.length < f.signature.required then .error (.typeMismatch .missingArgument)
  else (args.drop 1).mapM text?

def relabeling (f : Function) (args : List (Expr α)) : Except QueryError (Metric → Metric) := do
  (f.relabeling (← relabelTexts f args)).mapError .invalidArgument

def absentArgument : List (Expr α) → Except QueryError Metric
  | [] => .error (.typeMismatch .missingArgument)
  | e :: _ => .ok e.absentMetric

end Expr

end SeriesQuery
