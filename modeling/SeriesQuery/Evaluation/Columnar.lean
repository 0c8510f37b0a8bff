import SeriesQuery.Evaluation.Column
import SeriesQuery.Evaluation.Context
import SeriesQuery.Function.Elementwise
import SeriesQuery.Function.Window
import SeriesQuery.Histogram

/-!
# Evaluation column by column

Every expression is evaluated once for all frames. A selector queries the gateway once, and match
keys and groups are found once for each series.
-/

namespace SeriesQuery.Columnar

variable {α : Type} {n : Nat}

/-- A place in the samples of a series: the last sample passed and those still ahead. -/
structure Cursor (α : Type) where
  passed : Option (Sample α)
  ahead : List (Sample α)

namespace Cursor

def advanceThrough (finish : Int) (passed : Option (Sample α)) : List (Sample α) → Cursor α
  | [] => ⟨passed, []⟩
  | s :: rest =>
    if s.timestamp ≤ finish then advanceThrough finish (some s) rest else ⟨passed, s :: rest⟩

def advance (c : Cursor α) (finish : Int) : Cursor α := advanceThrough finish c.passed c.ahead

def sweep (c : Cursor α) : List Int → List (Option (Sample α))
  | [] => []
  | t :: rest =>
    let c := c.advance t
    c.passed :: sweep c rest

theorem length_sweep (c : Cursor α) (ts : List Int) : (c.sweep ts).length = ts.length := by
  induction ts generalizing c with
  | nil => rfl
  | cons t rest ih => simp [sweep, ih]

end Cursor

section Selectors

variable [SampleValue α]

/-- The value of the last sample passed at some time, if it is recent and not the end of its
series. -/
def recent (lookback finish : Int) : Option (Sample α) → Except QueryError (Option α)
  | none => .ok none
  | some s => do
    let start ← Millis.earlier finish lookback
    return if start ≤ s.timestamp && !s.isStale then some s.value else none

/-- The latest values of a series at the frames moved back by an offset. -/
def latestRow (frames : TimeFrames) (offset lookback : Int) (samples : Array (Sample α)) :
    Except QueryError (Row α frames.len) := do
  let ends ← Vector.ofFnM fun i : Fin frames.len => Millis.earlier (frames.atIndex i) offset
  let passed : Vector (Option (Sample α)) frames.len :=
    ⟨((⟨none, samples.toList⟩ : Cursor α).sweep ends.toList).toArray, by
      simp [Cursor.length_sweep]⟩
  Vector.ofFnM fun i => recent lookback (ends.get i) (passed.get i)

def windowRow (frames : TimeFrames) (offset duration : Int) (samples : Array (Sample α)) :
    Except QueryError (WindowRow α frames.len) := do
  let samples := samples.filter (!·.isStale)
  let bounds ← Vector.ofFnM fun i : Fin frames.len => do
    let finish ← Millis.earlier (frames.atIndex i) offset
    let start ← Millis.earlier finish duration
    let lower := partitionPoint (fun s => s.timestamp < start) samples
    let upper := partitionPoint (fun s => s.timestamp ≤ finish) samples
    return (lower, max upper lower)
  return { samples, bounds }

def fetch (c : Context α) (s : Selector) (window : Int) :
    Except QueryError (List (SeriesSamples α)) := do
  let first ← Millis.earlier c.frames.first s.offset
  let last ← Millis.earlier c.frames.last s.offset
  c.fetch s window first last

def selectLatest (c : Context α) (s : Selector) : Except QueryError (Column α c.frames.len) := do
  let series ← fetch c s c.lookback
  let rows ← series.mapM fun x => do
    return (x.metric, ← latestRow c.frames s.offset c.lookback x.samples)
  return .vector (.ofList (rows.filter fun (_, row) => row.any Option.isSome))

def selectWindow (c : Context α) (s : Selector) (duration : Int) :
    Except QueryError (Column α c.frames.len) := do
  let series ← fetch c s duration
  let rows ← series.mapM fun x => do
    return (x.metric, ← windowRow c.frames s.offset duration x.samples)
  let rows := rows.filter fun (_, row) => row.bounds.any fun b => b.1 < b.2
  return .matrix (.ofList rows) duration s.offset

end Selectors

def unexpected {β : Type} (x : Column α n) : Except QueryError β :=
  .error (.typeMismatch (.unexpectedValue x.valueType))

def rowsOf : Column α n → Except QueryError (Rows α n)
  | .vector rows => .ok rows
  | x => unexpected x

def scalarsOf : Column α n → Except QueryError (Vector α n)
  | .scalar values => .ok values
  | x => unexpected x

def stepwise (step : Fin n → Except QueryError (SeriesMap α)) :
    Except QueryError (Column α n) := do
  return .vector (Rows.ofSteps (← Vector.ofFnM step))

variable [SampleValue α]

def negate : Column α n → Except QueryError (Column α n)
  | .scalar values => .ok (.scalar (values.map (-·)))
  | .vector rows => .vector <$> rows.mapElements Metric.withoutName fun _ x => some (-x)
  | x => unexpected x

def present (elements : List (Keyed Metric (Row α n))) (i : Fin n) : List (Keyed Metric α) :=
  elements.filterMap fun e => (e.value.get i).map fun v => ⟨e.item, e.key, v⟩

def binary (hash : LabelHash) (op : BinaryOp) (matching : VectorMatching) (toBool : Bool) :
    Column α n → Column α n → Except QueryError (Column α n)
  | .scalar l, .scalar r => .ok (.scalar (Vector.zipWith op.apply l r))
  | .vector l, .scalar r =>
    .vector <$> l.mapElements (op.outputMetric toBool)
      fun i x => op.combineScalar toBool false x (r.get i)
  | .scalar l, .vector r =>
    .vector <$> r.mapElements (op.outputMetric toBool)
      fun i x => op.combineScalar toBool true x (l.get i)
  | .vector l, .vector r =>
    let left := keyed hash matching.filter l.toList
    let right := keyed hash matching.filter r.toList
    stepwise fun i => combineVectors op matching toBool (present left i) (present right i)
  | l, r => unexpected (if l.valueType.isOperand then r else l)

/-- The parameter of an aggregation at each frame, where a text has to be a label name. -/
def paramAt? : Option (Column α n) → Except QueryError (Fin n → AggregateParam α)
  | none => .ok fun _ => .none
  | some (.scalar values) => .ok fun i => .scalar (values.get i)
  | some (.string s) => do
    (checkLabelName s).mapError .invalidArgument
    return fun _ => .label s
  | some x => unexpected x

def aggregate (hash : LabelHash) (op : AggregateOp) (grouping : Grouping)
    (param : Option (Column α n)) (operand : Column α n) : Except QueryError (Column α n) := do
  let rows ← rowsOf operand
  let param ← paramAt? param
  let groups := (groupElements hash grouping.filter rows.toList).toList
  stepwise fun i =>
    collect .duplicateSeries <| groups.flatMap fun (labels, members) =>
      let members := members.filterMap fun (m, row) => (row.get i).map fun v => (m, v)
      if members.isEmpty then [] else op.elements (param i) labels members

def argument (args : List (Column α n)) (i : Nat) : Except QueryError (Column α n) :=
  match args[i]? with
  | some x => .ok x
  | none => .error (.typeMismatch .missingArgument)

def callWindow (frames : TimeFrames) (f : Function) (args : List (Column α frames.len)) :
    Except QueryError (Column α frames.len) := do
  let scalars ← (args.eraseIdx f.matrixArg).mapM scalarsOf
  let params (i : Fin frames.len) : List α := scalars.map (·.get i)
  (List.finRange frames.len).forM fun i => (f.checkParams (params i)).mapError .invalidArgument
  match ← argument args f.matrixArg with
  | .matrix rows range offset =>
    .vector <$> Rows.collectComputed (rows.toList.map fun (m, row) =>
      (f.outputMetric m, fun i => Except.mapError .overflow do
        let w ← Window.of (frames.atIndex i) range offset
        f.reduceWindow (row.window i) w (params i)))
  | x => unexpected x

def callMath (f : Function) (args : List (Column α n)) : Except QueryError (Column α n) := do
  let rows ← rowsOf (← argument args 0)
  let param ← args[1]?.mapM scalarsOf
  .vector <$> rows.mapElements f.outputMetric
    fun i x => some (f.applyMath x (param.map (·.get i)))

def single (m : Metric) (row : Row α n) : Column α n := .vector (SortedMap.empty.insert m row)

def callDate (frames : TimeFrames) (f : Function) (args : List (Column α frames.len)) :
    Except QueryError (Column α frames.len) :=
  match args with
  | [] =>
    .ok (single .empty (frames.toVector.map fun t => some (f.applyDate (Numeric.ofMillis t))))
  | arg :: _ => do
    let rows ← rowsOf arg
    .vector <$> rows.mapElements f.outputMetric fun _ x => some (f.applyDate x)

def callSpecial (frames : TimeFrames) (f : Function) (exprs : List (Expr α))
    (args : List (Column α frames.len)) : Except QueryError (Column α frames.len) :=
  match f with
  | .time => .ok (.scalar (frames.toVector.map Numeric.ofMillis))
  | .vector => do
    let values ← scalarsOf (← argument args 0)
    return single .empty (values.map some)
  | .scalar => do
    let rows ← rowsOf (← argument args 0)
    return .scalar <| Vector.ofFn fun i =>
      match rows.values.filterMap (·.get i) with
      | [v] => v
      | _ => Numeric.nan
  | .absent => do
    let rows ← rowsOf (← argument args 0)
    let row : Row α frames.len := Vector.ofFn fun i =>
      if rows.values.any fun row => (row.get i).isSome then none else some Numeric.one
    if row.any Option.isSome then return single (← Expr.absentArgument exprs) row
    else return .vector .empty
  | .timestamp => do
    let rows ← rowsOf (← argument args 0)
    .vector <$> rows.mapElements f.outputMetric
      fun i _ => some (Numeric.ofMillis (frames.atIndex i))
  | .histogramQuantile => do
    let q ← scalarsOf (← argument args 0)
    let rows ← rowsOf (← argument args 1)
    stepwise fun i => .ok (Histogram.quantile (q.get i) (rows.atFrame i))
  | _ => .error (.unknownFunction f.name)

def relabel (f : Function) (exprs : List (Expr α)) (arg : Traced (Column α n)) :
    Traced (Column α n) := do
  let change ← Traced.ofExcept (Expr.relabeling f exprs)
  let rows ← Traced.ofExcept (rowsOf (← arg))
  Traced.ofExcept (.vector <$> rows.mapElements change fun _ x => some x)

/-- The column of a call. Relabelling functions prepare their change before they look at their
vector; all others take the values of all arguments. -/
def call (frames : TimeFrames) (f : Function) (exprs : List (Expr α))
    (args : List (Traced (Column α frames.len))) : Traced (Column α frames.len) :=
  if f = .labelReplace ∨ f = .labelJoin then
    relabel f exprs (args.headD (Traced.fail (.typeMismatch .missingArgument)))
  else do
    let values ← args.mapM id
    Traced.ofExcept <|
      match f.kind with
      | .window => callWindow frames f values
      | .math => callMath f values
      | .date => callDate frames f values
      | .special => callSpecial frames f exprs values

mutual

def eval (c : Context α) : Expr α → Traced (Column α c.frames.len)
  | .number v => pure (.scalar (Vector.replicate _ v))
  | .string text => pure (.string text)
  | .selector s => Traced.withSpan "selector" (Traced.ofExcept (selectLatest c s))
  | .range s duration =>
    Traced.withSpan "range_selector" (Traced.ofExcept (selectWindow c s duration))
  | .negate e => Traced.withSpan "unary" do Traced.ofExcept (negate (← eval c e))
  | .binary op l r matching toBool => Traced.withSpan "binary" do
    let x ← eval c l
    let y ← eval c r
    Traced.ofExcept (binary c.hash op matching toBool x y)
  | .aggregate op e param grouping => Traced.withSpan "aggregate" do
    let p ← evalParam c param
    let x ← eval c e
    Traced.ofExcept (aggregate c.hash op grouping p x)
  | .call f args => Traced.withSpan "call" (call c.frames f args (evalArgs c args))

def evalParam (c : Context α) : Option (Expr α) → Traced (Option (Column α c.frames.len))
  | none => pure none
  | some e => some <$> eval c e

def evalArgs (c : Context α) : List (Expr α) → List (Traced (Column α c.frames.len))
  | [] => []
  | e :: rest => eval c e :: evalArgs c rest

end

theorem evalArgs_eq_map (c : Context α) (args : List (Expr α)) :
    evalArgs c args = args.map (eval c) := by
  induction args with
  | nil => rfl
  | cons e rest ih => rw [evalArgs, ih, List.map_cons]

def evaluate (c : Context α) (e : Expr α) : Traced (QueryResult α) :=
  Traced.withSpan "engine.evaluate" do
    Traced.ofExcept (c.validate e)
    let column ← eval c e
    return { frames := c.frames, steps := Vector.ofFn column.atFrame }

end SeriesQuery.Columnar
