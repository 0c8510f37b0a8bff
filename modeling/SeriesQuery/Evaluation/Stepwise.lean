import SeriesQuery.Evaluation.Context
import SeriesQuery.Evaluation.Elements
import SeriesQuery.Function.Elementwise
import SeriesQuery.Function.Window
import SeriesQuery.Histogram

/-!
# Evaluation timestamp by timestamp

The tree is walked once for each frame. Selectors without an offset fetch their series for the
span of all frames when they are first met and find them in a cache afterwards; selectors with an
offset query the gateway at every frame.
-/

namespace SeriesQuery

/-- The series that have been fetched for all frames, by selector key. -/
abbrev SelectorCache (α : Type) := SortedMap String (List (SeriesSamples α))

/-- The text by which the series of a selector are remembered: what is displayed as its name does
not matter. -/
def Selector.key (s : Selector) (window : Int) : String :=
  "\x7b" ++ String.intercalate "," (s.matchers.map LabelMatcher.display) ++ "\x7d" ++
    s!"[{window}]"

/-- A traced computation that may remember fetched series. -/
abbrev Step (α : Type) := StateT (SelectorCache α) Traced

def Step.withSpan {α β : Type} (name : String) (x : Step α β) : Step α β := fun cache =>
  Traced.withSpan name (x cache)

namespace Value

variable {α : Type}

def scalar? (x : Value α) : Except QueryError α :=
  match x with
  | scalar v => .ok v
  | x => .error (.typeMismatch (.unexpectedValue x.valueType))

def vector? (x : Value α) : Except QueryError (SeriesMap α) :=
  match x with
  | vector v => .ok v
  | x => .error (.typeMismatch (.unexpectedValue x.valueType))

def matrix? (x : Value α) : Except QueryError (SeriesMap (List (Sample α))) :=
  match x with
  | matrix m => .ok m
  | x => .error (.typeMismatch (.unexpectedValue x.valueType))

def param? : Option (Value α) → Except QueryError (AggregateParam α)
  | none => .ok .none
  | some (scalar v) => .ok (.scalar v)
  | some (string s) => do
    (checkLabelName s).mapError .invalidArgument
    return .label s
  | some x => .error (.typeMismatch (.unexpectedValue x.valueType))

/-- The vector in which each series has a new metric and value, or is left out. -/
def mapElements (metric : Metric → Metric) (value : α → Option α) (v : SeriesMap α) :
    Except QueryError (Value α) :=
  vector <$> collect .duplicateSeries
    (v.toList.filterMap fun (m, x) => (value x).map fun y => (metric m, y))

variable [SampleValue α]

def negate : Value α → Except QueryError (Value α)
  | scalar v => .ok (scalar (-v))
  | vector v => mapElements Metric.withoutName (fun x => some (-x)) v
  | x => .error (.typeMismatch (.unexpectedValue x.valueType))

def binary (hash : LabelHash) (op : BinaryOp) (matching : VectorMatching) (toBool : Bool) :
    Value α → Value α → Except QueryError (Value α)
  | scalar l, scalar r => .ok (scalar (op.apply l r))
  | vector l, scalar r =>
    mapElements (op.outputMetric toBool) (fun x => op.combineScalar toBool false x r) l
  | scalar l, vector r =>
    mapElements (op.outputMetric toBool) (fun x => op.combineScalar toBool true x l) r
  | vector l, vector r =>
    vector <$> combineVectors op matching toBool (keyed hash matching.filter l.toList)
      (keyed hash matching.filter r.toList)
  | l, r =>
    let wrong := if l.valueType.isOperand then r else l
    .error (.typeMismatch (.unexpectedValue wrong.valueType))

def aggregate (hash : LabelHash) (op : AggregateOp) (grouping : Grouping)
    (param : Option (Value α)) (operand : Value α) : Except QueryError (Value α) := do
  let v ← operand.vector?
  let param ← param? param
  let groups := groupElements hash grouping.filter v.toList
  vector <$> collect .duplicateSeries
    (groups.toList.flatMap fun (labels, members) => op.elements param labels members)

end Value

/-- How an evaluation answers selectors, and what it does where it enters a span. The rest of an
evaluation is the same for all computations that may fail. -/
structure Reading (α : Type) (m : Type → Type) where
  latest : Selector → m (SeriesMap α)
  windows : Selector → Int → m (SeriesMap (List (Sample α)))
  within : {β : Type} → String → m β → m β

namespace Stepwise

variable {α : Type} [SampleValue α]

def fetch (c : Context α) (t : Int) (s : Selector) (window : Int) :
    Step α (List (SeriesSamples α)) := do
  if s.offset ≠ 0 then
    let finish ← Millis.earlier t s.offset
    c.fetch s window finish finish
  else
    let key := s.key window
    match (← get).get? key with
    | some series => return series
    | none =>
      let series ← c.fetch s window c.frames.first c.frames.last
      modify fun cache => cache.insert key series
      return series

/-- The last of the samples up to a time, if it is recent and not the end of its series. -/
def latest (samples : Array (Sample α)) (start finish : Int) : Option α :=
  match partitionPoint (fun s => s.timestamp ≤ finish) samples with
  | 0 => none
  | i + 1 =>
    samples[i]?.bind fun s =>
      if start ≤ s.timestamp && !s.isStale then some s.value else none

def selectLatest (c : Context α) (t : Int) (s : Selector) : Step α (SeriesMap α) := do
  let series ← fetch c t s c.lookback
  let finish ← Millis.earlier t s.offset
  let start ← Millis.earlier finish c.lookback
  return .ofList <| series.filterMap fun x =>
    (latest x.samples start finish).map fun v => (x.metric, v)

/-- The samples inside an interval that do not end their series. -/
def samplesWithin (samples : Array (Sample α)) (range : TimeRange) : List (Sample α) :=
  samples.toList.filter fun s => range.contains s.timestamp && !s.isStale

def selectWindow (c : Context α) (t : Int) (s : Selector) (duration : Int) :
    Step α (SeriesMap (List (Sample α))) := do
  let series ← fetch c t s duration
  let finish ← Millis.earlier t s.offset
  let start ← Millis.earlier finish duration
  return .ofList <| series.filterMap fun x =>
    let samples := samplesWithin x.samples ⟨start, finish⟩
    if samples.isEmpty then none else some (x.metric, samples)

def reading (c : Context α) (t : Int) : Reading α (Step α) where
  latest := selectLatest c t
  windows := selectWindow c t
  within := Step.withSpan

def reduceWindows (t : Int) (f : Function) (offset duration : Int)
    (series : SeriesMap (List (Sample α))) (params : List α) : Except QueryError (Value α) := do
  let window ← (Window.of t duration offset).mapError .overflow
  .vector <$> collectComputed .duplicateSeries (series.toList.map fun (m, samples) =>
    (f.outputMetric m, (f.reduceWindow samples window params).mapError .overflow))

section Expressions

variable {m : Type → Type} [Monad m] [MonadLiftT (Except QueryError) m]

def rangeArg (f : Function) (args : List (Expr α)) : Except QueryError (Selector × Int) :=
  match args[f.matrixArg]? with
  | some (.range s duration) => .ok (s, duration)
  | _ => .error (.typeMismatch (.windowExpected f))

def argument (args : List (m (Value α))) (i : Nat) : m (Value α) :=
  match args[i]? with
  | some x => x
  | none => liftM (.error (.typeMismatch .missingArgument) : Except QueryError (Value α))

def scalarArg (args : List (m (Value α))) (i : Nat) : m α := do
  liftM (← argument args i).scalar?

def vectorArg (args : List (m (Value α))) (i : Nat) : m (SeriesMap α) := do
  liftM (← argument args i).vector?

def callWindow (t : Int) (f : Function) (args : List (Expr α)) (values : List (m (Value α))) :
    m (Value α) := do
  let (s, duration) ← liftM (rangeArg f args)
  let params ← (values.eraseIdx f.matrixArg).mapM fun value => do liftM (← value).scalar?
  liftM ((f.checkParams params).mapError QueryError.invalidArgument)
  let series ← liftM (← argument values f.matrixArg).matrix?
  liftM (reduceWindows t f s.offset duration series params)

def mapArg (f : Function) (value : α → α) (args : List (m (Value α))) : m (Value α) := do
  let v ← vectorArg args 0
  liftM (Value.mapElements f.outputMetric (fun x => some (value x)) v)

def callMath (f : Function) (args : List (m (Value α))) : m (Value α) := do
  let v ← vectorArg args 0
  let param ← if 1 < args.length then some <$> scalarArg args 1 else pure none
  liftM (Value.mapElements f.outputMetric (fun x => some (f.applyMath x param)) v)

def single (m : Metric) (v : α) : Value α := .vector (SortedMap.empty.insert m v)

def callSpecial (t : Int) (f : Function) (args : List (Expr α)) (values : List (m (Value α))) :
    m (Value α) :=
  match f with
  | .time => pure (.scalar (Numeric.ofMillis t))
  | .vector => do return single .empty (← scalarArg values 0)
  | .scalar => do
    match (← vectorArg values 0).values with
    | [v] => return .scalar v
    | _ => return .scalar Numeric.nan
  | .absent => do
    if (← vectorArg values 0).isEmpty then
      return single (← liftM (Expr.absentArgument args)) Numeric.one
    else return .vector .empty
  | .timestamp => mapArg f (fun _ => Numeric.ofMillis t) values
  | .histogramQuantile => do
    let q ← scalarArg values 0
    let v ← vectorArg values 1
    return .vector (Histogram.quantile q v)
  | _ => do
    let relabel ← liftM (Expr.relabeling f args)
    let v ← vectorArg values 0
    liftM (Value.mapElements relabel some v)

def call (t : Int) (f : Function) (args : List (Expr α)) (values : List (m (Value α))) :
    m (Value α) :=
  match f.kind with
  | .window => callWindow t f args values
  | .math => callMath f values
  | .date =>
    if values.isEmpty then pure (single .empty (f.applyDate (Numeric.ofMillis t)))
    else mapArg f f.applyDate values
  | .special => callSpecial t f args values

mutual

def eval (r : Reading α m) (hash : LabelHash) (t : Int) : Expr α → m (Value α)
  | .number v => pure (.scalar v)
  | .string text => pure (.string text)
  | .selector s => r.within "selector" (Value.vector <$> r.latest s)
  | .range s duration => r.within "range_selector" (Value.matrix <$> r.windows s duration)
  | .negate e => r.within "unary" do liftM (← eval r hash t e).negate
  | .binary op left right matching toBool => r.within "binary" do
    let x ← eval r hash t left
    let y ← eval r hash t right
    liftM (Value.binary hash op matching toBool x y)
  | .aggregate op e param grouping => r.within "aggregate" do
    let p ← evalParam r hash t param
    let x ← eval r hash t e
    liftM (Value.aggregate hash op grouping p x)
  | .call f args => r.within "call" (call t f args (evalArgs r hash t args))

def evalParam (r : Reading α m) (hash : LabelHash) (t : Int) :
    Option (Expr α) → m (Option (Value α))
  | none => pure none
  | some e => some <$> eval r hash t e

def evalArgs (r : Reading α m) (hash : LabelHash) (t : Int) : List (Expr α) → List (m (Value α))
  | [] => []
  | e :: rest => eval r hash t e :: evalArgs r hash t rest

end

theorem evalArgs_eq_map (r : Reading α m) (hash : LabelHash) (t : Int) (args : List (Expr α)) :
    evalArgs r hash t args = args.map (eval r hash t) := by
  induction args with
  | nil => rfl
  | cons e rest ih => rw [evalArgs, ih, List.map_cons]

end Expressions

/-- The value of an expression at a frame, in a span of its own. -/
def evalAt (c : Context α) (t : Int) (e : Expr α) : Step α (Value α) :=
  Step.withSpan "step" (eval (reading c t) c.hash t e)

def evaluate (c : Context α) (e : Expr α) : Traced (QueryResult α) :=
  Traced.withSpan "interpreter.evaluate" do
    Traced.ofExcept (c.validate e)
    let (steps, _) ← (Vector.ofFnM fun i => evalAt c (c.frames.atIndex i) e).run .empty
    return { frames := c.frames, steps }

end Stepwise

end SeriesQuery
