import SeriesQuery.Evaluation.Context
import SeriesQuery.Evaluation.Elements
import SeriesQuery.Function.Elementwise
import SeriesQuery.Function.Window
import SeriesQuery.Histogram

/-!
# Evaluation by position

Every expression is evaluated once for all frames into lists whose lengths nothing guarantees, and
frames, rows and samples are found by their positions. An evaluation stops where a position lies
outside a list, and where two lists that are walked side by side differ in length.
-/

namespace SeriesQuery.Positional

variable {α β γ : Type}

inductive Stop
  /-- An error of the query. -/
  | failed (e : QueryError)
  /-- A position outside a list. -/
  | outOfRange
  /-- Two lists side by side of which one is longer. -/
  | uneven

abbrev Run := Except Stop

def lift (x : Except QueryError β) : Run β := x.mapError .failed

def fail (e : QueryError) : Run β := .error (.failed e)

def entry (xs : List β) (i : Nat) : Run β :=
  match xs[i]? with
  | some x => .ok x
  | none => .error .outOfRange

def write (xs : List β) (i : Nat) (x : β) : Run (List β) :=
  if i < xs.length then .ok (xs.set i x) else .error .outOfRange

def slice (xs : List β) (lower upper : Nat) : Run (List β) :=
  if lower ≤ upper ∧ upper ≤ xs.length then .ok ((xs.take upper).drop lower)
  else .error .outOfRange

def pairs (xs : List β) (ys : List γ) : Run (List (β × γ)) :=
  if xs.length = ys.length then .ok (xs.zip ys) else .error .uneven

abbrev Row (α : Type) := List (Option α)

abbrev Rows (α : Type) := SeriesMap (Row α)

/-- Samples of one series and where the window of each frame begins and ends among them. -/
structure WindowRow (α : Type) where
  samples : List (Sample α)
  windows : List (Nat × Nat)

inductive Column (α : Type)
  | scalar (values : List α)
  | string (text : String)
  | vector (rows : Rows α)
  | matrix (rows : SeriesMap (WindowRow α)) (range offset : Int)

namespace Column

def valueType : Column α → ValueType
  | scalar _ => .scalar
  | string _ => .string
  | vector _ => .vector
  | matrix _ _ _ => .matrix

def vectorAt (rows : Rows α) (i : Nat) : Run (List (Metric × α)) := do
  let entries ← rows.toList.mapM fun (m, row) => do return (m, ← entry row i)
  return entries.filterMap fun (m, v) => v.map (m, ·)

def windowsAt (rows : SeriesMap (WindowRow α)) (i : Nat) :
    Run (List (Metric × List (Sample α))) := do
  let windows ← rows.toList.mapM fun (m, row) => do
    let (lower, upper) ← entry row.windows i
    if upper ≤ lower then return none
    else return some (m, ← slice row.samples lower upper)
  return windows.filterMap id

def steps (n : Nat) : Column α → Run (List (Value α))
  | scalar values => .ok (values.map .scalar)
  | string text => .ok (List.replicate n (.string text))
  | vector rows => (List.range n).mapM fun i => do return .vector (.ofList (← vectorAt rows i))
  | matrix rows _ _ =>
    (List.range n).mapM fun i => do return .matrix (.ofList (← windowsAt rows i))

def unexpected (x : Column α) : Run β := fail (.typeMismatch (.unexpectedValue x.valueType))

def rows : Column α → Run (Rows α)
  | vector rows => .ok rows
  | x => x.unexpected

def scalars : Column α → Run (List α)
  | scalar values => .ok values
  | x => x.unexpected

end Column

/-- Output rows are collected for `len` frames, and two values of one metric at one frame are an
error. -/
structure RowSink where
  len : Nat
  duplicate : Metric → QueryError

namespace RowSink

/-- Puts a value at a frame of a row, which is made if it is missing. -/
def set (sink : RowSink) (rows : Rows α) (m : Metric) (i : Nat) (v : α) : Run (Rows α) := do
  let row := (rows.get? m).getD (List.replicate sink.len none)
  if (← entry row i).isSome then fail (sink.duplicate m)
  else return rows.insert m (← write row i (some v))

def setEach (sink : RowSink) (rows : Rows α) (m : Metric) (row : Row α) : Run (Rows α) :=
  row.zipIdx.foldlM (fun rows (v, i) =>
    match v with
    | some v => sink.set rows m i v
    | none => .ok rows) rows

/-- Adds a row as it is, or value by value if there is one of the same metric. -/
def merge (sink : RowSink) (rows : Rows α) (m : Metric) (row : Row α) : Run (Rows α) :=
  if rows.contains m then sink.setEach rows m row else .ok (rows.insert m row)

def mapRows (sink : RowSink) (metric : Metric → Metric) (change : Row α → Run (Row α))
    (rows : Rows α) : Run (Rows α) :=
  rows.toList.foldlM (fun out (m, row) => do sink.merge out (metric m) (← change row)) .empty

/-- The rows of the elements that a step makes at each of some frames, first to last. -/
def fill (sink : RowSink) (frames : Nat) (step : Nat → Run (List (Metric × α))) :
    Run (Rows α) :=
  (List.range frames).foldlM (fun rows i => do
    (← step i).foldlM (fun rows (m, v) => sink.set rows m i v) rows) .empty

end RowSink

def rowsFor (n : Nat) : RowSink := ⟨n, .duplicateSeries⟩

variable [SampleValue α]

/-- The position behind the samples up to a time, found by passing over them one by one. -/
def passUntil (samples : List (Sample α)) (finish : Int) (cursor : Nat) : Run Nat :=
  if cursor < samples.length then do
    let s ← entry samples cursor
    if s.timestamp ≤ finish then passUntil samples finish (cursor + 1) else return cursor
  else .ok cursor
termination_by samples.length - cursor

/-- Writes the latest values at ascending times into a row from a position on. The samples in
front of the cursor have been passed. -/
def writeLatest (samples : List (Sample α)) (lookback : Int) :
    List Int → (i cursor : Nat) → Row α → Run (Row α)
  | [], _, _, row => .ok row
  | finish :: rest, i, cursor, row => do
    let cursor ← passUntil samples finish cursor
    if cursor = 0 then writeLatest samples lookback rest (i + 1) cursor row
    else
      let s ← entry samples (cursor - 1)
      let start ← lift (Millis.earlier finish lookback)
      if start ≤ s.timestamp && !s.isStale then
        let row ← write row i (some s.value)
        writeLatest samples lookback rest (i + 1) cursor row
      else writeLatest samples lookback rest (i + 1) cursor row

def latestRow (frames : TimeFrames) (offset lookback : Int) (samples : Array (Sample α)) :
    Run (Row α) := do
  let ends ← frames.toList.mapM fun t => lift (Millis.earlier t offset)
  writeLatest samples.toList lookback ends 0 0 (List.replicate frames.len none)

def windowRow (frames : TimeFrames) (offset duration : Int) (samples : Array (Sample α)) :
    Run (WindowRow α) := do
  let samples := samples.filter (!·.isStale)
  let windows ← frames.toList.mapM fun t => do
    let finish ← lift (Millis.earlier t offset)
    let start ← lift (Millis.earlier finish duration)
    let lower := partitionPoint (fun s => s.timestamp < start) samples
    let upper := partitionPoint (fun s => s.timestamp ≤ finish) samples
    return (lower, max upper lower)
  return { samples := samples.toList, windows }

def fetch (c : Context α) (s : Selector) (window : Int) : Run (List (SeriesSamples α)) := lift do
  let first ← Millis.earlier c.frames.first s.offset
  let last ← Millis.earlier c.frames.last s.offset
  c.fetch s window first last

def selectLatest (c : Context α) (s : Selector) : Run (Column α) := do
  let series ← fetch c s c.lookback
  let rows ← series.foldlM (fun (rows : Rows α) x => do
    let row ← latestRow c.frames s.offset c.lookback x.samples
    return if row.any Option.isSome then rows.insert x.metric row else rows) .empty
  return .vector rows

def selectWindow (c : Context α) (s : Selector) (duration : Int) : Run (Column α) := do
  let series ← fetch c s duration
  let rows ← series.foldlM (fun (rows : SeriesMap (WindowRow α)) x => do
    let row ← windowRow c.frames s.offset duration x.samples
    return if row.windows.any fun w => w.1 < w.2 then rows.insert x.metric row else rows) .empty
  return .matrix rows duration s.offset

def negate (n : Nat) : Column α → Run (Column α)
  | .scalar values => .ok (.scalar (values.map (-·)))
  | .vector rows =>
    .vector <$> (rowsFor n).mapRows Metric.withoutName
      (fun row => .ok (row.map fun v => v.map (-·))) rows
  | x => x.unexpected

def vectorScalar (n : Nat) (op : BinaryOp) (toBool scalarOnLeft : Bool) (rows : Rows α)
    (values : List α) : Run (Rows α) :=
  (rowsFor n).mapRows (op.outputMetric toBool) (fun row => do
    return (← pairs row values).map fun (v, x) =>
      v.bind (op.combineScalar toBool scalarOnLeft · x)) rows

/-- One side of two vectors: its metrics with their match keys, and its rows in the same order. -/
structure Side (α : Type) where
  keys : List (Metric × MatchKey)
  rows : List (Row α)

namespace Side

def of (hash : LabelHash) (filter : LabelFilter) (rows : Rows α) : Side α where
  keys := rows.keys.map fun m => (m, .of hash filter m)
  rows := rows.values

def presentAt (side : Side α) (i : Nat) : Run (List Nat) :=
  (List.range side.rows.length).filterMapM fun p => do
    return if (← entry (← entry side.rows p) i).isSome then some p else none

def valueAt (side : Side α) (p i : Nat) : Run α := do
  return (← entry (← entry side.rows p) i).getD Numeric.nan

def metricAt (side : Side α) (p : Nat) : Run Metric := Prod.fst <$> entry side.keys p

/-- What the rows at some positions have at a frame, each as the item that is made of where its
position stands among them. -/
def keyedAt {ι : Type} (side : Side α) (item : Nat → ι) (present : List Nat) (i : Nat) :
    Run (List (Keyed ι α)) :=
  present.zipIdx.mapM fun (p, q) => do
    return ⟨item q, (← entry side.keys p).2, ← side.valueAt p i⟩

/-- The element at a frame of the row whose position stands somewhere among some positions. -/
def elementAt (side : Side α) (present : List Nat) (q i : Nat) : Run (Metric × α) := do
  let p ← entry present q
  return (← side.metricAt p, ← side.valueAt p i)

end Side

def setAt (op : BinaryOp) (left right : Side α) (i : Nat) : Run (List (Metric × α)) := do
  let leftPresent ← left.presentAt i
  let rightPresent ← right.presentAt i
  let l ← left.keyedAt Sum.inl leftPresent i
  let r ← right.keyedAt Sum.inr rightPresent i
  (setStep op l r).mapM fun kept =>
    match kept.item with
    | .inl q => left.elementAt leftPresent q i
    | .inr q => right.elementAt rightPresent q i

def joinAt (op : BinaryOp) (matching : VectorMatching) (toBool : Bool) (left right : Side α)
    (i : Nat) : Run (List (Metric × α)) := do
  let leftPresent ← left.presentAt i
  let rightPresent ← right.presentAt i
  let l ← left.keyedAt id leftPresent i
  let r ← right.keyedAt id rightPresent i
  let joined ← lift ((joinStep op matching toBool l r).mapError .multipleMatch)
  joined.mapM fun j => do
    let leftMetric ← left.metricAt (← entry leftPresent j.left)
    let rightMetric ← right.metricAt (← entry rightPresent j.right)
    let metric :=
      if matching.cardinality.keepsRight then
        resultMetric op matching toBool rightMetric leftMetric
      else resultMetric op matching toBool leftMetric rightMetric
    return (metric, j.value)

def vectorVector (n : Nat) (hash : LabelHash) (op : BinaryOp) (matching : VectorMatching)
    (toBool : Bool) (l r : Rows α) : Run (Rows α) :=
  let left := Side.of hash matching.filter l
  let right := Side.of hash matching.filter r
  if op.isSet then (rowsFor n).fill n (setAt op left right)
  else RowSink.fill ⟨n, .notUnique⟩ n (joinAt op matching toBool left right)

def binary (n : Nat) (hash : LabelHash) (op : BinaryOp) (matching : VectorMatching)
    (toBool : Bool) : Column α → Column α → Run (Column α)
  | .scalar l, .scalar r => do
    return .scalar ((← pairs l r).map fun (x, y) => op.apply x y)
  | .vector l, .scalar r => .vector <$> vectorScalar n op toBool false l r
  | .scalar l, .vector r => .vector <$> vectorScalar n op toBool true r l
  | .vector l, .vector r => .vector <$> vectorVector n hash op matching toBool l r
  | l, r => (if l.valueType.isOperand then r else l).unexpected

/-- Where the group with some labels stands, and of each group its metric and the positions of its
members. -/
structure Groups where
  index : FingerprintMap Labels Nat
  groups : List (Metric × List Nat)

namespace Groups

def empty : Groups := ⟨.empty, []⟩

/-- Adds the row at a position to the group of its labels, which is made if it is missing. -/
def add (hash : LabelHash) (filter : LabelFilter) (g : Groups) (m : Metric) (p : Nat) :
    Run Groups := do
  let labels := m.labels.restrict filter
  let (position, created, index) :=
    g.index.findOrInsert (hash (m.labels.admitted filter)) (m.labels.agreeOn · filter) labels
      g.groups.length
  let groups := if created then g.groups ++ [(Metric.ofLabels labels, [])] else g.groups
  let (metric, members) ← entry groups position
  return ⟨index, ← write groups position (metric, members ++ [p])⟩

def ofRows (hash : LabelHash) (filter : LabelFilter) (rows : List (Metric × Row α)) :
    Run Groups :=
  rows.zipIdx.foldlM (fun g ((m, _), p) => g.add hash filter m p) empty

end Groups

def checkParam : Option (Column α) → Run Unit
  | none | some (.scalar _) => .ok ()
  | some (.string s) => lift ((checkLabelName s).mapError .invalidArgument)
  | some x => x.unexpected

def paramAt (param : Option (Column α)) (i : Nat) : Run (AggregateParam α) :=
  match param with
  | some (.scalar values) => .scalar <$> entry values i
  | some (.string s) => .ok (.label s)
  | _ => .ok .none

def groupAt (op : AggregateOp) (param : AggregateParam α) (rows : List (Metric × Row α)) (i : Nat)
    (metric : Metric) (members : List Nat) : Run (List (Metric × α)) := do
  let found ← members.mapM fun p => do return (p, ← entry (← entry rows p).2 i)
  let found := found.filterMap fun (p, v) => v.map (p, ·)
  let present := found.map Prod.fst
  let values := found.map Prod.snd
  if values.isEmpty then return []
  else
    match op.reduce values param with
    | .value v => return [(metric, v)]
    | .selected positions => positions.mapM fun q => do
      return ((← entry rows (← entry present q)).1, ← entry values q)
    | .counts counts =>
      match param with
      | .label name => return counts.map fun (text, v) => (metric.setLabel name text, v)
      | _ => return []

def aggregate (n : Nat) (hash : LabelHash) (op : AggregateOp) (grouping : Grouping)
    (param : Option (Column α)) (operand : Column α) : Run (Column α) := do
  let rows := (← operand.rows).toList
  checkParam param
  let g ← Groups.ofRows hash grouping.filter rows
  .vector <$> (rowsFor n).fill n fun i => do
    let param ← paramAt param i
    let parts ← g.index.values.mapM fun position => do
      let (metric, members) ← entry g.groups position
      groupAt op param rows i metric members
    return parts.flatten

def argument (args : List (Column α)) (i : Nat) : Run (Column α) :=
  match args[i]? with
  | some x => .ok x
  | none => fail (.typeMismatch .missingArgument)

def callWindow (frames : TimeFrames) (f : Function) (args : List (Column α)) :
    Run (Column α) := do
  let scalars ← (args.eraseIdx f.matrixArg).mapM Column.scalars
  let params ← (List.range frames.len).mapM fun i => scalars.mapM (entry · i)
  params.forM fun p => lift ((f.checkParams p).mapError .invalidArgument)
  match ← argument args f.matrixArg with
  | .matrix rows range offset =>
    .vector <$> rows.toList.foldlM (fun out (m, row) =>
      frames.toList.zipIdx.foldlM (fun out (t, i) => do
        let (lower, upper) ← entry row.windows i
        let samples ← slice row.samples lower upper
        let w ← lift ((Window.of t range offset).mapError .overflow)
        match ← lift ((f.reduceWindow samples w (← entry params i)).mapError .overflow) with
        | some v => (rowsFor frames.len).set out (f.outputMetric m) i v
        | none => return out) out) .empty
  | x => x.unexpected

def callMath (n : Nat) (f : Function) (args : List (Column α)) : Run (Column α) := do
  let rows ← (← argument args 0).rows
  let param ← args[1]?.mapM Column.scalars
  .vector <$> (rowsFor n).mapRows f.outputMetric (fun row =>
    row.zipIdx.mapM fun (v, i) => v.mapM fun v => do
      return f.applyMath v (← param.mapM (entry · i))) rows

def single (m : Metric) (row : Row α) : Column α := .vector (SortedMap.empty.insert m row)

def callDate (frames : TimeFrames) (f : Function) (args : List (Column α)) : Run (Column α) :=
  match args with
  | [] =>
    .vector <$> (rowsFor frames.len).merge .empty .empty
      (frames.toList.map fun t => some (f.applyDate (Numeric.ofMillis t)))
  | arg :: _ => do
    let rows ← arg.rows
    .vector <$> (rowsFor frames.len).mapRows f.outputMetric
      (fun row => .ok (row.map fun v => v.map f.applyDate)) rows

def callSpecial (frames : TimeFrames) (f : Function) (exprs : List (Expr α))
    (args : List (Column α)) : Run (Column α) :=
  match f with
  | .time => .ok (.scalar (frames.toList.map Numeric.ofMillis))
  | .vector => do
    let values ← (← argument args 0).scalars
    return single .empty (values.map some)
  | .scalar => do
    let rows ← (← argument args 0).rows
    .scalar <$> (List.range frames.len).mapM fun i => do
      match (← rows.values.mapM (entry · i)).filterMap id with
      | [v] => return v
      | _ => return Numeric.nan
  | .absent => do
    let rows ← (← argument args 0).rows
    let row ← (List.range frames.len).mapM fun i => do
      let found ← rows.values.mapM (entry · i)
      return if found.any Option.isSome then none else some Numeric.one
    if row.any Option.isSome then return single (← entry exprs 0).absentMetric row
    else return .vector .empty
  | .timestamp => do
    let rows ← (← argument args 0).rows
    .vector <$> (rowsFor frames.len).mapRows f.outputMetric (fun row => do
      return (← pairs row frames.toList).map fun (v, t) =>
        v.map fun _ => Numeric.ofMillis t) rows
  | .histogramQuantile => do
    let q ← (← argument args 0).scalars
    let rows ← (← argument args 1).rows
    .vector <$> (rowsFor frames.len).fill q.length fun i => do
      let present ← Column.vectorAt rows i
      return (Histogram.quantile (← entry q i) (.ofList present)).toList
  | _ => fail (.unknownFunction f.name)

def textAt (exprs : List (Expr α)) (i : Nat) : Run String := do lift (← entry exprs i).text?

def relabeling (f : Function) (exprs : List (Expr α)) : Run (Metric → Metric) := do
  let texts ←
    if f = .labelReplace then [1, 2, 3, 4].mapM (textAt exprs)
    else
      let sources ← (← slice exprs 3 exprs.length).mapM fun e => lift e.text?
      let first ← [1, 2].mapM (textAt exprs)
      pure (first ++ sources)
  lift ((f.relabeling texts).mapError .invalidArgument)

def relabel (n : Nat) (f : Function) (exprs : List (Expr α)) (args : List (Run (Column α))) :
    Run (Column α) := do
  let change ← relabeling f exprs
  let rows ← (← (← entry args 0)).rows
  .vector <$> (rowsFor n).mapRows change .ok rows

/-- The column of a call. Relabelling functions prepare their change before they look at their
vector; all others take the values of all arguments. -/
def call (frames : TimeFrames) (f : Function) (exprs : List (Expr α))
    (args : List (Run (Column α))) : Run (Column α) :=
  if f = .labelReplace ∨ f = .labelJoin then relabel frames.len f exprs args
  else do
    let values ← args.mapM id
    match f.kind with
    | .window => callWindow frames f values
    | .math => callMath frames.len f values
    | .date => callDate frames f values
    | .special => callSpecial frames f exprs values

mutual

def eval (c : Context α) : Expr α → Run (Column α)
  | .number v => .ok (.scalar (List.replicate c.frames.len v))
  | .string text => .ok (.string text)
  | .selector s => selectLatest c s
  | .range s duration => selectWindow c s duration
  | .negate e => do negate c.frames.len (← eval c e)
  | .binary op l r matching toBool => do
    let x ← eval c l
    let y ← eval c r
    binary c.frames.len c.hash op matching toBool x y
  | .aggregate op e param grouping => do
    let p ← evalParam c param
    let x ← eval c e
    aggregate c.frames.len c.hash op grouping p x
  | .call f args => call c.frames f args (evalArgs c args)

def evalParam (c : Context α) : Option (Expr α) → Run (Option (Column α))
  | none => .ok none
  | some e => some <$> eval c e

def evalArgs (c : Context α) : List (Expr α) → List (Run (Column α))
  | [] => []
  | e :: rest => eval c e :: evalArgs c rest

end

theorem evalArgs_eq_map (c : Context α) (args : List (Expr α)) :
    evalArgs c args = args.map (eval c) := by
  induction args with
  | nil => rfl
  | cons e rest ih => rw [evalArgs, ih, List.map_cons]

def evaluate (c : Context α) (e : Expr α) : Run (List (Value α)) := do
  lift (c.validate e)
  (← eval c e).steps c.frames.len

end SeriesQuery.Positional
