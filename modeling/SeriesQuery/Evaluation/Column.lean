import SeriesQuery.Evaluation.Elements
import SeriesQuery.Value

/-!
# Columns

A column holds the values of an expression at all of `n` frames at once. A vector is a row of
optional numbers for each series, and a range vector is one list of samples for each series with
the part of it that each frame sees.
-/

namespace SeriesQuery

/-- A number, or nothing, at each frame. -/
abbrev Row (α : Type) (n : Nat) := Vector (Option α) n

/-- Samples of one series and, for each frame, where its window begins and ends among them. -/
structure WindowRow (α : Type) (n : Nat) where
  samples : Array (Sample α)
  bounds : Vector (Nat × Nat) n

namespace WindowRow

variable {α : Type} {n : Nat}

def window (r : WindowRow α n) (i : Fin n) : List (Sample α) :=
  (r.samples.extract (r.bounds.get i).1 (r.bounds.get i).2).toList

def isEmptyAt (r : WindowRow α n) (i : Fin n) : Bool := (r.bounds.get i).2 ≤ (r.bounds.get i).1

end WindowRow

abbrev Rows (α : Type) (n : Nat) := SeriesMap (Row α n)

inductive Column (α : Type) (n : Nat)
  | scalar (values : Vector α n)
  | string (text : String)
  | vector (rows : Rows α n)
  | matrix (rows : SeriesMap (WindowRow α n)) (range offset : Int)

variable {α : Type} {n : Nat}

namespace Row

def overlaps (a b : Row α n) : Bool := (Vector.zipWith (fun x y => x.isSome && y.isSome) a b).any id

def merge (a b : Row α n) : Row α n := Vector.zipWith (fun x y => x.or y) a b

end Row

namespace Rows

def atFrame (rows : Rows α n) (i : Fin n) : SeriesMap α := rows.filterMap fun _ row => row.get i

/-- Adds a row. Rows of one metric are merged, unless both have a number at one frame. -/
def add (rows : Rows α n) (m : Metric) (row : Row α n) : Except QueryError (Rows α n) :=
  match rows.get? m with
  | none => .ok (rows.insert m row)
  | some old =>
    if Row.overlaps old row then .error (.duplicateSeries m)
    else .ok (rows.insert m (Row.merge old row))

def collect (rows : List (Metric × Row α n)) : Except QueryError (Rows α n) :=
  rows.foldlM (fun out (m, row) => out.add m row) .empty

/-- Puts a number at a frame of the row of a metric, which is made if it is missing. There must be
no number yet. -/
def put (rows : Rows α n) (m : Metric) (i : Fin n) (v : α) : Except QueryError (Rows α n) :=
  let row := (rows.get? m).getD (Vector.replicate n none)
  if (row.get i).isSome then .error (.duplicateSeries m) else .ok (rows.insert m (row.set i (some v)))

/-- The rows whose numbers are computed one after the other, frame by frame for each row. -/
def collectComputed (rows : List (Metric × (Fin n → Except QueryError (Option α)))) :
    Except QueryError (Rows α n) :=
  rows.foldlM (fun out (m, value) => (List.finRange n).foldlM (fun out i => do
    match ← value i with
    | some v => out.put m i v
    | none => .ok out) out) .empty

/-- The rows in which each series has a new metric and new numbers. -/
def mapElements (metric : Metric → Metric) (value : Fin n → α → Option α) (rows : Rows α n) :
    Except QueryError (Rows α n) :=
  collect <| rows.toList.map fun (m, row) =>
    (metric m, Vector.ofFn fun i => (row.get i).bind (value i))

def ofSteps (steps : Vector (SeriesMap α) n) : Rows α n :=
  let metrics : SeriesMap Unit :=
    steps.toList.foldl (fun seen step => seen.insertAll (step.keys.map (·, ()))) .empty
  metrics.mapValues fun m _ => Vector.ofFn fun i => (steps.get i).get? m

end Rows

namespace Column

def valueType : Column α n → ValueType
  | scalar _ => .scalar
  | string _ => .string
  | vector _ => .vector
  | matrix _ _ _ => .matrix

def atFrame (c : Column α n) (i : Fin n) : Value α :=
  match c with
  | scalar values => .scalar (values.get i)
  | string text => .string text
  | vector rows => .vector (rows.atFrame i)
  | matrix rows _ _ =>
    .matrix (rows.filterMap fun _ row => if row.isEmptyAt i then none else some (row.window i))

end Column

end SeriesQuery
