import SeriesQuery.FingerprintMap
import SeriesQuery.QueryError
import SeriesQuery.SampleValue

/-!
# Binary operators on values and vectors

Two elements are combined by value, and the elements of two vectors are paired by the labels that
a matching selects. Elements without a partner are left out; ambiguous pairs are errors.
-/

namespace SeriesQuery

variable {α : Type} [SampleValue α]

namespace BinaryOp

def compare (op : BinaryOp) (x y : α) : Bool :=
  match op with
  | eq => Numeric.eq x y
  | ne => !Numeric.eq x y
  | gt => Numeric.lt y x
  | lt => Numeric.lt x y
  | ge => Numeric.le y x
  | le => Numeric.le x y
  | _ => false

/-- Arithmetic on two values; a comparison yields one or zero. -/
def apply (op : BinaryOp) (x y : α) : α :=
  match op with
  | add => x + y
  | sub => x - y
  | mul => x * y
  | div => x / y
  | mod => SampleValue.rem x y
  | pow => SampleValue.pow x y
  | _ => Numeric.ofBool (op.compare x y)

/-- The value of an element made from two, or nothing if a comparison drops it. A comparison
without the `bool` modifier keeps the left value. -/
def combine (op : BinaryOp) (toBool : Bool) (x y : α) : Option α :=
  if op.isComparison && !toBool then
    if op.compare x y then some x else none
  else some (op.apply x y)

/-- The value of a vector element combined with a scalar. A comparison without the `bool`
modifier keeps the element, on whichever side the scalar stands. -/
def combineScalar (op : BinaryOp) (toBool scalarOnLeft : Bool) (element scalar : α) : Option α :=
  let combined :=
    if scalarOnLeft then op.combine toBool scalar element else op.combine toBool element scalar
  if op.isComparison && !toBool then combined.map fun _ => element else combined

def dropsMetricName (op : BinaryOp) (toBool : Bool) : Bool :=
  toBool || !(op.isComparison || op.isSet)

end BinaryOp

structure MatchKey where
  fingerprint : Fingerprint
  labels : Labels
deriving DecidableEq

def MatchKey.of (hash : LabelHash) (filter : LabelFilter) (m : Metric) : MatchKey :=
  ⟨hash (m.labels.admitted filter), m.labels.restrict filter⟩

structure Keyed (ι α : Type) where
  item : ι
  key : MatchKey
  value : α

structure Joined (ι α : Type) where
  left : ι
  right : ι
  value : α
deriving DecidableEq

variable {ι : Type}

def uniqueByKey (onLeft : Bool) (elements : List (Keyed ι α)) :
    Except MatchFault (FingerprintMap Labels (Keyed ι α)) :=
  elements.foldlM (fun index e =>
    match index.findOrInsert e.key.fingerprint (· == e.key.labels) e.key.labels e with
    | (_, true, index) => .ok index
    | (_, false, _) => .error (.duplicateOnOneSide e.key.labels onLeft)) .empty

/-- Pairs each element of one side with its partner. `seen` holds the keys that have been paired
already; with `unique`, none may be paired twice. -/
def pairUp (partners : FingerprintMap Labels (Keyed ι α)) (unique : Bool)
    (join : Keyed ι α → Keyed ι α → Option (Joined ι α)) :
    List (Keyed ι α) → FingerprintMap Labels Unit → Except MatchFault (List (Joined ι α))
  | [], _ => .ok []
  | e :: rest, seen =>
    match partners.find? e.key.fingerprint (· == e.key.labels) with
    | none => pairUp partners unique join rest seen
    | some (_, partner) =>
      match seen.findOrInsert e.key.fingerprint (· == e.key.labels) e.key.labels () with
      | (_, isNew, seen) =>
        if unique && !isNew then .error (.severalPartners e.key.labels)
        else do
          let joined ← pairUp partners unique join rest seen
          return (join e partner).toList ++ joined

def joinStep (op : BinaryOp) (matching : VectorMatching) (toBool : Bool)
    (left right : List (Keyed ι α)) : Except MatchFault (List (Joined ι α)) :=
  if left.isEmpty || right.isEmpty then .ok []
  else
    let join (l r : Keyed ι α) : Option (Joined ι α) :=
      (op.combine toBool l.value r.value).map fun v => ⟨l.item, r.item, v⟩
    let unique := matching.cardinality = .oneToOne
    if matching.cardinality.keepsRight then do
      let partners ← uniqueByKey true left
      pairUp partners unique (fun r l => join l r) right .empty
    else do
      let partners ← uniqueByKey false right
      pairUp partners unique join left .empty

/-- The metric of a matched pair: the labels of `many`, or of those only the match labels where
pairs are one to one, and the labels copied from `one`. -/
def resultMetric (op : BinaryOp) (matching : VectorMatching) (toBool : Bool) (many one : Metric) :
    Metric :=
  let base :=
    match matching.cardinality, matching.labels with
    | .oneToOne, some (.on names) => many.restrict { mode := .include, names }
    | _, _ => many
  let named :=
    if op.dropsMetricName toBool then base.toBuilder.remove metricName else base.toBuilder
  let matched :=
    match matching.cardinality, matching.labels with
    | .oneToOne, some (.ignoring names) => names.foldl Metric.Builder.remove named
    | _, _ => named
  let copied :=
    matching.copied.foldl (fun (b : Metric.Builder) name => b.label name (one.valueOf name)) matched
  copied.build

def hasPartner (others : List (Keyed ι α)) : Keyed ι α → Bool :=
  let keys := others.foldl (fun (index : FingerprintMap Labels Unit) e =>
    (index.findOrInsert e.key.fingerprint (· == e.key.labels) e.key.labels ()).2.2) .empty
  fun e => (keys.find? e.key.fingerprint (· == e.key.labels)).isSome

def setStep (op : BinaryOp) (left right : List (Keyed ι α)) : List (Keyed ι α) :=
  match op with
  | .intersection => left.filter (hasPartner right)
  | .union =>
    let inLeft := hasPartner left
    left ++ right.filter (!inLeft ·)
  | .difference =>
    let inRight := hasPartner right
    left.filter (!inRight ·)
  | _ => []

end SeriesQuery
