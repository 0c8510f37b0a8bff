import SeriesQuery.Sample
import SeriesQuery.FingerprintMap

/-!
# Tables of series

A table keeps its series in buckets, one for each fingerprint, and counts them as they come and
go. Within a bucket series are in order of their labels. A series that is written is looked for
there by halving, and one that is read or removed by going through the bucket.
-/

namespace SeriesQuery

structure SeriesTable (ν : Type) where
  buckets : SortedMap Fingerprint (List (Metric × ν))
  size : Nat

namespace SeriesTable

variable {ν μ : Type}

/-- Where a series stands in a bucket, or where it belongs. -/
inductive Position
  | taken (i : Nat)
  | free (i : Nat)
deriving DecidableEq, Repr

def search (m : Metric) (bucket : List (Metric × ν)) : Position :=
  let i := partitionPoint (fun e => (Metric.compareLabels e.1 m).isLE) bucket.toArray
  if bucket[i - 1]?.any fun e => Metric.compareLabels e.1 m == .eq then .taken (i - 1) else .free i

def empty : SeriesTable ν := ⟨.empty, 0⟩

def isEmpty (t : SeriesTable ν) : Bool := t.size == 0

def bucket (t : SeriesTable ν) (fp : Fingerprint) : List (Metric × ν) :=
  (t.buckets.get? fp).getD []

def get? (t : SeriesTable ν) (m : Metric) : Option ν :=
  ((t.bucket m.fingerprint).find? (·.1 == m)).map Prod.snd

def contains (t : SeriesTable ν) (m : Metric) : Bool := (t.get? m).isSome

def toList (t : SeriesTable ν) : List (Metric × ν) := t.buckets.toList.flatMap Prod.snd

def metrics (t : SeriesTable ν) : List Metric := t.toList.map Prod.fst

def values (t : SeriesTable ν) : List ν := t.toList.map Prod.snd

/-- Tables are compared bucket by bucket, with whatever equality the values have. -/
instance [BEq ν] : BEq (SeriesTable ν) :=
  ⟨fun t t' => t.buckets.toList == t'.buckets.toList && t.size == t'.size⟩

/-- The table with another bucket for a fingerprint. A bucket without entries is not kept. -/
def withBucket (t : SeriesTable ν) (fp : Fingerprint) (entries : List (Metric × ν)) (size : Nat) :
    SeriesTable ν :=
  ⟨t.buckets.alter fp fun _ => if entries.isEmpty then none else some entries, size⟩

/-- Writes a value that may depend on what the series had before, which is returned. -/
def write (t : SeriesTable ν) (m : Metric) (value : Option ν → ν) : Option ν × SeriesTable ν :=
  let entries := t.bucket m.fingerprint
  match search m entries with
  | .taken i =>
    (entries[i]?.map Prod.snd, t.withBucket m.fingerprint
      (entries.modify i fun e => (e.1, value (some e.2))) t.size)
  | .free i =>
    (none, t.withBucket m.fingerprint (entries.insertIdx i (m, value none)) (t.size + 1))

def insert (t : SeriesTable ν) (m : Metric) (v : ν) : Option ν × SeriesTable ν :=
  t.write m fun _ => v

/-- Changes the value of a series, after a first one was inserted if there was none, and returns
it. -/
def getOrInsert (t : SeriesTable ν) (m : Metric) (first : ν) (change : ν → ν) :
    ν × SeriesTable ν :=
  let (old, changed) := t.write m fun old => change (old.getD first)
  (change (old.getD first), changed)

def modify (t : SeriesTable ν) (m : Metric) (change : ν → ν) : Option ν × SeriesTable ν :=
  ((t.get? m).map change, t.withBucket m.fingerprint
    (FingerprintMap.modifyFirst (· == m) change (t.bucket m.fingerprint)) t.size)

def remove (t : SeriesTable ν) (m : Metric) : Option ν × SeriesTable ν :=
  let entries := t.bucket m.fingerprint
  match entries.findIdx? (·.1 == m) with
  | some i =>
    (entries[i]?.map Prod.snd,
      t.withBucket m.fingerprint (entries.eraseIdx i) (t.size - 1))
  | none => (none, t)

/-- Changes the values of a bucket and leaves out the entries without one. -/
def retainIn (keep : Metric → ν → Option μ) (entries : List (Metric × ν)) : List (Metric × μ) :=
  entries.filterMap fun e => (keep e.1 e.2).map (e.1, ·)

def retain (t : SeriesTable ν) (keep : Metric → ν → Option ν) : SeriesTable ν :=
  let removed := t.buckets.values.map fun entries => entries.length - (retainIn keep entries).length
  let buckets := t.buckets.filterMap fun _ entries =>
    if (retainIn keep entries).isEmpty then none else some (retainIn keep entries)
  ⟨buckets, t.size - removed.foldr (· + ·) 0⟩

def mapValues (t : SeriesTable ν) (f : Metric → ν → μ) : SeriesTable μ :=
  ⟨t.buckets.mapValues fun _ entries => entries.map fun e => (e.1, f e.1 e.2), t.size⟩

def insertAll (t : SeriesTable ν) (entries : List (Metric × ν)) : SeriesTable ν :=
  entries.foldl (fun t e => (t.insert e.1 e.2).2) t

def ofList (entries : List (Metric × ν)) : SeriesTable ν := empty.insertAll entries

end SeriesTable

end SeriesQuery
