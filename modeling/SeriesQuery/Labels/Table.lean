import SeriesQuery.Labels
import SeriesQuery.SeriesTable

/-!
# Labels in a row

Label sets are stored as rows of pairs. A name is looked for by halving, and a new pair takes the
place of one with its name or moves those behind it up by one.
-/

namespace SeriesQuery

open SeriesTable (Position)

structure LabelTable where
  toList : List (String × String)
deriving DecidableEq, Repr

namespace LabelTable

def empty : LabelTable := ⟨[]⟩

def of (labels : Labels) : LabelTable := ⟨labels.toList⟩

def search (t : LabelTable) (name : String) : Position :=
  let i := partitionPoint (fun e => (compare e.1 name).isLE) t.toList.toArray
  if t.toList[i - 1]?.any fun e => compare e.1 name == .eq then .taken (i - 1) else .free i

def insert (t : LabelTable) (pair : String × String) : LabelTable :=
  match t.search pair.1 with
  | .taken i => ⟨t.toList.set i pair⟩
  | .free i => ⟨t.toList.insertIdx i pair⟩

def ofList (pairs : List (String × String)) : LabelTable := pairs.foldl insert empty

def get? (t : LabelTable) (name : String) : Option String :=
  match t.search name with
  | .taken i => t.toList[i]?.map Prod.snd
  | .free _ => none

def contains (t : LabelTable) (name : String) : Bool := (t.get? name).isSome

def withoutName (t : LabelTable) : LabelTable :=
  if !t.contains metricName then t else ⟨t.toList.filter fun e => e.1 != metricName⟩

def filtered (t : LabelTable) (f : LabelFilter) : List (String × String) :=
  t.toList.filter fun e => f.admits e.1

def retain (t : LabelTable) (f : LabelFilter) : LabelTable := ⟨t.filtered f⟩

def filteredEq (t u : LabelTable) (f : LabelFilter) : Bool := t.filtered f == u.filtered f

end LabelTable

end SeriesQuery
