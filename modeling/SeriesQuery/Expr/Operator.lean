import SeriesQuery.Labels

/-!
# Binary operators and vector matching

Operators are arithmetic, comparisons or set operators. Between two vectors a matching says which
labels have to agree, on which side several series may share them, and which labels are copied
from the other side.
-/

namespace SeriesQuery

inductive BinaryOp
  | add | sub | mul | div | mod | pow
  | eq | ne | gt | lt | ge | le
  | intersection | union | difference
deriving DecidableEq, Repr

namespace BinaryOp

def all : List BinaryOp :=
  [add, sub, mul, div, mod, pow, eq, ne, gt, lt, ge, le, intersection, union,
    difference]

def isComparison : BinaryOp → Bool
  | eq | ne | gt | lt | ge | le => true
  | _ => false

def isSet : BinaryOp → Bool
  | intersection | union | difference => true
  | _ => false

def symbol : BinaryOp → String
  | add => "+"
  | sub => "-"
  | mul => "*"
  | div => "/"
  | mod => "%"
  | pow => "^"
  | eq => "=="
  | ne => "!="
  | gt => ">"
  | lt => "<"
  | ge => ">="
  | le => "<="
  | intersection => "and"
  | union => "or"
  | difference => "unless"

def ofSymbol? (s : String) : Option BinaryOp := all.find? (·.symbol = s)

end BinaryOp

/-- On which side several series may have the same match labels. -/
inductive Cardinality
  | oneToOne
  | manyToOne
  | oneToMany
  | manyToMany
deriving DecidableEq, Repr

namespace Cardinality

def name : Cardinality → String
  | oneToOne => "OneToOne"
  | manyToOne => "ManyToOne"
  | oneToMany => "OneToMany"
  | manyToMany => "ManyToMany"

def keepsRight : Cardinality → Bool
  | oneToMany => true
  | _ => false

end Cardinality

/-- The labels that decide which series belong together. -/
inductive MatchLabels
  | on (names : List String)
  | ignoring (names : List String)
deriving DecidableEq, Repr

structure VectorMatching where
  cardinality : Cardinality
  labels : Option MatchLabels
  /-- Labels copied from the side where match labels are unique. -/
  copied : List String
deriving DecidableEq, Repr

namespace VectorMatching

/-- All labels but the metric name have to agree. -/
def oneToOne : VectorMatching := ⟨.oneToOne, none, []⟩

def default (op : BinaryOp) : VectorMatching :=
  if op.isSet then { oneToOne with cardinality := .manyToMany } else oneToOne

def filter (m : VectorMatching) : LabelFilter :=
  match m.labels with
  | some (.on names) => { mode := .include, names }
  | some (.ignoring names) => { mode := .exclude, names }
  | none => { mode := .exclude, names := [] }

def copiesMatchLabel (m : VectorMatching) : Bool :=
  match m.labels with
  | some (.on names) => m.copied.any names.contains
  | _ => false

end VectorMatching

inductive Grouping
  | keeping (names : List String)
  | dropping (names : List String)
deriving DecidableEq, Repr

def Grouping.filter : Grouping → LabelFilter
  | .keeping names => { mode := .include, names }
  | .dropping names => { mode := .exclude, names }

end SeriesQuery
