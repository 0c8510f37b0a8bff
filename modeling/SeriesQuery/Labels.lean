import SeriesQuery.SortedMap
import SeriesQuery.Text.Quoted

/-!
# Label sets

A label set maps names to values. Names are in ascending order, of two pairs with one name the
later counts, and an empty value is kept as it is. A filter admits the listed names or all but the
listed ones, and the metric name only if it is listed or the filter says so.
-/

namespace SeriesQuery

def metricName : String := "__name__"

def bucketLabel : String := "le"

abbrev Labels := SortedMap String String

namespace Labels

def name? (labels : Labels) : Option String := labels.get? metricName

def valueOf (labels : Labels) (name : String) : String := (labels.get? name).getD ""

def withoutName (labels : Labels) : Labels := labels.filter fun name _ => name != metricName

def display (labels : Labels) : String :=
  let pairs := labels.withoutName.toList.map fun (name, value) => name ++ "=" ++ Text.quote value
  labels.name?.getD "" ++ "\x7b" ++ String.intercalate ", " pairs ++ "\x7d"

end Labels

inductive FilterMode
  | include
  | exclude
deriving DecidableEq, Repr

structure LabelFilter where
  mode : FilterMode
  names : List String
  includeMetricName : Bool := false
deriving DecidableEq, Repr

namespace LabelFilter

def all : LabelFilter := ⟨.exclude, [], true⟩

def admits (f : LabelFilter) (name : String) : Bool :=
  match f.mode with
  | .include => f.names.contains name || (f.includeMetricName && name == metricName)
  | .exclude => !f.names.contains name && (f.includeMetricName || name != metricName)

end LabelFilter

namespace Labels

def admitted (labels : Labels) (f : LabelFilter) : List (String × String) :=
  labels.toList.filter fun e => f.admits e.1

def restrict (labels : Labels) (f : LabelFilter) : Labels :=
  labels.filter fun name _ => f.admits name

def agreeOn (a b : Labels) (f : LabelFilter) : Bool := a.admitted f == b.admitted f

end Labels

end SeriesQuery
