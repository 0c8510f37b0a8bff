/-!
# Kinds of values

An expression yields a number, a text, one value per series or a window of samples per series.
-/

namespace SeriesQuery

inductive ValueType
  | scalar
  | string
  | vector
  | matrix
deriving DecidableEq, Repr

def ValueType.name : ValueType → String
  | scalar => "scalar"
  | string => "string"
  | vector => "instant vector"
  | matrix => "range vector"

end SeriesQuery
