import SeriesQuery.Expr

/-!
# The text of an expression

Binary operations are written in parentheses, durations in milliseconds, and labels with the
quoting of matchers. A matcher on the displayed name is left out.
-/

namespace SeriesQuery

def Selector.display (s : Selector) : String :=
  let shown := s.matchers.filter fun m => !(m.name == metricName && s.name == some m.value)
  let braces :=
    if !shown.isEmpty || s.name.isNone then
      "\x7b" ++ String.intercalate ", " (shown.map LabelMatcher.display) ++ "\x7d"
    else ""
  s.name.getD "" ++ braces ++ (if s.offset = 0 then "" else s!" offset {s.offset}ms")

def displayNames (names : List String) : String := "(" ++ String.intercalate ", " names ++ ")"

def VectorMatching.display (m : VectorMatching) : String :=
  (match m.labels with
    | some (.on names) => " on" ++ displayNames names
    | some (.ignoring names) => " ignoring" ++ displayNames names
    | none => "") ++
  (match m.cardinality with
    | .manyToOne => " group_left" ++ displayNames m.copied
    | .oneToMany => " group_right" ++ displayNames m.copied
    | _ => "")

def Grouping.display : Grouping → String
  | keeping [] => ""
  | keeping names => " by " ++ displayNames names
  | dropping names => " without " ++ displayNames names

namespace Expr

variable {α : Type} [SampleValue α]

mutual

def display : Expr α → String
  | number v => SampleValue.literal v
  | string text => Text.quote text
  | selector s => s.display
  | range s duration => s.display ++ s!"[{duration}ms]"
  | negate e => "-" ++ e.display
  | binary op l r matching toBool =>
    "(" ++ l.display ++ " " ++ op.symbol ++ (if toBool then " bool" else "") ++ matching.display ++
      " " ++ r.display ++ ")"
  | aggregate op e param grouping =>
    op.name ++ grouping.display ++ " (" ++ displayParam param ++ e.display ++ ")"
  | call f args => f.name ++ "(" ++ String.intercalate ", " (displayArgs args) ++ ")"

def displayParam : Option (Expr α) → String
  | none => ""
  | some e => e.display ++ ", "

def displayArgs : List (Expr α) → List String
  | [] => []
  | e :: rest => e.display :: displayArgs rest

end

end Expr

end SeriesQuery
