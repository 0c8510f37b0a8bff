import SeriesQuery.Expr
import SeriesQuery.Query.Reader
import SeriesQuery.QueryError

/-!
# From queries to expressions

Parentheses vanish, a metric name becomes the first matcher, and what cannot be evaluated is
refused.
-/

namespace SeriesQuery

namespace Query

def Constraint.matcher (c : Constraint) : Except QueryError LabelMatcher :=
  (LabelMatcher.of? c.name c.op c.value).mapError fun e => .invalidArgument (.selectorPattern e)

def Selection.toSelector (s : Selection) : Except QueryError Selector := do
  if s.pinned then throw (.parse .atModifier)
  if s.hasAlternatives then throw (.parse .orBetweenMatchers)
  let matchers ← s.constraints.mapM Constraint.matcher
  let named := match s.name with
    | some name =>
      if matchers.any fun m => m.name = metricName ∧ m.value = name then matchers
      else .metricNamed name :: matchers
    | none => matchers
  let offset ← match s.offset with
    | some o => o.toMillis.mapError .overflow
    | none => .ok 0
  return { name := s.name, matchers := named, offset }

def Operator.toBinaryOp : Operator → Except QueryError BinaryOp
  | known op => .ok op
  | atan2 => .error (.parse (.unsupportedOperator "atan2"))

def Modifiers.matching (m : Modifiers) (op : BinaryOp) : VectorMatching where
  cardinality := if op.isSet then .manyToMany else (m.group.map Prod.fst).getD .oneToOne
  labels := m.labels
  copied := (m.group.map Prod.snd).getD []

variable {α : Type}

mutual

def toExpr : Query α → Except QueryError (Expr α)
  | number v => .ok (.number v)
  | string text => .ok (.string text)
  | selector s => do return .selector (← s.toSelector)
  | range s duration => do return .range (← s.toSelector) duration
  | subquery _ _ => .error (.parse .subquery)
  | paren q => q.toExpr
  | negate q => do return .negate (← q.toExpr)
  | binary op l r m => do
    let op ← op.toBinaryOp
    return .binary op (← l.toExpr) (← r.toExpr) (m.matching op) m.toBool
  | aggregate op q param grouping => do
    let param ← toExprParam param
    return .aggregate op (← q.toExpr) param grouping
  | call f args =>
    match Function.ofName? f.name with
    | none => .error (.unknownFunction f.name)
    | some f => do return .call f (← toExprArgs args)

def toExprParam : Option (Query α) → Except QueryError (Option (Expr α))
  | none => .ok none
  | some q => do return some (← q.toExpr)

def toExprArgs : List (Query α) → Except QueryError (List (Expr α))
  | [] => .ok []
  | q :: rest => do
    let e ← q.toExpr
    return e :: (← toExprArgs rest)

end

end Query

def Expr.ofText {α : Type} [SampleValue α] (text : String) : Except QueryError (Expr α) :=
  match (Query.ofText? text : Option (Query α)) with
  | none => .error (.parse .grammar)
  | some q => q.toExpr

end SeriesQuery
