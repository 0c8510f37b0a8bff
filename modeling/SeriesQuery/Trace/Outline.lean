import SeriesQuery.Service
import SeriesQuery.Trace

/-!
# Outlines of evaluations

The spans that an evaluation goes through if nothing fails. Literals have none, and every other
node of an expression has one, with those of its operands inside.
-/

namespace SeriesQuery

mutual

def SpanTree.size : SpanTree → Nat
  | .node _ inner => 1 + SpanTree.sizeAll inner

def SpanTree.sizeAll : List SpanTree → Nat
  | [] => 0
  | t :: rest => t.size + sizeAll rest

end

namespace Expr

variable {α : Type}

mutual

/-- How many nodes are not literals. -/
def operationCount : Expr α → Nat
  | number _ | string _ => 0
  | selector _ | range _ _ => 1
  | negate e => 1 + e.operationCount
  | binary _ l r _ _ => 1 + (l.operationCount + r.operationCount)
  | aggregate _ e param _ => 1 + (operationCountParam param + e.operationCount)
  | call _ args => 1 + operationCountArgs args

def operationCountParam : Option (Expr α) → Nat
  | none => 0
  | some e => e.operationCount

def operationCountArgs : List (Expr α) → Nat
  | [] => 0
  | e :: rest => e.operationCount + operationCountArgs rest

end

mutual

/-- The spans of an expression, of which a literal has none. -/
def spanTrees : Expr α → List SpanTree
  | number _ | string _ => []
  | selector _ => [.node "selector" []]
  | range _ _ => [.node "range_selector" []]
  | negate e => [.node "unary" e.spanTrees]
  | binary _ l r _ _ => [.node "binary" (l.spanTrees ++ r.spanTrees)]
  | aggregate _ e param _ => [.node "aggregate" (spanTreesParam param ++ e.spanTrees)]
  | call _ args => [.node "call" (spanTreesArgs args)]

def spanTreesParam : Option (Expr α) → List SpanTree
  | none => []
  | some e => e.spanTrees

def spanTreesArgs : List (Expr α) → List SpanTree
  | [] => []
  | e :: rest => e.spanTrees ++ spanTreesArgs rest

end

end Expr

namespace Strategy

variable {α : Type}

/-- The spans of an evaluation: once for all frames, or once for each. -/
def outline (strategy : Strategy) (c : Context α) (e : Expr α) : SpanTree :=
  match strategy with
  | batch => .node "engine.evaluate" e.spanTrees
  | interpreter =>
    .node "interpreter.evaluate" (List.replicate c.frames.len (.node "step" e.spanTrees))

def spanCount (strategy : Strategy) (c : Context α) (e : Expr α) : Nat :=
  match strategy with
  | batch => 1 + e.operationCount
  | interpreter => 1 + c.frames.len * (1 + e.operationCount)

end Strategy

end SeriesQuery
