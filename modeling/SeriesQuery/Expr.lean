import SeriesQuery.Aggregation
import SeriesQuery.Expr.Operator
import SeriesQuery.Function
import SeriesQuery.Matcher
import SeriesQuery.Metric

/-!
# Expressions

An expression is a tree of literals, selectors, operators, aggregations and function calls. If a
selector selects nothing, the series that is missing has the labels that the selector's equality
matchers give. A label with several equality matchers is left out.
-/

namespace SeriesQuery

namespace LabelMatcher

/-- The labels named so far and the metric being built. -/
structure Wanted where
  seen : List String
  builder : Metric.Builder

def Wanted.push (w : Wanted) (m : LabelMatcher) : Wanted :=
  if m.name = metricName ∨ m.op ≠ .equal then w
  else if w.seen.contains m.name then { w with builder := w.builder.remove m.name }
  else ⟨m.name :: w.seen, w.builder.label m.name m.value⟩

/-- The metric that equality matchers describe, without the metric name. -/
def wanted (matchers : List LabelMatcher) : Metric :=
  (matchers.foldl Wanted.push ⟨[], .new⟩).builder.build

end LabelMatcher

/-- The series that satisfy all matchers, looked at some time before the evaluation. -/
structure Selector where
  /-- The metric name as it is displayed; what is selected is in the matchers alone. -/
  name : Option String
  matchers : List LabelMatcher
  offset : Int
deriving DecidableEq

def Selector.named (name : String) (more : List LabelMatcher := []) (offset : Int := 0) :
    Selector :=
  ⟨some name, .metricNamed name :: more, offset⟩

inductive Expr (α : Type)
  | number (v : α)
  | string (text : String)
  | selector (s : Selector)
  | range (s : Selector) (duration : Int)
  | negate (operand : Expr α)
  | binary (op : BinaryOp) (left right : Expr α) (matching : VectorMatching) (toBool : Bool)
  | aggregate (op : AggregateOp) (operand : Expr α) (param : Option (Expr α)) (grouping : Grouping)
  | call (f : Function) (args : List (Expr α))

namespace Expr

variable {α : Type}

def binaryDefault (op : BinaryOp) (left right : Expr α) : Expr α :=
  binary op left right (.default op) false

def valueType : Expr α → ValueType
  | number _ => .scalar
  | string _ => .string
  | selector _ => .vector
  | range _ _ => .matrix
  | negate e => e.valueType
  | binary _ l r _ _ => if l.valueType = .scalar ∧ r.valueType = .scalar then .scalar else .vector
  | aggregate _ _ _ _ => .vector
  | call f _ => f.signature.result

mutual

def nodeCount : Expr α → Nat
  | number _ | string _ | selector _ | range _ _ => 1
  | negate e => 1 + e.nodeCount
  | binary _ l r _ _ => 1 + (l.nodeCount + r.nodeCount)
  | aggregate _ e param _ => 1 + (e.nodeCount + nodeCountParam param)
  | call _ args => 1 + nodeCountArgs args

def nodeCountParam : Option (Expr α) → Nat
  | none => 0
  | some e => e.nodeCount

def nodeCountArgs : List (Expr α) → Nat
  | [] => 0
  | e :: rest => e.nodeCount + nodeCountArgs rest

end

def selectorMatchers : Expr α → List LabelMatcher
  | selector s => s.matchers
  | _ => []

/-- The metric reported where an expression has no element; only a plain selector has labels. -/
def absentMetric (e : Expr α) : Metric := LabelMatcher.wanted e.selectorMatchers

end Expr

end SeriesQuery
