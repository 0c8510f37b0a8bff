import SeriesQuery.Aggregation
import SeriesQuery.Expr.Operator
import SeriesQuery.Query.Function
import SeriesQuery.Query.Matcher
import SeriesQuery.Time

/-!
# Queries

A query is what a query text says, parentheses included. It may use more of the language than can
be evaluated. The rules of the language that look at one place in a query at a time are here: what
types may meet, and which modifiers may follow what.
-/

namespace SeriesQuery

namespace Query

/-- How many milliseconds a selection looks back, or ahead if it is negative. -/
structure Offset where
  negative : Bool
  millis : Int
deriving DecidableEq, Repr

def Offset.toMillis (o : Offset) : Except Overflow Int :=
  if o.negative then Millis.negated o.millis else .ok o.millis

structure Selection where
  name : Option String
  constraints : List Constraint
  /-- Whether some constraints are alternatives of others. -/
  hasAlternatives : Bool := false
  offset : Option Offset := none
  /-- Whether the time of evaluation is fixed. -/
  pinned : Bool := false

inductive Operator
  | known (op : BinaryOp)
  | atan2
deriving DecidableEq, Repr

namespace Operator

def isComparison : Operator → Bool
  | known op => op.isComparison
  | atan2 => false

def isSet : Operator → Bool
  | known op => op.isSet
  | atan2 => false

end Operator

/-- What may stand between a binary operator and its right operand. -/
structure Modifiers where
  toBool : Bool := false
  labels : Option MatchLabels := none
  /-- The side with several series per match group and the labels copied to it. -/
  group : Option (Cardinality × List String) := none
deriving DecidableEq, Repr

end Query

inductive Query (α : Type)
  | number (v : α)
  | string (text : String)
  | selector (s : Query.Selection)
  | range (s : Query.Selection) (duration : Int)
  /-- A query over a range, of which only the modifiers matter. -/
  | subquery (hasOffset pinned : Bool)
  | paren (inner : Query α)
  | negate (operand : Query α)
  | binary (op : Query.Operator) (left right : Query α) (modifiers : Query.Modifiers)
  | aggregate (op : AggregateOp) (operand : Query α) (param : Option (Query α))
      (grouping : Grouping)
  | call (f : Query.KnownFunction) (args : List (Query α))

namespace Query

variable {α : Type}

def valueType : Query α → ValueType
  | number _ => .scalar
  | string _ => .string
  | selector _ => .vector
  | range _ _ => .matrix
  | subquery _ _ => .matrix
  | paren q => q.valueType
  | negate q => q.valueType
  | binary _ l r _ => if l.valueType = .scalar ∧ r.valueType = .scalar then .scalar else .vector
  | aggregate _ _ _ _ => .vector
  | call f _ => f.result

/-- The metric name must not be given twice, and something has to be selected. -/
def ofSelection? (s : Selection) : Option (Query α) :=
  match s.name with
  | some _ => if s.constraints.any (·.name = metricName) then none else some (selector s)
  | none => if s.constraints.all Constraint.admitsMissing then none else some (selector s)

/-- A range can be taken of a selection to which no modifier belongs yet. -/
def withRange? (duration : Int) : Query α → Option (Query α)
  | selector s => if s.offset.isSome || s.pinned then none else some (range s duration)
  | _ => none

/-- Only vectors have a history. -/
def withSubquery? (q : Query α) : Option (Query α) :=
  if q.valueType = .vector then some (subquery false false) else none

/-- An offset can be given once, right after what is selected. -/
def withOffset? (offset : Offset) : Query α → Option (Query α)
  | selector s => if s.offset.isSome then none else some (selector { s with offset })
  | range s d => if s.offset.isSome then none else some (range { s with offset } d)
  | subquery hasOffset pinned => if hasOffset then none else some (subquery true pinned)
  | _ => none

/-- The time of evaluation can be fixed once, right after what is selected. -/
def withPin? : Query α → Option (Query α)
  | selector s => if s.pinned then none else some (selector { s with pinned := true })
  | range s d => if s.pinned then none else some (range { s with pinned := true } d)
  | subquery hasOffset pinned => if pinned then none else some (subquery hasOffset true)
  | _ => none

def isOperandType : ValueType → Bool
  | .scalar => true
  | .vector => true
  | _ => false

/-- The sign of a number literal becomes a part of it. -/
def withMinus? [Neg α] (q : Query α) : Option (Query α) :=
  if isOperandType q.valueType then
    match q with
    | number v => some (number (-v))
    | q => some (negate q)
  else none

def Modifiers.copiesMatchLabel (m : Modifiers) : Bool :=
  match m.labels, m.group with
  | some (.on names), some (_, copied) => copied.any names.contains
  | _, _ => false

def Modifiers.namesLabels (m : Modifiers) : Bool :=
  match m.labels with
  | some (.on names) => !names.isEmpty
  | some (.ignoring names) => !names.isEmpty
  | none => false

def ofBinary? (op : Operator) (l r : Query α) (m : Modifiers) : Option (Query α) :=
  let lt := l.valueType
  let rt := r.valueType
  let fits :=
    (!m.toBool || op.isComparison) &&
    !(op.isComparison && lt = .scalar && rt = .scalar && !m.toBool) &&
    !m.copiesMatchLabel &&
    !(op.isSet && (lt = .scalar || rt = .scalar || m.group.isSome)) &&
    isOperandType lt && isOperandType rt &&
    !((lt ≠ .vector || rt ≠ .vector) && m.namesLabels)
  if fits then some (binary op l r m) else none

def ofAggregate? (op : AggregateOp) (grouping : Grouping) (args : List (Query α)) :
    Option (Query α) :=
  match op.parameterType, args with
  | none, [q] => if q.valueType = .vector then some (aggregate op q none grouping) else none
  | some expected, [param, q] =>
    if q.valueType = .vector ∧ param.valueType = expected then
      some (aggregate op q (some param) grouping)
    else none
  | _, _ => none

/-- Whether a function is called with a literal at which its value is known without its type. -/
def isKnownValue [Numeric α] (f : KnownFunction) (args : List (Query α)) : Bool :=
  match args with
  | number v :: _ =>
    let extreme := Numeric.isNaN v || Numeric.isInfinite v
    if f.name = "exp" then extreme
    else if ["ln", "log2", "log10"].contains f.name then extreme || Numeric.le v Numeric.zero
    else false
  | _ => false

/-- A call with as many arguments as the function takes and of the types it expects. -/
def ofCall? [Numeric α] (f : KnownFunction) (args : List (Query α)) : Option (Query α) :=
  let typed := args.zipIdx.all fun (q, i) => q.valueType = f.argType i
  if f.admitsCount args.length && (isKnownValue f args || typed) then some (call f args) else none

end Query

end SeriesQuery
