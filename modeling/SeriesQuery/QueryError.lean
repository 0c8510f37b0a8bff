import SeriesQuery.Aggregation
import SeriesQuery.Expr.Operator
import SeriesQuery.Function
import SeriesQuery.Gateway
import SeriesQuery.Time.Frames

/-!
# Why a query fails

A query yields its whole result or exactly one error. Errors are kept as causes; their wording is
in the `message` functions. An overflow ends a query like an error.
-/

namespace SeriesQuery

/-- Operands or arguments that do not fit together. -/
inductive TypeFault
  | selectorAdmitsAll
  | rangeNotPositive (range : Int)
  | negated (got : ValueType)
  | binaryOperand (got : ValueType)
  | boolWithoutComparison (op : BinaryOp)
  | setOperatorOnScalar (op : BinaryOp)
  | matchingOnScalar
  | unsupportedCardinality (op : BinaryOp) (c : Cardinality)
  | labelOnAndCopied
  | scalarComparisonWithoutBool
  | aggregated (got : ValueType)
  | parameterType (op : AggregateOp) (expected got : ValueType)
  | parameterMissing (op : AggregateOp)
  | parameterUnexpected (op : AggregateOp)
  | argumentCount (f : Function) (required got : Nat)
  | argumentType (f : Function) (expected got : ValueType)
  | rangeResult
  | unexpectedValue (got : ValueType)
  | missingArgument
  | windowExpected (f : Function)
  | literalExpected (got : ValueType)
deriving DecidableEq, Repr

def TypeFault.message : TypeFault → String
  | selectorAdmitsAll => "vector selector must contain at least one non-empty matcher"
  | rangeNotPositive range => s!"range must be positive, got {range}ms"
  | negated got => "unary expression only allowed on scalar or instant vector, got " ++ got.name
  | binaryOperand got =>
    "binary expression must contain only scalar and instant vector types, got " ++ got.name
  | boolWithoutComparison op =>
    "bool modifier can only be used on comparison operators, not " ++ op.symbol
  | setOperatorOnScalar op =>
    s!"set operator {op.symbol} not allowed in binary scalar expression"
  | matchingOnScalar => "vector matching only allowed between instant vectors"
  | unsupportedCardinality op c => s!"operator {op.symbol} does not support {c.name} matching"
  | labelOnAndCopied => "label must not occur in ON and GROUP clause at once"
  | scalarComparisonWithoutBool => "comparisons between scalars must use BOOL modifier"
  | aggregated got =>
    "expected type instant vector in aggregation expression, got " ++ got.name
  | parameterType op expected got =>
    s!"expected type {expected.name} in {op.name} parameter, got {got.name}"
  | parameterMissing op => op.name ++ " requires a parameter"
  | parameterUnexpected op => op.name ++ " does not take a parameter"
  | argumentCount f required got =>
    s!"wrong number of arguments for {f.name}: expected {required}, got {got}"
  | argumentType f expected got =>
    s!"expected type {expected.name} in call to function {f.name}, got {got.name}"
  | rangeResult => "range vector results are only supported for instant queries"
  | unexpectedValue got => "unexpected " ++ got.name
  | missingArgument => "missing argument"
  | windowExpected f => f.name ++ " expects a range vector selector"
  | literalExpected got => "expected string literal, got " ++ got.name

inductive MatchFault
  | duplicateOnOneSide (key : Labels) (left : Bool)
  | severalPartners (key : Labels)
  | resultNotUnique (metric : Metric)
deriving DecidableEq

def MatchFault.message : MatchFault → String
  | duplicateOnOneSide key left =>
    "found duplicate series for the match group " ++ key.display ++ " on the " ++
      (if left then "left" else "right") ++ " hand-side of the operation; many-to-many matching " ++
      "not allowed: matching labels must be unique on one side"
  | severalPartners key =>
    "multiple matches for labels " ++ key.display ++
      ": many-to-one matching must be explicit (group_left/group_right)"
  | resultNotUnique metric =>
    "multiple matches for labels " ++ metric.display ++
      ": grouping labels must ensure unique matches"

inductive ArgumentFault
  | labelName (name : String)
  | replacePattern
  | selectorPattern (e : InvalidPattern)
  | smoothingFactor (text : String)
  | trendFactor (text : String)
deriving DecidableEq, Repr

def ArgumentFault.message : ArgumentFault → String
  | labelName name => "invalid label name " ++ Text.quote name
  | replacePattern => "invalid regular expression in label_replace()"
  | selectorPattern e => e.message
  | smoothingFactor text => "invalid smoothing factor. Expected: 0 < sf < 1, got: " ++ text
  | trendFactor text => "invalid trend factor. Expected: 0 < tf < 1, got: " ++ text

inductive ParseFault
  | grammar
  | subquery
  | atModifier
  | orBetweenMatchers
  | unsupportedOperator (symbol : String)
deriving DecidableEq, Repr

def ParseFault.message : ParseFault → String
  | grammar => "invalid query"
  | subquery => "subqueries are not supported"
  | atModifier => "@ modifier is not supported"
  | orBetweenMatchers => "'or' inside label matchers is not supported"
  | unsupportedOperator symbol => "unsupported binary operator: " ++ symbol

inductive QueryError
  | invalidRange (e : InvalidRange)
  | typeMismatch (fault : TypeFault)
  | multipleMatch (fault : MatchFault)
  | deadlineExceeded
  | gateway (e : GatewayError)
  | duplicateSeries (metric : Metric)
  | unknownFunction (name : String)
  | invalidArgument (fault : ArgumentFault)
  | parse (fault : ParseFault)
  /-- Not an error that is handed to whoever asked: the calculation itself breaks off. -/
  | overflow (fault : Overflow)
deriving DecidableEq

def QueryError.message : QueryError → String
  | invalidRange e => e.message
  | typeMismatch fault => "Type mismatch: " ++ fault.message
  | multipleMatch fault => "Multiple matches: " ++ fault.message
  | deadlineExceeded => "Query deadline exceeded"
  | gateway e => e.message
  | duplicateSeries metric =>
    "Vector cannot contain metrics with the same labelset: " ++ metric.display
  | unknownFunction name => "Unknown function: " ++ name
  | invalidArgument fault => "Invalid argument: " ++ fault.message
  | parse fault => "PromQL parse error: " ++ fault.message
  | overflow fault => fault.message

end SeriesQuery
