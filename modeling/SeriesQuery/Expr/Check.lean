import SeriesQuery.Expr
import SeriesQuery.QueryError

/-!
# Type checking

The check finds the type of an expression or the first fault in it, operands before operators and
in the order in which they are written.
-/

namespace SeriesQuery

namespace Selector

/-- A selector must not select every series there is. -/
def check (s : Selector) : Except TypeFault Unit :=
  if s.matchers.all LabelMatcher.admitsMissing then .error .selectorAdmitsAll else .ok ()

end Selector

def ValueType.isOperand : ValueType → Bool
  | scalar => true
  | vector => true
  | _ => false

def checkBinary (op : BinaryOp) (matching : VectorMatching) (toBool : Bool) (l r : ValueType) :
    Except TypeFault ValueType :=
  let both := l = .vector ∧ r = .vector
  if !l.isOperand then .error (.binaryOperand l)
  else if !r.isOperand then .error (.binaryOperand r)
  else if toBool && !op.isComparison then .error (.boolWithoutComparison op)
  else if op.isSet ∧ ¬both then .error (.setOperatorOnScalar op)
  else if ¬both ∧ (matching.labels.isSome ∨ matching.cardinality ≠ .oneToOne) then
    .error .matchingOnScalar
  else if both ∧ op.isSet ≠ decide (matching.cardinality = .manyToMany) then
    .error (.unsupportedCardinality op matching.cardinality)
  else if both ∧ matching.copiesMatchLabel then .error .labelOnAndCopied
  else if l = .scalar ∧ r = .scalar then
    if op.isComparison && !toBool then .error .scalarComparisonWithoutBool else .ok .scalar
  else .ok .vector

def Signature.admitsCount (s : Signature) (count : Nat) : Bool :=
  s.required ≤ count && (s.variadic || count ≤ s.args.length)

/-- The type expected at a position; the last argument of a variadic function is repeated. -/
def Signature.argType (s : Signature) (i : Nat) : ValueType :=
  s.args.getD (min i (s.args.length - 1)) .scalar

namespace Expr

variable {α : Type} [SampleValue α]

mutual

def check : Expr α → Except TypeFault ValueType
  | number _ => .ok .scalar
  | string _ => .ok .string
  | selector s => do
    s.check
    return .vector
  | range s duration => do
    s.check
    if duration ≤ 0 then .error (.rangeNotPositive duration) else .ok .matrix
  | negate e => do
    let t ← e.check
    if t.isOperand then .ok t else .error (.negated t)
  | binary op l r matching toBool => do
    let lt ← l.check
    let rt ← r.check
    checkBinary op matching toBool lt rt
  | aggregate op e param _ => do
    let t ← e.check
    if t = .vector then
      checkParam op param
      return .vector
    else .error (.aggregated t)
  | call f args =>
    if f.signature.admitsCount args.length then do
      checkArgs f 0 args
      return f.signature.result
    else .error (.argumentCount f f.signature.required args.length)

def checkParam (op : AggregateOp) : Option (Expr α) → Except TypeFault Unit
  | none => if op.parameterType.isSome then .error (.parameterMissing op) else .ok ()
  | some e =>
    match op.parameterType with
    | none => .error (.parameterUnexpected op)
    | some expected => do
      let got ← e.check
      if got = expected then .ok () else .error (.parameterType op expected got)

def checkArgs (f : Function) (i : Nat) : List (Expr α) → Except TypeFault Unit
  | [] => .ok ()
  | e :: rest => do
    let got ← e.check
    if got = f.signature.argType i then checkArgs f (i + 1) rest
    else .error (.argumentType f (f.signature.argType i) got)

end

end Expr

end SeriesQuery
