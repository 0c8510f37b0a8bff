import SeriesQuery.Labels
import SeriesQuery.Pattern.Match

/-!
# Label matchers

A matcher constrains the value of one label, where a missing label counts as empty. A regular
expression is put between anchors before it is read.
-/

namespace SeriesQuery

inductive MatchOp
  | equal
  | notEqual
  | regex
  | notRegex
deriving DecidableEq, Repr

namespace MatchOp

def symbol : MatchOp → String
  | equal => "="
  | notEqual => "!="
  | regex => "=~"
  | notRegex => "!~"

def ofSymbol? : String → Option MatchOp
  | "=" => some equal
  | "!=" => some notEqual
  | "=~" => some regex
  | "!~" => some notRegex
  | _ => none

def isRegex : MatchOp → Bool
  | regex => true
  | notRegex => true
  | _ => false

end MatchOp

def Pattern.anchored? (pattern : String) : Option Pattern :=
  Pattern.ofString? ("^(?:" ++ pattern ++ ")$")

/-- A constraint on a label; for a regular expression, with the pattern read from its text. -/
structure LabelMatcher where
  name : String
  op : MatchOp
  value : String
  pattern : Option Pattern
  pattern_eq : pattern = if op.isRegex then Pattern.anchored? value else none

structure InvalidPattern where
  pattern : String
deriving DecidableEq, Repr

def InvalidPattern.message (e : InvalidPattern) : String :=
  "invalid regular expression " ++ Text.quote e.pattern

namespace LabelMatcher

def of (name : String) (op : MatchOp) (value : String) : LabelMatcher :=
  ⟨name, op, value, if op.isRegex then Pattern.anchored? value else none, rfl⟩

/-- A matcher whose regular expression, if it has one, can be read. -/
def of? (name : String) (op : MatchOp) (value : String) : Except InvalidPattern LabelMatcher :=
  let m := of name op value
  if op.isRegex && m.pattern.isNone then .error ⟨value⟩ else .ok m

def metricNamed (name : String) : LabelMatcher := of metricName .equal name

theorem ext_value {a b : LabelMatcher} (hn : a.name = b.name) (ho : a.op = b.op)
    (hv : a.value = b.value) : a = b := by
  obtain ⟨na, oa, va, pa, ha⟩ := a
  obtain ⟨nb, ob, vb, pb, hb⟩ := b
  obtain rfl : na = nb := hn
  obtain rfl : oa = ob := ho
  obtain rfl : va = vb := hv
  obtain rfl : pa = pb := ha.trans hb.symm
  rfl

instance : DecidableEq LabelMatcher := fun a b =>
  decidable_of_iff (a.name = b.name ∧ a.op = b.op ∧ a.value = b.value)
    ⟨fun h => ext_value h.1 h.2.1 h.2.2, fun h => h ▸ ⟨rfl, rfl, rfl⟩⟩

def admits (m : LabelMatcher) (value : String) : Bool :=
  match m.op with
  | .equal => value == m.value
  | .notEqual => value != m.value
  | .regex => m.pattern.any (·.isMatch value)
  | .notRegex => m.pattern.all (!·.isMatch value)

def admitsLabels (m : LabelMatcher) (labels : Labels) : Bool := m.admits (labels.valueOf m.name)

/-- Whether series without the label are selected too. -/
def admitsMissing (m : LabelMatcher) : Bool := m.admits ""

def display (m : LabelMatcher) : String := m.name ++ m.op.symbol ++ Text.quote m.value

def allAdmit (matchers : List LabelMatcher) (labels : Labels) : Bool :=
  matchers.all (·.admitsLabels labels)

end LabelMatcher

end SeriesQuery
