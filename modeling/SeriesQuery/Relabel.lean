import SeriesQuery.Pattern.Template
import SeriesQuery.QueryError

/-!
# Relabelling

A relabelling sets one label of a metric to a text made from its other labels. An empty text
removes the label.
-/

namespace SeriesQuery

def isLabelName (name : String) : Bool :=
  match name.toList with
  | [] => false
  | c :: rest => (c.isAlpha || c = '_') && rest.all fun c => c.isAlphanum || c = '_'

def checkLabelName (name : String) : Except ArgumentFault Unit :=
  if isLabelName name then .ok () else .error (.labelName name)

/-- Sets a label from what a pattern finds in another. -/
structure LabelReplace where
  target : String
  template : String
  source : String
  pattern : Pattern

namespace LabelReplace

/-- The pattern has to match the whole source label; a dot in it matches a line end too. -/
def of? (target template source pattern : String) : Except ArgumentFault LabelReplace := do
  let some pattern := Pattern.ofString? ("^(?s:" ++ pattern ++ ")$") | .error .replacePattern
  checkLabelName target
  return { target, template, source, pattern }

/-- The relabelled metric, unchanged where the pattern does not match. -/
def apply (r : LabelReplace) (m : Metric) : Metric :=
  match r.pattern.captures? (m.valueOf r.source) with
  | none => m
  | some found => m.setLabel r.target (found.expand r.template)

end LabelReplace

/-- Sets a label to the values of others, put together with a separator. -/
structure LabelJoin where
  target : String
  separator : String
  sources : List String
deriving DecidableEq, Repr

namespace LabelJoin

def of? (target separator : String) (sources : List String) : Except ArgumentFault LabelJoin := do
  checkLabelName target
  sources.forM checkLabelName
  return { target, separator, sources }

def apply (j : LabelJoin) (m : Metric) : Metric :=
  m.setLabel j.target (j.separator.intercalate (j.sources.map m.valueOf))

end LabelJoin

def Function.relabeling (f : Function) (strings : List String) :
    Except ArgumentFault (Metric → Metric) :=
  match f, strings with
  | .labelReplace, [target, template, source, pattern] =>
    return (← LabelReplace.of? target template source pattern).apply
  | .labelJoin, target :: separator :: sources =>
    return (← LabelJoin.of? target separator sources).apply
  | _, _ => .ok id

end SeriesQuery
