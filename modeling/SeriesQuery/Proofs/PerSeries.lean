import SeriesQuery.Proofs.PerSeries.Columns
import SeriesQuery.Proofs.PerSeries.Steps
import SeriesQuery.Proofs.Samples.History

/-!
# No silent merging of series

A node that works series by series fails if it gives the same labels to two series that are
present at one frame, or if it cannot calculate a difference of times. Otherwise it has exactly one
element for each series at every frame. Both evaluators keep to this, whatever the operand is.
-/

namespace SeriesQuery

variable {α : Type} [SampleValue α]

/-- A node finds columns of its operand and of its scalars, and accepts the scalars at every
frame. -/
structure Columnar.Found (c : Context α) (node : SeriesNode α) (operand : Column α c.frames.len)
    (columns : List (Vector α c.frames.len)) : Prop where
  operand_eq : (eval c node.operand).outcome = .ok operand
  type_eq : operand.valueType = node.operandType
  scalars_eq : List.Forall₂ (fun e v => (eval c e).outcome = .ok (.scalar v)) node.scalars columns
  accepts : ∀ i, node.Accepts (columns.map (·.get i))

theorem Columnar.Found.keepsApart {c : Context α} {node : SeriesNode α} {label : Metric → Metric}
    (hlabel : node.labelling = .ok label) {operand : Column α c.frames.len}
    {columns : List (Vector α c.frames.len)} (h : Found c node operand columns) :
    KeepsApart label
      (fun i => node.elements (c.frames.atIndex i) (columns.map (·.get i)) (operand.atFrame i))
      (fun i => node.Overflows (c.frames.atIndex i) (columns.map (·.get i)) (operand.atFrame i))
      ((eval c node.expr).outcome.map Column.atFrame) := by
  have hcombines := combines_eval hlabel h.operand_eq h.type_eq h.scalars_eq h.accepts
  exact SeriesNode.keepsApart hcombines.framewise hcombines.error

/-- A node finds its numbers and its operand at timestamps one after the other, and accepts the
numbers every time. -/
structure Stepwise.Found {n : Nat} (c : Context α) (node : SeriesNode α) (times : Fin n → Int)
    (cache : SelectorCache α) (inputs : Vector (List α × Value α) n) : Prop where
  inputs_eq : ∃ cache', (Vector.ofFnM (fun i => node.inputs c (times i)) cache).outcome =
    .ok (inputs, cache')
  type_eq : ∀ i, (inputs.get i).2.valueType = node.operandType
  accepts : ∀ i, node.Accepts (inputs.get i).1

theorem Stepwise.Found.keepsApart {n : Nat} {c : Context α} {node : SeriesNode α}
    {label : Metric → Metric} (hlabel : node.labelling = .ok label) {times : Fin n → Int}
    {cache : SelectorCache α} {inputs : Vector (List α × Value α) n}
    (h : Found c node times cache inputs) :
    KeepsApart label
      (fun i => node.elements (times i) (inputs.get i).1 (inputs.get i).2)
      (fun i => node.Overflows (times i) (inputs.get i).1 (inputs.get i).2)
      ((Vector.ofFnM (fun i => valueAt c (times i) node.expr) cache).outcome.map
        fun r => r.1.get) := by
  obtain ⟨cache', hinputs⟩ := h.inputs_eq
  let step (i : Fin n) : Except QueryError (Value α) :=
    node.combine label (times i) (inputs.get i).1 (inputs.get i).2
  rw [Step.outcome_ofFnM_get (y := step)
    (fun i => goesOn_node hlabel (h.type_eq i) (h.accepts i)) hinputs]
  exact SeriesNode.keepsApart (Framewise.ofFnM step) fun _ => exists_of_ofFnM_error

namespace SeriesNode

/-- Only a node that reduces windows forms differences of times. -/
def DifferencesFit : SeriesNode α → Prop
  | window f _ _ _ s duration => f.DifferencesFit duration s.offset
  | _ => True

end SeriesNode

end SeriesQuery
