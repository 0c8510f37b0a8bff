import SeriesQuery.Proofs.Series.Rows

/-!
# Nodes that work series by series

Negation, operators with a number, functions of windows and of elements, and relabellings make at
most one element of each series of their operand. Its labels come from the labels of the series
and its value from what is seen of the series. Two elements must not get the same labels at one
frame, and a node that keeps this rule loses no element and adds none.
-/

namespace SeriesQuery

variable {α : Type}

/-- What is seen of a series at a frame: a value, or the samples in a window. -/
inductive Observation (α : Type)
  | value (v : α)
  | samples (l : List (Sample α))

def Value.observations : Value α → List (Metric × Observation α)
  | .vector v => v.toList.map fun e => (e.1, .value e.2)
  | .matrix v => v.toList.map fun e => (e.1, .samples e.2)
  | _ => []

theorem Value.nodup_observations (x : Value α) : (x.observations.map Prod.fst).Nodup := by
  cases x with
  | vector v =>
    unfold observations
    rw [List.map_map]
    exact v.nodup_keys
  | matrix v =>
    unfold observations
    rw [List.map_map]
    exact v.nodup_keys
  | _ => exact .nil

/-- A node that makes at most one element of each series of its operand, with what else it needs:
numbers, or the texts of a relabelling. -/
inductive SeriesNode (α : Type)
  | negate (operand : Expr α)
  | withScalar (op : BinaryOp) (matching : VectorMatching) (toBool scalarOnLeft : Bool)
      (scalar operand : Expr α)
  | window (f : Function) (kind_eq : f.kind = .window) (scalars : List (Expr α))
      (position_le : f.matrixArg ≤ scalars.length) (s : Selector) (duration : Int)
  | math (f : Function) (kind_eq : f.kind = .math) (param : Option (Expr α)) (operand : Expr α)
  | date (f : Function) (kind_eq : f.kind = .date) (operand : Expr α)
  | timestamp (operand : Expr α)
  | relabel (f : Function) (relabels : f = .labelReplace ∨ f = .labelJoin) (texts : List (Expr α))
      (operand : Expr α)

namespace SeriesNode

def operand : SeriesNode α → Expr α
  | negate e | withScalar _ _ _ _ _ e | math _ _ _ e | date _ _ e | timestamp e
  | relabel _ _ _ e => e
  | window _ _ _ _ s duration => .range s duration

/-- The type of the operand: windows are made of ranges, everything else of vectors. -/
def operandType : SeriesNode α → ValueType
  | window .. => .matrix
  | _ => .vector

def scalars : SeriesNode α → List (Expr α)
  | withScalar _ _ _ _ e _ => [e]
  | window _ _ es _ _ _ => es
  | math _ _ param _ => param.toList
  | _ => []

def expr : SeriesNode α → Expr α
  | negate e => .negate e
  | withScalar op matching toBool scalarOnLeft scalar e =>
    if scalarOnLeft then .binary op scalar e matching toBool
    else .binary op e scalar matching toBool
  | window f _ scalars _ s duration => .call f (scalars.insertIdx f.matrixArg (.range s duration))
  | math f _ param e => .call f (e :: param.toList)
  | date f _ e => .call f [e]
  | timestamp e => .call .timestamp [e]
  | relabel f _ texts e => .call f (e :: texts)

/-- How a node changes labels. The texts of a relabelling may be refused. -/
def labelling : SeriesNode α → Except QueryError (Metric → Metric)
  | negate _ => .ok Metric.withoutName
  | withScalar op _ toBool _ _ _ => .ok (op.outputMetric toBool)
  | window f _ _ _ _ _ | math f _ _ _ | date f _ _ => .ok f.outputMetric
  | timestamp _ => .ok Function.timestamp.outputMetric
  | relabel f _ texts e => Expr.relabeling f (e :: texts)

variable [SampleValue α]

def Accepts (node : SeriesNode α) (numbers : List α) : Prop :=
  match node with
  | window f _ _ _ _ _ => f.checkParams numbers = .ok ()
  | _ => True

/-- The value that a node makes at a timestamp of what is seen of one series, if any. Only
functions of windows form differences of times, which may overflow. -/
def yield? (node : SeriesNode α) (t : Int) (numbers : List α) :
    Observation α → Except Overflow (Option α)
  | .value x =>
    match node with
    | negate _ => .ok (some (-x))
    | withScalar op _ toBool scalarOnLeft _ _ =>
      .ok (numbers.head?.bind (op.combineScalar toBool scalarOnLeft x))
    | window .. => .ok none
    | math f _ _ _ => .ok (some (f.applyMath x numbers.head?))
    | date f _ _ => .ok (some (f.applyDate x))
    | timestamp _ => .ok (some (Numeric.ofMillis t))
    | relabel .. => .ok (some x)
  | .samples l =>
    match node with
    | window f _ _ _ s duration => do
      let w ← Window.of t duration s.offset
      f.reduceWindow l w numbers
    | _ => .ok none

/-- The series of an operand for which a node yields a value, with these values. -/
def elements (node : SeriesNode α) (t : Int) (numbers : List α) (x : Value α) :
    List (Metric × α) :=
  x.observations.filterMap fun e => (node.yield? t numbers e.2).toOption.join.map (e.1, ·)

/-- Whether the value of some series cannot be calculated. -/
def Overflows (node : SeriesNode α) (t : Int) (numbers : List α) (x : Value α) : Prop :=
  ∃ e ∈ x.observations, ∃ overflow, node.yield? t numbers e.2 = .error overflow

theorem nodup_elements (node : SeriesNode α) (t : Int) (numbers : List α) (x : Value α) :
    ((node.elements t numbers x).map Prod.fst).Nodup := by
  have hkeys : (node.elements t numbers x).map Prod.fst =
      (x.observations.filter fun e =>
        (node.yield? t numbers e.2).toOption.join.isSome).map Prod.fst := by
    unfold elements
    rw [List.map_filterMap, ← List.filterMap_eq_filter, List.map_filterMap]
    refine List.filterMap_congr fun e _ => ?_
    cases hyield : (node.yield? t numbers e.2).toOption.join <;> simp [Option.guard, hyield]
  rw [hkeys]
  exact x.nodup_observations.sublist (List.filter_sublist.map Prod.fst)

end SeriesNode

def relabelled (label : Metric → Metric) (elements : List (Metric × α)) : List (Metric × α) :=
  elements.map fun e => (label e.1, e.2)

/-- Two different series get the same labels. -/
def Collides (label : Metric → Metric) (elements : List (Metric × α)) : Prop :=
  ∃ a ∈ elements, ∃ b ∈ elements, a.1 ≠ b.1 ∧ label a.1 = label b.1

/-- A vector has one element for each of a list, with changed labels and the same value. -/
structure Relabels (label : Metric → Metric) (elements : List (Metric × α)) (out : SeriesMap α) :
    Prop where
  size_eq : out.size = elements.length
  get?_eq_some_iff : ∀ m' x, out.get? m' = some x ↔ ∃ m, (m, x) ∈ elements ∧ label m = m'

section Relabelled

variable {label : Metric → Metric} {elements : List (Metric × α)}

theorem map_fst_relabelled : (relabelled label elements).map Prod.fst =
    (elements.map Prod.fst).map label := by
  unfold relabelled
  rw [List.map_map, List.map_map]
  rfl

/-- Distinct items stay distinct unless two of them are mapped to one. -/
theorem nodup_map_iff {κ μ : Type} {f : κ → μ} {items : List κ} (h : items.Nodup) :
    (items.map f).Nodup ↔ ¬∃ a ∈ items, ∃ b ∈ items, a ≠ b ∧ f a = f b := by
  rw [List.nodup_map_iff_inj_on h]
  constructor
  · rintro hinj ⟨a, ha, b, hb, hne, heq⟩
    exact hne (hinj a ha b hb heq)
  · intro hapart a ha b hb heq
    by_contra hne
    exact hapart ⟨a, ha, b, hb, hne, heq⟩

theorem collides_iff_not_nodup (h : (elements.map Prod.fst).Nodup) :
    Collides label elements ↔ ¬((relabelled label elements).map Prod.fst).Nodup := by
  rw [map_fst_relabelled, nodup_map_iff h, not_not]
  constructor
  · rintro ⟨a, ha, b, hb, hapart⟩
    exact ⟨a.1, List.mem_map_of_mem ha, b.1, List.mem_map_of_mem hb, hapart⟩
  · rintro ⟨m, hm, m', hm', hapart⟩
    obtain ⟨a, ha, rfl⟩ := List.mem_map.1 hm
    obtain ⟨b, hb, rfl⟩ := List.mem_map.1 hm'
    exact ⟨a, ha, b, hb, hapart⟩

theorem toList_ofList_perm {entries : List (Metric × α)} (h : (entries.map Prod.fst).Nodup) :
    (SortedMap.ofList entries).toList.Perm entries := by
  refine (List.perm_ext_iff_of_nodup (SortedMap.nodup_keys _).of_map h.of_map).2 fun e => ?_
  obtain ⟨m, x⟩ := e
  rw [← SortedMap.get?_eq_some_iff, SortedMap.get?_ofList h]

theorem size_ofList {entries : List (Metric × α)} (h : (entries.map Prod.fst).Nodup) :
    (SortedMap.ofList entries).size = entries.length :=
  (toList_ofList_perm h).length_eq

theorem relabels_ofList (h : ((relabelled label elements).map Prod.fst).Nodup) :
    Relabels label elements (.ofList (relabelled label elements)) := by
  constructor
  · rw [size_ofList h]
    exact List.length_map _
  · intro m' x
    rw [SortedMap.get?_ofList h]
    unfold relabelled
    rw [List.mem_map]
    constructor
    · rintro ⟨⟨m, y⟩, he, heq⟩
      obtain ⟨rfl, rfl⟩ := Prod.mk.inj heq
      exact ⟨m, he, rfl⟩
    · rintro ⟨m, he, rfl⟩
      exact ⟨(m, x), he, rfl⟩

theorem collect_relabelled (h : (elements.map Prod.fst).Nodup) :
    (Collides label elements → ∃ m,
      collect .duplicateSeries (relabelled label elements) = .error (.duplicateSeries m)) ∧
    (¬Collides label elements → ∃ out,
      collect .duplicateSeries (relabelled label elements) = .ok out ∧
        Relabels label elements out) := by
  rw [collides_iff_not_nodup h, not_not]
  constructor
  · intro hnot
    cases hresult : collect QueryError.duplicateSeries (relabelled label elements) with
    | error e =>
      obtain ⟨m, rfl⟩ := collect_error hresult
      exact ⟨m, rfl⟩
    | ok out => exact absurd (collect_eq_ok_iff.1 hresult).1 hnot
  · intro hnodup
    exact ⟨_, collect_eq_ok_iff.2 ⟨hnodup, rfl⟩, relabels_ofList hnodup⟩

end Relabelled

/-- An evaluation at several frames fails because of duplicates only if two series collide at one
of the frames, and also if they do, as long as all values can be calculated. If none collide, each
relabelled element is there once at each frame. Where some value cannot be calculated the
evaluation fails, because of this unless it has met duplicates. -/
structure KeepsApart {n : Nat} (label : Metric → Metric) (elements : Fin n → List (Metric × α))
    (overflows : Fin n → Prop) (outcome : Except QueryError (Fin n → Value α)) : Prop where
  collides_of_fails : (∃ m, outcome = .error (.duplicateSeries m)) → ∃ i, Collides label (elements i)
  fails_iff : (¬∃ i, overflows i) →
    ((∃ m, outcome = .error (.duplicateSeries m)) ↔ ∃ i, Collides label (elements i))
  succeeds : (¬∃ i, overflows i) → (¬∃ i, Collides label (elements i)) →
    ∃ values, outcome = .ok values ∧
      ∀ i, ∃ out, values i = .vector out ∧ Relabels label (elements i) out
  overflow : (∃ i, overflows i) → (∃ m, outcome = .error (.duplicateSeries m)) ∨
    ∃ overflow, outcome = .error (.overflow overflow)

/-- A computation that fails for duplicates only does so exactly if one of its frames does. -/
theorem Framewise.fails_or_holds {β : Type} {n : Nat} {read : β → Fin n → Value α}
    {x : Except QueryError β} {frame : Fin n → Except QueryError (Value α)}
    {collides : Fin n → Prop} (holds : Fin n → Value α → Prop) (hframes : Framewise read x frame)
    (herror : ∀ e, x = .error e → ∃ m, e = .duplicateSeries m)
    (hfails : ∀ i, collides i → ∃ m, frame i = .error (.duplicateSeries m))
    (hok : ∀ i, ¬collides i → ∃ v, frame i = .ok v ∧ holds i v) :
    ((∃ m, x.map read = .error (.duplicateSeries m)) ↔ ∃ i, collides i) ∧
      ((¬∃ i, collides i) → ∃ values, x.map read = .ok values ∧ ∀ i, holds i (values i)) := by
  cases x with
  | error e =>
    -- some frame has failed, so there is a collision there
    obtain ⟨m, rfl⟩ := herror e rfl
    have hcollides : ∃ i, collides i := by
      obtain ⟨i, e, hfailed⟩ := hframes
      refine ⟨i, ?_⟩
      by_contra hclear
      obtain ⟨v, hv, -⟩ := hok i hclear
      cases hv.symm.trans hfailed
    exact ⟨iff_of_true ⟨m, rfl⟩ hcollides, fun hclear => absurd hcollides hclear⟩
  | ok b =>
    have hclear : ¬∃ i, collides i := by
      rintro ⟨i, hcollides⟩
      obtain ⟨m, hfailed⟩ := hfails i hcollides
      cases (hframes i).symm.trans hfailed
    refine ⟨iff_of_false nofun hclear, fun _ => ⟨read b, rfl, fun i => ?_⟩⟩
    obtain ⟨v, hv, hholds⟩ := hok i fun h => hclear ⟨i, h⟩
    exact Except.ok.inj (hv.symm.trans (hframes i)) ▸ hholds

namespace KeepsApart

variable {n : Nat} {label : Metric → Metric} {elements : Fin n → List (Metric × α)}
  {overflows : Fin n → Prop} {outcome : Except QueryError (Fin n → Value α)}

theorem collides (h : KeepsApart label elements overflows outcome) (hfits : ¬∃ i, overflows i)
    (hfailed : outcome.isOk = false) : ∃ i, Collides label (elements i) := by
  by_contra hclear
  obtain ⟨values, rfl, -⟩ := h.succeeds hfits hclear
  cases hfailed

end KeepsApart

namespace SeriesNode

variable [SampleValue α]

/-- The vector of the relabelled elements of a node at a timestamp, calculated one by one. -/
def combine (node : SeriesNode α) (label : Metric → Metric) (t : Int) (numbers : List α)
    (x : Value α) : Except QueryError (Value α) :=
  Value.vector <$> collectComputed .duplicateSeries (x.observations.map fun e =>
    (label e.1, (node.yield? t numbers e.2).mapError .overflow))

section Combine

variable {node : SeriesNode α} {label : Metric → Metric} {t : Int} {numbers : List α}

theorem combine_of_not_overflows {x : Value α} (h : ¬node.Overflows t numbers x) :
    node.combine label t numbers x =
      Value.vector <$> collect .duplicateSeries (relabelled label (node.elements t numbers x)) := by
  have hvalue (e) (he : e ∈ x.observations) :
      ((node.yield? t numbers e.2).mapError QueryError.overflow) =
        .ok (node.yield? t numbers e.2).toOption.join := by
    cases hyield : node.yield? t numbers e.2 with
    | error overflow => exact absurd ⟨e, he, overflow, hyield⟩ h
    | ok v => cases v <;> rfl
  unfold combine elements relabelled
  rw [collectComputed_eq_collect hvalue, List.map_filterMap]
  simp only [Option.map_map]
  rfl

theorem combine_vector {value : α → Option α}
    (h : ∀ x, node.yield? t numbers (.value x) = .ok (value x)) (v : SeriesMap α) :
    node.combine label t numbers (.vector v) = Value.mapElements label value v := by
  unfold combine Value.mapElements Value.observations
  rw [List.map_map]
  refine congrArg (Value.vector <$> ·) (collectComputed_eq_collect fun e _ => ?_)
  dsimp only [Function.comp_apply]
  rw [h]
  rfl

theorem combine_error {x : Value α} {e : QueryError}
    (h : node.combine label t numbers x = .error e) :
    (∃ m, e = .duplicateSeries m) ∨
      ∃ overflow, e = .overflow overflow ∧ node.Overflows t numbers x := by
  rcases collectComputed_error (map_eq_error_iff.1 h) with hduplicate | ⟨element, hmem, he⟩
  · exact .inl hduplicate
  · obtain ⟨seen, hseen, rfl⟩ := List.mem_map.1 hmem
    dsimp only at he
    cases hyield : node.yield? t numbers seen.2 with
    | error overflow =>
      rw [hyield] at he
      cases he
      exact .inr ⟨overflow, rfl, seen, hseen, overflow, hyield⟩
    | ok v =>
      rw [hyield] at he
      cases he

theorem combine_of_overflows {x : Value α} (h : node.Overflows t numbers x) :
    ∃ e, node.combine label t numbers x = .error e := by
  obtain ⟨seen, hseen, overflow, hyield⟩ := h
  cases hresult : node.combine label t numbers x with
  | error e => exact ⟨e, rfl⟩
  | ok out =>
    obtain ⟨out, hcollect, -⟩ := map_eq_ok_iff.1 hresult
    obtain ⟨v, hv⟩ := collectComputed_value hcollect _ (List.mem_map_of_mem hseen)
    dsimp only at hv
    rw [hyield] at hv
    cases hv

theorem combine_of_collides {x : Value α} (hfits : ¬node.Overflows t numbers x)
    (h : Collides label (node.elements t numbers x)) :
    ∃ m, node.combine label t numbers x = .error (.duplicateSeries m) := by
  obtain ⟨m, hcollect⟩ := (collect_relabelled (node.nodup_elements t numbers x)).1 h
  refine ⟨m, ?_⟩
  rw [combine_of_not_overflows hfits, hcollect]
  rfl

theorem collides_of_combine {x : Value α} {m : Metric}
    (h : node.combine label t numbers x = .error (.duplicateSeries m)) :
    Collides label (node.elements t numbers x) := by
  have hvalue (e) (_ : e ∈ x.observations) (v : Option α)
      (hv : (node.yield? t numbers e.2).mapError QueryError.overflow = .ok v) :
      v = (node.yield? t numbers e.2).toOption.join := by
    rw [mapError_eq_ok_iff] at hv
    rw [hv]
    rfl
  have hother (e) (_ : e ∈ x.observations) (m : Metric) :
      (node.yield? t numbers e.2).mapError QueryError.overflow ≠ .error (.duplicateSeries m) := by
    intro he
    obtain ⟨overflow, -, heq⟩ := mapError_eq_error_iff.1 he
    cases heq
  have hfailed := collectComputed_duplicate hvalue hother (map_eq_error_iff.1 h)
  by_contra hclear
  obtain ⟨out, hcollect, -⟩ := (collect_relabelled (node.nodup_elements t numbers x)).2 hclear
  unfold relabelled elements at hcollect
  rw [List.map_filterMap] at hcollect
  simp only [Option.map_map] at hcollect
  cases hcollect.symm.trans hfailed

theorem combine_of_not_collides {x : Value α} (hfits : ¬node.Overflows t numbers x)
    (h : ¬Collides label (node.elements t numbers x)) :
    ∃ out, node.combine label t numbers x = .ok (.vector out) ∧
      Relabels label (node.elements t numbers x) out := by
  obtain ⟨out, hcollect, hrelabels⟩ := (collect_relabelled (node.nodup_elements t numbers x)).2 h
  refine ⟨out, ?_, hrelabels⟩
  rw [combine_of_not_overflows hfits, hcollect]
  rfl

end Combine

/-- A computation keeps series apart if it combines the elements of a node frame by frame, and
fails as one of its frames does. -/
theorem keepsApart {β : Type} {n : Nat} {node : SeriesNode α} {label : Metric → Metric}
    {times : Fin n → Int} {numbers : Fin n → List α} {operands : Fin n → Value α}
    {read : β → Fin n → Value α} {x : Except QueryError β}
    (hframes : Framewise read x fun i =>
      node.combine label (times i) (numbers i) (operands i))
    (herror : ∀ e, x = .error e → ∃ i,
      node.combine label (times i) (numbers i) (operands i) = .error e) :
    KeepsApart label (fun i => node.elements (times i) (numbers i) (operands i))
      (fun i => node.Overflows (times i) (numbers i) (operands i)) (x.map read) := by
  have hcauses (e : QueryError) (he : x = .error e) : (∃ m, e = .duplicateSeries m) ∨
      ∃ overflow, e = .overflow overflow ∧
        ∃ i, node.Overflows (times i) (numbers i) (operands i) := by
    obtain ⟨i, hi⟩ := herror e he
    refine (combine_error hi).imp_right ?_
    rintro ⟨overflow, heq, hoverflows⟩
    exact ⟨overflow, heq, i, hoverflows⟩
  have hfits (h : ¬∃ i, node.Overflows (times i) (numbers i) (operands i)) :=
    hframes.fails_or_holds
      (fun i v => ∃ out, v = .vector out ∧
        Relabels label (node.elements (times i) (numbers i) (operands i)) out)
      (fun e he => (hcauses e he).resolve_right fun ⟨_, _, hoverflows⟩ => h hoverflows)
      (fun i => combine_of_collides (not_exists.1 h i)) fun i hclear => by
        obtain ⟨out, hok, hrelabels⟩ := combine_of_not_collides (not_exists.1 h i) hclear
        exact ⟨_, hok, out, rfl, hrelabels⟩
  refine ⟨?collides, fun h => (hfits h).1, fun h => (hfits h).2, ?overflow⟩
  case collides =>
    rintro ⟨m, hfailed⟩
    cases x with
    | ok b => cases hfailed
    | error e =>
      cases hfailed
      obtain ⟨i, hi⟩ := herror _ rfl
      exact ⟨i, collides_of_combine hi⟩
  case overflow =>
    rintro ⟨i, hoverflows⟩
    obtain ⟨e, hfailed⟩ : ∃ e, node.combine label (times i) (numbers i) (operands i) = .error e :=
      combine_of_overflows hoverflows
    cases x with
    | ok b => cases (hframes i).symm.trans hfailed
    | error e' =>
      rcases hcauses e' rfl with ⟨m, rfl⟩ | ⟨overflow, rfl, -⟩
      · exact .inl ⟨m, rfl⟩
      · exact .inr ⟨overflow, rfl⟩

end SeriesNode

end SeriesQuery
