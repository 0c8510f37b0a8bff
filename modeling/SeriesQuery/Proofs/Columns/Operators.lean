import SeriesQuery.Proofs.Groups
import SeriesQuery.Proofs.Series.Rows

/-!
# Operators frame by frame

An operator on columns reads at each frame as the operator on the values there. Keys and groups
that are found once for all frames are, at a frame, those of the elements that are present.
-/

namespace SeriesQuery.Columnar

variable {α : Type} {n : Nat} [Fact (0 < n)]

theorem framewise_rowsOf (x : Column α n) :
    Framewise Rows.atFrame (rowsOf x) fun i => (x.atFrame i).vector? := by
  cases x with
  | vector rows => exact fun i => rfl
  | _ => exact .error fun i => ⟨_, rfl⟩

theorem framewise_scalarsOf (x : Column α n) :
    Framewise Vector.get (scalarsOf x) fun i => (x.atFrame i).scalar? := by
  cases x with
  | scalar values => exact fun i => rfl
  | _ => exact .error fun i => ⟨_, rfl⟩

variable [SampleValue α]

theorem framewise_negate (x : Column α n) :
    Framewise Column.atFrame (negate x) fun i => (x.atFrame i).negate := by
  cases x with
  | scalar values =>
    intro i
    have hget : (values.map (-·)).get i = -values.get i := vector_get_map ..
    exact congrArg (fun v => Except.ok (Value.scalar v)) hget.symm
  | vector rows => exact Rows.framewise_mapElements _ (fun _ v => some (-v)) rows
  | _ => exact .error fun i => ⟨_, rfl⟩

theorem framewise_binary (hash : LabelHash) (op : BinaryOp) (matching : VectorMatching)
    (toBool : Bool) (l r : Column α n) :
    Framewise Column.atFrame (binary hash op matching toBool l r) fun i =>
      Value.binary hash op matching toBool (l.atFrame i) (r.atFrame i) := by
  cases l with
  | scalar l =>
    cases r with
    | scalar r =>
      intro i
      have hget : (Vector.zipWith op.apply l r).get i = op.apply (l.get i) (r.get i) :=
        vector_get_zipWith ..
      exact congrArg (fun v => Except.ok (Value.scalar v)) hget.symm
    | vector r =>
      exact Rows.framewise_mapElements _ (fun i v => op.combineScalar toBool true v (l.get i)) r
    | _ => exact .error fun i => ⟨_, rfl⟩
  | vector l =>
    cases r with
    | scalar r =>
      exact Rows.framewise_mapElements _ (fun i v => op.combineScalar toBool false v (r.get i)) l
    | vector r =>
      refine (framewise_stepwise _).congr_right fun i => ?_
      rw [present_keyed, present_keyed]
      exact .refl _
    | _ => exact .error fun i => ⟨_, rfl⟩
  | _ => cases r <;> exact .error fun i => ⟨_, rfl⟩

omit [SampleValue α] in
theorem framewise_paramAt? (param : Option (Column α n)) :
    Framewise (fun p i => p i) (paramAt? param) fun i =>
      Value.param? (param.map (·.atFrame i)) := by
  cases param with
  | none => exact fun i => rfl
  | some x =>
    cases x with
    | scalar values => exact fun i => rfl
    | string text =>
      exact (Framewise.const ((checkLabelName text).mapError QueryError.invalidArgument)).bind
        fun _ _ i => rfl
    | _ => exact .error fun i => ⟨_, rfl⟩

omit [Fact (0 < n)] [SampleValue α] in
theorem flatMap_groups_perm (hash : LabelHash) (filter : LabelFilter) (rows : Rows α n)
    (i : Fin n) (elements : Labels → List (Metric × α) → List (Metric × α)) :
    ((groupElements hash filter rows.toList).toList.flatMap fun (labels, members) =>
        let members := members.filterMap fun (m, row) => (row.get i).map fun v => (m, v)
        if members.isEmpty then [] else elements labels members).Perm
      ((groupElements hash filter (rows.atFrame i).toList).toList.flatMap
        fun (labels, members) => elements labels members) := by
  have hpresent := (presentGroups_perm hash filter (fun row : Row α n => row.get i)
    rows.toList).flatMap_right fun group => elements group.1 group.2
  rw [List.filterMap_eq_flatMap_toList, List.flatMap_assoc] at hpresent
  refine List.Perm.trans (.of_eq (List.flatMap_congr fun group _ => ?_)) hpresent
  unfold presentGroup
  change (if (presentElements (fun row : Row α n => row.get i) group.2).isEmpty then _ else _) = _
  split
  · rfl
  · exact (List.append_nil _).symm

theorem framewise_aggregate (hash : LabelHash) (op : AggregateOp) (grouping : Grouping)
    (param : Option (Column α n)) (operand : Column α n) :
    Framewise Column.atFrame (aggregate hash op grouping param operand) fun i =>
      Value.aggregate hash op grouping (param.map (·.atFrame i)) (operand.atFrame i) := by
  unfold aggregate Value.aggregate
  refine (framewise_rowsOf operand).bind fun rows _ => ?_
  refine (framewise_paramAt? param).bind fun params _ => ?_
  refine (framewise_stepwise _).congr_right fun i => SameResult.map _ (collect_perm ?_)
  exact flatMap_groups_perm hash grouping.filter rows i fun labels members =>
    op.elements (params i) labels members

end SeriesQuery.Columnar
