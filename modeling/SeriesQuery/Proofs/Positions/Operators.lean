import SeriesQuery.Proofs.Columns.Operators
import SeriesQuery.Proofs.Pairing
import SeriesQuery.Proofs.Positions.Sinks

/-!
# Operators by position

An operator on columns stays in range and reads at each frame as the operator on the values there.
The positions at which keys, members and pairs are looked up are those of rows that are present.
-/

namespace SeriesQuery.Positional

variable {α : Type} {n : Nat}

def InRange (row : SeriesQuery.WindowRow α n) : Prop :=
  ∀ i, (row.bounds.get i).1 ≤ (row.bounds.get i).2 ∧ (row.bounds.get i).2 ≤ row.samples.size

/-- A column whose rows all have the same length and whose windows are parts of their samples. -/
structure Shaped (α : Type) (n : Nat) where
  column : SeriesQuery.Column α n
  inRange : ∀ rows range offset, column = .matrix rows range offset →
    ∀ e ∈ rows.toList, InRange e.2

namespace Shaped

def scalar (values : Vector α n) : Shaped α n := ⟨.scalar values, nofun⟩

def string (text : String) : Shaped α n := ⟨.string text, nofun⟩

def vector (rows : SeriesQuery.Rows α n) : Shaped α n := ⟨.vector rows, nofun⟩

def forgetWindows (row : SeriesQuery.WindowRow α n) : WindowRow α :=
  ⟨row.samples.toList, row.bounds.toList⟩

/-- A column without the number of frames in its type. -/
def forgetLengths : SeriesQuery.Column α n → Column α
  | .scalar values => .scalar values.toList
  | .string text => .string text
  | .vector rows => .vector (Rows.forget rows)
  | .matrix rows range offset =>
    .matrix (rows.mapValues fun _ row => forgetWindows row) range offset

def forget (x : Shaped α n) : Column α := forgetLengths x.column

def atFrame (x : Shaped α n) (i : Fin n) : Value α := x.column.atFrame i

end Shaped

/-- A run yields a column for `n` frames, which reads at each frame as the value there. -/
abbrev FitsColumn (x : Run (Column α)) (y : Fin n → Except QueryError (Value α)) : Prop :=
  Fits Shaped.forget Shaped.atFrame x y

theorem FitsRows.vector {x : Run (Rows α)} {y : Fin n → Except QueryError (SeriesMap α)}
    (h : FitsRows x y) : FitsColumn (.vector <$> x) fun i => .vector <$> y i :=
  h.map (f := Column.vector) Shaped.vector (fun _ => rfl) fun _ _ => rfl

theorem Fits.of_rows {x : Run (Rows α)} {found : Except QueryError (SeriesQuery.Rows α n)}
    {y : Fin n → Except QueryError (Value α)} (hx : x = Positional.lift (Rows.forget <$> found))
    (h : Framewise SeriesQuery.Column.atFrame (.vector <$> found) y) :
    FitsColumn (.vector <$> x) y := by
  refine ⟨Shaped.vector <$> found, ?_, ?_⟩
  · rw [hx]
    cases found <;> rfl
  · cases found with
    | error e => exact h
    | ok rows => exact h

theorem Fits.scalar {x : Run (List α)} {y : Fin n → Except QueryError α}
    (h : Fits Vector.toList Vector.get x y) : FitsColumn (.scalar <$> x) fun i => .scalar <$> y i :=
  h.map (f := Column.scalar) Shaped.scalar (fun _ => rfl) fun _ _ => rfl

theorem fits_unexpected [Fact (0 < n)] {γ δ β : Type} {forget : β → γ} {read : β → Fin n → δ}
    (x : Column α) {y : Fin n → Except QueryError δ} (h : ∀ i, ∃ e, y i = .error e) :
    Fits forget read x.unexpected y :=
  .failAll h

theorem fits_rows [Fact (0 < n)] (x : Shaped α n) :
    FitsRows x.forget.rows fun i => (x.atFrame i).vector? := by
  obtain ⟨x, -⟩ := x
  cases x with
  | vector rows => exact .ok rows fun i => rfl
  | _ => exact fits_unexpected _ fun i => ⟨_, rfl⟩

theorem fits_scalars [Fact (0 < n)] (x : Shaped α n) :
    Fits Vector.toList Vector.get x.forget.scalars fun i => (x.atFrame i).scalar? := by
  obtain ⟨x, -⟩ := x
  cases x with
  | scalar values => exact .ok values fun i => rfl
  | _ => exact fits_unexpected _ fun i => ⟨_, rfl⟩

section Elementwise

variable [SampleValue α] [Fact (0 < n)]

theorem fits_negate (x : Shaped α n) :
    FitsColumn (negate n x.forget) fun i => (x.atFrame i).negate := by
  obtain ⟨x, -⟩ := x
  cases x with
  | scalar values =>
    refine Fits.scalar (x := .ok (values.toList.map (-·))) (y := fun i => .ok (-values.get i)) ?_
    rw [← Vector.toList_map]
    exact .ok _ fun i => by rw [vector_get_map]
  | vector rows =>
    refine (RowSink.fits_mapRows _ (fun _ v => some (-v)) rows fun row => ?_).vector
    rw [map_toList]
    simp only [Option.map_eq_bind]
    rfl
  | _ => exact fits_unexpected _ fun i => ⟨_, rfl⟩

omit [Fact (0 < n)] in
theorem fits_vectorScalar (op : BinaryOp) (toBool scalarOnLeft : Bool)
    (rows : SeriesQuery.Rows α n) (values : Vector α n) :
    FitsRows (vectorScalar n op toBool scalarOnLeft (Rows.forget rows) values.toList) fun i =>
      collect .duplicateSeries ((rows.atFrame i).toList.filterMap fun e =>
        (op.combineScalar toBool scalarOnLeft e.2 (values.get i)).map
          (op.outputMetric toBool e.1, ·)) := by
  refine RowSink.fits_mapRows _ (fun i v =>
    op.combineScalar toBool scalarOnLeft v (values.get i)) rows fun row => ?_
  exact map_pairs_toList (fun e : Option α × α =>
    e.1.bind (op.combineScalar toBool scalarOnLeft · e.2)) row values

end Elementwise

/-- An element that is present at a frame, with the position of its row. -/
structure Present (α : Type) where
  position : Nat
  metric : Metric
  value : α

def presentIn (rows : SeriesQuery.Rows α n) (i : Fin n) : List (Present α) :=
  rows.toList.zipIdx.filterMap fun (e, p) => (e.2.get i).map fun v => ⟨p, e.1, v⟩

theorem toList_atFrame_eq (rows : SeriesQuery.Rows α n) (i : Fin n) :
    (rows.atFrame i).toList = (presentIn rows i).map fun z => (z.metric, z.value) := by
  have hrows : rows.toList = rows.toList.zipIdx.map Prod.fst := by rw [List.zipIdx_map_fst]
  rw [SeriesQuery.Rows.toList_atFrame, hrows, List.filterMap_map, presentIn, List.map_filterMap]
  refine List.filterMap_congr fun ⟨e, p⟩ _ => ?_
  simp only [Function.comp_apply, Option.map_map]
  rfl

theorem exists_of_mem_presentIn {rows : SeriesQuery.Rows α n} {i : Fin n} {z : Present α}
    (h : z ∈ presentIn rows i) :
    ∃ row, rows.toList[z.position]? = some (z.metric, row) ∧ row.get i = some z.value := by
  obtain ⟨⟨⟨m, row⟩, p⟩, hmem, hz⟩ := List.mem_filterMap.1 h
  obtain ⟨v, hv, rfl⟩ := Option.map_eq_some_iff.1 hz
  exact ⟨row, List.mem_zipIdx_iff_getElem?.1 hmem, hv⟩

namespace Side

variable (hash : LabelHash) (filter : LabelFilter) (rows : SeriesQuery.Rows α n) (i : Fin n)

theorem rows_of : (of hash filter (Rows.forget rows)).rows = rows.values.map Vector.toList :=
  Rows.values_forget rows

theorem keys_of : (of hash filter (Rows.forget rows)).keys =
    rows.toList.map fun e => (e.1, .of hash filter e.1) := by
  unfold of SortedMap.keys
  rw [Rows.toList_forget, List.map_map, List.map_map]
  rfl

theorem entry_rows_of {p : Nat} {e : Metric × SeriesQuery.Row α n}
    (h : rows.toList[p]? = some e) :
    entry (of hash filter (Rows.forget rows)).rows p = .ok e.2.toList := by
  refine entry_eq_ok ?_
  rw [rows_of, SortedMap.values, List.getElem?_map, List.getElem?_map, h]
  rfl

theorem entry_keys_of {p : Nat} {e : Metric × SeriesQuery.Row α n}
    (h : rows.toList[p]? = some e) :
    entry (of hash filter (Rows.forget rows)).keys p = .ok (e.1, .of hash filter e.1) := by
  refine entry_eq_ok ?_
  rw [keys_of, List.getElem?_map, h]
  rfl

theorem presentAt_of : (of hash filter (Rows.forget rows)).presentAt i =
    .ok ((presentIn rows i).map Present.position) := by
  have hlength : (of hash filter (Rows.forget rows)).rows.length = rows.toList.length := by
    rw [rows_of, List.length_map, SortedMap.values, List.length_map]
  have hread : (of hash filter (Rows.forget rows)).presentAt i =
      .ok ((List.range rows.toList.length).filterMap fun p =>
        (rows.toList[p]?.bind (·.2.get i)).map fun _ => p) := by
    unfold presentAt
    rw [hlength]
    refine filterMapM_eq_ok fun p hp => ?_
    obtain ⟨e, he⟩ : ∃ e, rows.toList[p]? = some e :=
      ⟨_, List.getElem?_eq_getElem (List.mem_range.1 hp)⟩
    rw [entry_rows_of hash filter rows he, he, Option.bind_some]
    change (entry e.2.toList i >>= _) = _
    rw [entry_toList]
    cases e.2.get i <;> rfl
  have hrange : List.range rows.toList.length = rows.toList.zipIdx.map Prod.snd := by
    rw [List.zipIdx_map_snd, List.range_eq_range']
  rw [hread, hrange, List.filterMap_map, presentIn, List.map_filterMap]
  refine congrArg Except.ok (List.filterMap_congr ?_)
  rintro ⟨e, p⟩ hmem
  rw [Function.comp_apply, List.mem_zipIdx_iff_getElem?.1 hmem, Option.bind_some, Option.map_map]
  rfl

variable {hash filter rows i} {z : Present α}

theorem metricAt_of (h : z ∈ presentIn rows i) :
    (of hash filter (Rows.forget rows)).metricAt z.position = .ok z.metric := by
  obtain ⟨row, hrow, -⟩ := exists_of_mem_presentIn h
  unfold metricAt
  rw [entry_keys_of hash filter rows hrow]
  rfl

theorem valueAt_of [SampleValue α] (h : z ∈ presentIn rows i) :
    (of hash filter (Rows.forget rows)).valueAt z.position i = .ok z.value := by
  obtain ⟨row, hrow, hv⟩ := exists_of_mem_presentIn h
  unfold valueAt
  rw [entry_rows_of hash filter rows hrow]
  change (entry row.toList i >>= _) = _
  rw [entry_toList, hv]
  rfl

end Side

section Renaming

variable {ι ι' κ : Type}

def Keyed.rename (name : ι → ι') (e : Keyed ι α) : Keyed ι' α := ⟨name e.item, e.key, e.value⟩

theorem setStep_rename (op : BinaryOp) (name : ι → ι') (left right : List (Keyed ι α)) :
    setStep op (left.map (Keyed.rename name)) (right.map (Keyed.rename name)) =
      (setStep op left right).map (Keyed.rename name) := by
  have hpartner (others : List (Keyed ι α)) (e : Keyed ι α) :
      hasPartner (others.map (Keyed.rename name)) (Keyed.rename name e) = hasPartner others e := by
    unfold hasPartner
    rw [List.foldl_map]
    rfl
  unfold setStep
  cases op <;> simp [List.filter_map, Function.comp_def, hpartner]

theorem mem_of_mem_setStep {op : BinaryOp} {left right : List (Keyed ι α)} {e : Keyed ι α}
    (h : e ∈ setStep op left right) : e ∈ left ∨ e ∈ right := by
  unfold setStep at h
  cases op
  case intersection => exact .inl (List.mem_filter.1 h).1
  case difference => exact .inl (List.mem_filter.1 h).1
  case union => exact (List.mem_append.1 h).imp_right fun h => (List.mem_filter.1 h).1
  all_goals cases h

variable [SampleValue α]

/-- A pair with other names for its two elements. -/
def Joined.rename (left right : ι → ι') (j : Joined ι α) : Joined ι' α :=
  ⟨left j.left, right j.right, j.value⟩

omit [SampleValue α] in
theorem partnerOf_rename (name : ι → ι') (others : List (Keyed ι α)) (labels : Labels) :
    partnerOf (others.map (Keyed.rename name)) labels =
      (partnerOf others labels).map (Keyed.rename name) := by
  unfold partnerOf
  rw [List.find?_map]
  rfl

omit [SampleValue α] in
theorem matchesOnce_rename (unique : Bool) (name name' : ι → ι') (many one : List (Keyed ι α)) :
    MatchesOnce unique (many.map (Keyed.rename name)) (one.map (Keyed.rename name')) ↔
      MatchesOnce unique many one := by
  unfold MatchesOnce pairedKeys
  simp only [partnerOf_rename, List.map_map, Option.isSome_map]
  rfl

omit [SampleValue α] in
theorem pairsWith_rename {name name' : ι → ι'} {many one : List (Keyed ι α)}
    {join : Keyed ι α → Keyed ι α → Option (Joined ι α)}
    {join' : Keyed ι' α → Keyed ι' α → Option (Joined ι' α)}
    (pair : Joined ι α → Joined ι' α)
    (h : ∀ a b, join' (Keyed.rename name a) (Keyed.rename name' b) = (join a b).map pair) :
    pairsWith (partnerOf (one.map (Keyed.rename name'))) join' (many.map (Keyed.rename name)) =
      (pairsWith (partnerOf one) join many).map pair := by
  unfold pairsWith
  rw [List.flatMap_map, List.map_flatMap]
  refine List.flatMap_congr fun e _ => ?_
  rw [partnerOf_rename]
  change (((partnerOf one e.key.labels).map _).bind _).toList = _
  cases partnerOf one e.key.labels with
  | none => rfl
  | some mate =>
    change (join' (Keyed.rename name e) (Keyed.rename name' mate)).toList =
      (join e mate).toList.map pair
    rw [h]
    cases join e mate <;> rfl

theorem joinStep_rename {hash : LabelHash} (op : BinaryOp) (matching : VectorMatching)
    (toBool : Bool) (name name' : ι → ι') {left right : List (Keyed ι α)}
    (hleft : ∀ e ∈ left, e.Hashed hash) (hright : ∀ e ∈ right, e.Hashed hash) :
    SameResult (List.map (Joined.rename name name') <$> joinStep op matching toBool left right)
      (joinStep op matching toBool (left.map (Keyed.rename name))
        (right.map (Keyed.rename name'))) := by
  have hashed {f : ι → ι'} {l : List (Keyed ι α)} (hl : ∀ e ∈ l, e.Hashed hash) :
      ∀ e ∈ l.map (Keyed.rename f), e.Hashed hash := by
    intro e he
    obtain ⟨e', he', rfl⟩ := List.mem_map.1 he
    exact hl e' he'
  have hpair (a b : Keyed ι α) : joinPair op toBool (Keyed.rename name a) (Keyed.rename name' b) =
      (joinPair op toBool a b).map (Joined.rename name name') := by
    unfold joinPair
    rw [Option.map_map]
    rfl
  intro joined
  rw [map_eq_ok_iff, joinStep_eq_ok_iff op matching toBool (hashed hleft) (hashed hright)]
  simp only [joinStep_eq_ok_iff op matching toBool hleft hright, List.map_eq_nil_iff,
    matchesOnce_rename]
  by_cases hempty : left = [] ∨ right = []
  · simp [hempty, eq_comm]
  · simp only [hempty, if_false]
    by_cases hside : matching.cardinality.keepsRight = true
    · simp only [hside, if_true]
      rw [pairsWith_rename (Joined.rename name name') fun a b => hpair b a]
      exact ⟨fun ⟨_, ⟨hm, rfl⟩, h⟩ => ⟨hm, h.symm⟩, fun ⟨hm, h⟩ => ⟨_, ⟨hm, rfl⟩, h.symm⟩⟩
    · simp only [hside]
      rw [pairsWith_rename (Joined.rename name name') hpair]
      exact ⟨fun ⟨_, ⟨hm, rfl⟩, h⟩ => ⟨hm, h.symm⟩, fun ⟨hm, h⟩ => ⟨_, ⟨hm, rfl⟩, h.symm⟩⟩

omit [SampleValue α] in
theorem mem_pairsWith {partner : Labels → Option (Keyed ι α)}
    {join : Keyed ι α → Keyed ι α → Option (Joined ι α)} {elements : List (Keyed ι α)}
    {j : Joined ι α} (h : j ∈ pairsWith partner join elements) :
    ∃ a ∈ elements, ∃ b, partner a.key.labels = some b ∧ join a b = some j := by
  obtain ⟨a, ha, hj⟩ := List.mem_flatMap.1 h
  rw [Option.mem_toList, Option.bind_eq_some_iff] at hj
  obtain ⟨b, hb, hj⟩ := hj
  exact ⟨a, ha, b, hb, hj⟩

theorem items_of_joinStep {hash : LabelHash} {op : BinaryOp} {matching : VectorMatching}
    {toBool : Bool} {left right : List (Keyed ι α)} (hleft : ∀ e ∈ left, e.Hashed hash)
    (hright : ∀ e ∈ right, e.Hashed hash) {joined : List (Joined ι α)}
    (h : joinStep op matching toBool left right = .ok joined) {j : Joined ι α} (hj : j ∈ joined) :
    (∃ l ∈ left, j.left = l.item) ∧ ∃ r ∈ right, j.right = r.item := by
  have found {l r : Keyed ι α} (hl : l ∈ left) (hr : r ∈ right)
      (hpair : joinPair op toBool l r = some j) :
      (∃ l ∈ left, j.left = l.item) ∧ ∃ r ∈ right, j.right = r.item := by
    obtain ⟨v, -, rfl⟩ := Option.map_eq_some_iff.1 hpair
    exact ⟨⟨l, hl, rfl⟩, r, hr, rfl⟩
  rw [joinStep_eq_ok_iff op matching toBool hleft hright] at h
  by_cases hempty : left = [] ∨ right = []
  · rw [if_pos hempty] at h
    rw [h] at hj
    cases hj
  · rw [if_neg hempty] at h
    by_cases hside : matching.cardinality.keepsRight = true
    · rw [if_pos hside] at h
      obtain ⟨r, hr, l, hl, hpair⟩ := mem_pairsWith (h.2 ▸ hj)
      exact found (List.mem_of_find?_eq_some hl) hr hpair
    · rw [if_neg hside] at h
      obtain ⟨l, hl, r, hr, hpair⟩ := mem_pairsWith (h.2 ▸ hj)
      exact found hl (List.mem_of_find?_eq_some hr) hpair

end Renaming

section Pairs

variable (hash : LabelHash) (filter : LabelFilter)

/-- The present elements, each as the item that is made of where it stands among them. -/
def itemsIn {ι : Type} (item : Nat → ι) (rows : SeriesQuery.Rows α n) (i : Fin n) :
    List (Keyed ι α) :=
  (presentIn rows i).zipIdx.map fun (z, q) => ⟨item q, .of hash filter z.metric, z.value⟩

/-- The metric of the element that stands somewhere among the present ones. -/
def metricIn (rows : SeriesQuery.Rows α n) (i : Fin n) (q : Nat) : Metric :=
  ((presentIn rows i)[q]?.map Present.metric).getD .empty

variable {hash filter} {rows : SeriesQuery.Rows α n} {i : Fin n} {ι : Type} {item : Nat → ι}

theorem hashed_of_mem_itemsIn {e : Keyed ι α} (h : e ∈ itemsIn hash filter item rows i) :
    e.Hashed hash := by
  obtain ⟨_, -, rfl⟩ := List.mem_map.1 h
  rfl

theorem exists_of_mem_itemsIn {e : Keyed ι α} (h : e ∈ itemsIn hash filter item rows i) :
    ∃ q z, (presentIn rows i)[q]? = some z ∧ e = ⟨item q, .of hash filter z.metric, z.value⟩ := by
  obtain ⟨⟨z, q⟩, hmem, rfl⟩ := List.mem_map.1 h
  exact ⟨q, z, List.mem_zipIdx_iff_getElem?.1 hmem, rfl⟩

theorem metricIn_eq {q : Nat} {z : Present α} (h : (presentIn rows i)[q]? = some z) :
    metricIn rows i q = z.metric := by
  unfold metricIn
  rw [h]
  rfl

/-- Items with the metrics that they stand for are the keyed elements of the vector. -/
theorem rename_itemsIn (item : Nat → ι) (name : ι → Metric)
    (h : ∀ q, name (item q) = metricIn rows i q) :
    (itemsIn hash filter item rows i).map (Keyed.rename name) =
      keyed hash filter (rows.atFrame i).toList := by
  have hpresent : presentIn rows i = (presentIn rows i).zipIdx.map Prod.fst := by
    rw [List.zipIdx_map_fst]
  unfold keyed itemsIn
  rw [toList_atFrame_eq, List.map_map, List.map_map]
  conv_rhs => rw [hpresent, List.map_map]
  refine List.map_congr_left fun ⟨z, q⟩ hmem => ?_
  have hmetric : name (item q) = z.metric :=
    (h q).trans (metricIn_eq (List.mem_zipIdx_iff_getElem?.1 hmem))
  simp [Keyed.rename, hmetric]

theorem entry_present {q : Nat} {z : Present α} (h : (presentIn rows i)[q]? = some z) :
    entry ((presentIn rows i).map Present.position) q = .ok z.position := by
  refine entry_eq_ok ?_
  rw [List.getElem?_map, h]
  rfl

variable [SampleValue α]

theorem Side.keyedAt_of :
    (Side.of hash filter (Rows.forget rows)).keyedAt item
      ((presentIn rows i).map Present.position) i = .ok (itemsIn hash filter item rows i) := by
  unfold Side.keyedAt itemsIn
  rw [List.zipIdx_map, List.mapM_map]
  refine mapM_eq_ok fun ⟨z, q⟩ hmem => ?_
  have hz : z ∈ presentIn rows i := List.fst_mem_of_mem_zipIdx hmem
  obtain ⟨row, hrow, -⟩ := exists_of_mem_presentIn hz
  change (entry (Side.of hash filter (Rows.forget rows)).keys z.position >>= _) = _
  rw [Side.entry_keys_of hash filter rows hrow]
  change ((Side.of hash filter (Rows.forget rows)).valueAt z.position i >>= _) = _
  rw [Side.valueAt_of hz]
  rfl

theorem Side.elementAt_of {q : Nat} {z : Present α} (h : (presentIn rows i)[q]? = some z) :
    (Side.of hash filter (Rows.forget rows)).elementAt ((presentIn rows i).map Present.position) q
      i = .ok (metricIn rows i q, z.value) := by
  have hmem := List.mem_of_getElem? h
  unfold Side.elementAt
  rw [entry_present h]
  change (Side.metricAt _ z.position >>= _) = _
  rw [Side.metricAt_of hmem]
  change (Side.valueAt _ z.position i >>= _) = _
  rw [Side.valueAt_of hmem, metricIn_eq h]
  rfl

theorem setAt_of (op : BinaryOp) (l r : SeriesQuery.Rows α n) (i : Fin n) :
    setAt op (Side.of hash filter (Rows.forget l)) (Side.of hash filter (Rows.forget r)) i =
      .ok ((setStep op (keyed hash filter (l.atFrame i).toList)
        (keyed hash filter (r.atFrame i).toList)).map fun e => (e.item, e.value)) := by
  let name : Nat ⊕ Nat → Metric := Sum.elim (metricIn l i) (metricIn r i)
  unfold setAt
  rw [Side.presentAt_of, Side.presentAt_of]
  change (Side.keyedAt _ Sum.inl _ i >>= _) = _
  rw [Side.keyedAt_of]
  change (Side.keyedAt _ Sum.inr _ i >>= _) = _
  rw [Side.keyedAt_of]
  rw [← rename_itemsIn Sum.inl name fun q => rfl, ← rename_itemsIn Sum.inr name fun q => rfl,
    setStep_rename, List.map_map]
  refine mapM_eq_ok fun e he => ?_
  rcases mem_of_mem_setStep he with he | he
  · obtain ⟨q, z, hz, rfl⟩ := exists_of_mem_itemsIn he
    exact Side.elementAt_of hz
  · obtain ⟨q, z, hz, rfl⟩ := exists_of_mem_itemsIn he
    exact Side.elementAt_of hz

/-- A joined pair of elements as the element that is made of them. -/
def madeOf (op : BinaryOp) (matching : VectorMatching) (toBool : Bool) (j : Joined Metric α) :
    Metric × α :=
  (if matching.cardinality.keepsRight then resultMetric op matching toBool j.right j.left
    else resultMetric op matching toBool j.left j.right, j.value)

theorem joinAt_of (op : BinaryOp) (matching : VectorMatching) (toBool : Bool)
    (l r : SeriesQuery.Rows α n) (i : Fin n) :
    joinAt op matching toBool (Side.of hash filter (Rows.forget l))
      (Side.of hash filter (Rows.forget r)) i =
      lift ((List.map fun j => madeOf op matching toBool
          (Joined.rename (metricIn l i) (metricIn r i) j)) <$>
        (joinStep op matching toBool (itemsIn hash filter id l i)
          (itemsIn hash filter id r i)).mapError .multipleMatch) := by
  unfold joinAt
  rw [Side.presentAt_of, Side.presentAt_of]
  change (Side.keyedAt _ id _ i >>= _) = _
  rw [Side.keyedAt_of]
  change (Side.keyedAt _ id _ i >>= _) = _
  rw [Side.keyedAt_of]
  change (lift ((joinStep op matching toBool (itemsIn hash filter id l i)
    (itemsIn hash filter id r i)).mapError .multipleMatch) >>= _) = _
  cases hjoined : joinStep op matching toBool (itemsIn hash filter id l i)
    (itemsIn hash filter id r i) with
  | error e => rfl
  | ok joined =>
    refine mapM_eq_ok fun j hj => ?_
    obtain ⟨⟨a, ha, hleft⟩, b, hb, hright⟩ := items_of_joinStep
      (fun _ => hashed_of_mem_itemsIn) (fun _ => hashed_of_mem_itemsIn) hjoined hj
    obtain ⟨p, y, hy, rfl⟩ := exists_of_mem_itemsIn ha
    obtain ⟨q, z, hz, rfl⟩ := exists_of_mem_itemsIn hb
    obtain ⟨left, right, v⟩ := j
    obtain rfl : left = p := hleft
    obtain rfl : right = q := hright
    dsimp only
    rw [entry_present hy, entry_present hz]
    change (Side.metricAt _ y.position >>= _) = _
    rw [Side.metricAt_of (List.mem_of_getElem? hy)]
    change (Side.metricAt _ z.position >>= _) = _
    rw [Side.metricAt_of (List.mem_of_getElem? hz)]
    simp only [madeOf, Joined.rename, metricIn_eq hy, metricIn_eq hz]
    rfl

variable (hash filter) in
theorem joinStep_itemsIn (op : BinaryOp) (matching : VectorMatching) (toBool : Bool)
    (l r : SeriesQuery.Rows α n) (i : Fin n) :
    SameResult (List.map (Joined.rename (metricIn l i) (metricIn r i)) <$>
        joinStep op matching toBool (itemsIn hash filter id l i) (itemsIn hash filter id r i))
      (joinStep op matching toBool (keyed hash filter (l.atFrame i).toList)
        (keyed hash filter (r.atFrame i).toList)) := by
  rw [← rename_itemsIn id (metricIn l i) fun q => rfl,
    ← rename_itemsIn id (metricIn r i) fun q => rfl]
  exact joinStep_rename op matching toBool _ _ (fun _ => hashed_of_mem_itemsIn)
    fun _ => hashed_of_mem_itemsIn

/-- Vectors are combined frame by frame, whichever way their elements are found. -/
theorem fits_vectorVector (op : BinaryOp) (matching : VectorMatching) (toBool : Bool)
    (l r : SeriesQuery.Rows α n) :
    FitsRows (vectorVector n hash op matching toBool (Rows.forget l) (Rows.forget r)) fun i =>
      combineVectors op matching toBool (keyed hash matching.filter (l.atFrame i).toList)
        (keyed hash matching.filter (r.atFrame i).toList) := by
  unfold vectorVector combineVectors
  by_cases hset : op.isSet = true
  · simp only [hset, if_true]
    have hlen : (rowsFor n).len = n := rfl
    exact RowSink.fits_fill hlen (setAt op _ _) (fun i => .ok _) fun i => setAt_of op l r i
  · simp only [hset]
    have hlen : (⟨n, .notUnique⟩ : RowSink).len = n := rfl
    refine (RowSink.fits_fill hlen (joinAt op matching toBool
      (Side.of hash matching.filter (Rows.forget l)) (Side.of hash matching.filter (Rows.forget r)))
      _ fun i => joinAt_of op matching toBool l r i).congr_right fun i => ?_
    have hjoin := joinStep_itemsIn hash matching.filter op matching toBool l r i
    rcases hjoin.cases with ⟨named, hleft, hright⟩ | ⟨⟨e, hleft⟩, e', hright⟩
    · obtain ⟨joined, hjoined, rfl⟩ := map_eq_ok_iff.1 hleft
      rw [hjoined, hright]
      refine .of_eq ?_
      change collect .notUnique (joined.map _) = collect .notUnique ((joined.map _).map _)
      rw [List.map_map]
      rfl
    · rw [map_eq_error_iff.1 hleft, hright]
      exact fun _ => iff_of_false nofun nofun

end Pairs

theorem fits_binary [SampleValue α] [Fact (0 < n)] (hash : LabelHash) (op : BinaryOp)
    (matching : VectorMatching) (toBool : Bool) (l r : Shaped α n) :
    FitsColumn (binary n hash op matching toBool l.forget r.forget) fun i =>
      Value.binary hash op matching toBool (l.atFrame i) (r.atFrame i) := by
  obtain ⟨l, -⟩ := l
  obtain ⟨r, -⟩ := r
  cases l with
  | scalar l =>
    cases r with
    | scalar r =>
      let value (e : α × α) : α := op.apply e.1 e.2
      have hrun : binary n hash op matching toBool (.scalar l.toList) (.scalar r.toList) =
          .scalar <$> (List.map value <$> pairs l.toList r.toList) := by
        change (pairs l.toList r.toList >>= _) = _
        cases pairs l.toList r.toList <;> rfl
      change Fits _ _ (binary n hash op matching toBool (.scalar l.toList) (.scalar r.toList)) _
      rw [hrun, map_pairs_toList]
      exact (Fits.ok (Vector.ofFn fun i => value (l.get i, r.get i))
        fun i => by rw [vector_get_ofFn]).scalar
    | vector r => exact (fits_vectorScalar op toBool true r l).vector
    | _ => exact fits_unexpected _ fun i => ⟨_, rfl⟩
  | vector l =>
    cases r with
    | scalar r => exact (fits_vectorScalar op toBool false l r).vector
    | vector r => exact (fits_vectorVector op matching toBool l r).vector
    | _ => exact fits_unexpected _ fun i => ⟨_, rfl⟩
  | _ => cases r <;> exact fits_unexpected _ fun i => ⟨_, rfl⟩

end SeriesQuery.Positional
