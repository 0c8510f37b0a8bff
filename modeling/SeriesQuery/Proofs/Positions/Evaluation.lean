import SeriesQuery.Proofs.Columns.Evaluation
import SeriesQuery.Proofs.Positions.Calls
import SeriesQuery.Proofs.Positions.Groups
import SeriesQuery.Proofs.Samples.Columns
import SeriesQuery.Proofs.Samples.History
import SeriesQuery.Proofs.Soundness.Evaluation

/-!
# Evaluation by position

For every part of a checked expression the column has one number or one entry of each row for
every frame, and the window of every frame is a part of the samples. So no position that is read
or written is outside its list, no row is cut where two lists are walked side by side, and the
values at the frames are those of the evaluation column by column.
-/

namespace SeriesQuery

namespace Positional

variable {α β γ ι : Type} [SampleValue α]

omit [SampleValue α] in
/-- Passing over samples moves a cursor that has passed over as many. -/
theorem passUntil_eq {c : Columnar.Cursor α} {samples : List (Sample α)} {k : Nat}
    (hk : k ≤ samples.length) (h : c.At (samples.take k) samples) (finish : Int) :
    ∃ k', passUntil samples finish k = .ok k' ∧ k' ≤ samples.length ∧
      (c.advance finish).At (samples.take k') samples := by
  obtain ⟨passed, ahead⟩ := c
  have hahead : samples.drop k = ahead :=
    List.append_cancel_left ((List.take_append_drop k samples).trans h.1)
  induction ahead generalizing passed k with
  | nil =>
    have hend : ¬k < samples.length := Nat.not_lt.2 (List.drop_eq_nil_iff.1 hahead)
    refine ⟨k, ?_, hk, h⟩
    unfold passUntil
    rw [if_neg hend]
  | cons s rest ih =>
    have hget : samples[k]? = some s := by
      rw [← List.head?_drop, hahead]
      rfl
    have hlt : k < samples.length := (List.getElem?_eq_some_iff.1 hget).1
    unfold passUntil
    rw [if_pos hlt, entry_eq_ok hget]
    change ∃ k', (if s.timestamp ≤ finish then passUntil samples finish (k + 1) else .ok k) =
      .ok k' ∧ k' ≤ samples.length ∧
        (Columnar.Cursor.advanceThrough finish passed (s :: rest)).At _ _
    unfold Columnar.Cursor.advanceThrough
    by_cases hs : s.timestamp ≤ finish
    · rw [if_pos hs, if_pos hs]
      have hrest : samples.drop (k + 1) = rest := by
        rw [← List.tail_drop, hahead]
        rfl
      refine ih hlt (some s) ⟨?_, ?_⟩ hrest
      · rw [← hrest]
        exact (List.take_append_drop ..).symm
      · rw [List.take_add_one, hget]
        exact List.getLast?_concat.symm
    · rw [if_neg hs, if_neg hs]
      exact ⟨k, rfl, hk, h⟩

/-- The values that a cursor sees at ascending times, first to last. -/
def recents (lookback : Int) (times : List Int) (c : Columnar.Cursor α) :
    Except QueryError (Row α) :=
  (times.zip (c.sweep times)).mapM fun e => Columnar.recent lookback e.1 e.2

theorem recents_cons (lookback t : Int) (rest : List Int) (c : Columnar.Cursor α) :
    recents lookback (t :: rest) c = (do
      let v ← Columnar.recent lookback t (c.advance t).passed
      let row ← recents lookback rest (c.advance t)
      return v :: row) := List.mapM_cons

theorem lift_append_recents_cons (lookback t : Int) (rest : List Int) (c : Columnar.Cursor α)
    (done : Row α) :
    lift ((done ++ ·) <$> recents lookback (t :: rest) c) =
      lift (Columnar.recent lookback t (c.advance t).passed) >>= fun v =>
        lift ((done ++ v :: ·) <$> recents lookback rest (c.advance t)) := by
  rw [recents_cons]
  cases Columnar.recent lookback t (c.advance t).passed with
  | error e => rfl
  | ok v => cases recents lookback rest (c.advance t) <;> rfl

/-- Where a row is still empty, the values that the cursor sees are written. -/
theorem writeLatest_eq {c : Columnar.Cursor α} {samples : List (Sample α)} {k : Nat}
    (hk : k ≤ samples.length) (h : c.At (samples.take k) samples) (lookback : Int)
    (times : List Int) (done : Row α) :
    writeLatest samples lookback times done.length k
        (done ++ List.replicate times.length none) =
      lift ((done ++ ·) <$> recents lookback times c) := by
  induction times generalizing c k done with
  | nil => rfl
  | cons t rest ih =>
    obtain ⟨k', hpass, hk', hadvance⟩ := passUntil_eq hk h t
    -- one value is found, and the rest is written behind it
    have hnext (v : Option α) : writeLatest samples lookback rest (done.length + 1) k'
          (done ++ v :: List.replicate rest.length none) =
        lift ((done ++ v :: ·) <$> recents lookback rest (c.advance t)) := by
      have hrest := ih hk' hadvance (done ++ [v])
      rw [List.length_append, List.append_assoc] at hrest
      refine hrest.trans (congrArg (fun extend => lift (extend <$> _)) (funext fun row => ?_))
      rw [List.append_assoc]
      rfl
    rw [lift_append_recents_cons]
    unfold writeLatest
    rw [hpass]
    change (if k' = 0 then _ else _) = _
    by_cases hzero : k' = 0
    · have hnone : (c.advance t).passed = none := by
        rw [hadvance.2, hzero]
        rfl
      rw [if_pos hzero, hnone]
      exact hnext none
    · obtain ⟨s, hget⟩ : ∃ s, samples[k' - 1]? = some s :=
        ⟨_, List.getElem?_eq_getElem (by omega)⟩
      have hlast : (c.advance t).passed = some s := by
        rw [hadvance.2, List.getLast?_take, if_neg hzero, hget]
        rfl
      rw [if_neg hzero, entry_eq_ok hget, hlast]
      unfold Columnar.recent
      cases Millis.earlier t lookback with
      | error e => rfl
      | ok start =>
        change (if (start ≤ s.timestamp && !s.isStale) = true then _ else _) =
          lift ((done ++ (if (start ≤ s.timestamp && !s.isStale) = true then _ else _) :: ·) <$> _)
        by_cases hseen : (start ≤ s.timestamp && !s.isStale) = true
        · rw [if_pos hseen, if_pos hseen]
          change (write (done ++ none :: List.replicate rest.length none) done.length _ >>= _) = _
          rw [write_append]
          exact hnext (some s.value)
        · rw [if_neg hseen, if_neg hseen]
          exact hnext none

omit [SampleValue α] in
theorem mapM_finRange {n : Nat} {m : Type → Type} [Monad m] [LawfulMonad m] (f : Fin n → m β) :
    (List.finRange n).mapM f = Vector.toList <$> Vector.ofFnM f := by
  rw [Vector.toList_ofFnM]
  induction n with
  | zero => rw [List.finRange_zero, List.mapM_nil, List.ofFnM_zero]
  | succ n ih =>
    rw [List.finRange_succ, List.mapM_cons, List.mapM_map, List.ofFnM_succ]
    refine bind_congr fun b => ?_
    exact congrArg (· >>= fun bs => pure (b :: bs)) (ih fun i => f i.succ)

omit [SampleValue α] in
theorem mapM_frames (frames : TimeFrames) (f : Int → Except QueryError β) :
    (frames.toList.mapM fun t => lift (f t)) =
      lift (Vector.toList <$> Vector.ofFnM fun i : Fin frames.len => f (frames.atIndex i)) := by
  unfold TimeFrames.toList
  rw [mapM_lift, toList_eq_map_finRange, List.mapM_map, mapM_finRange]
  simp only [Function.comp_def, TimeFrames.get_toVector]

theorem latestRow_eq (frames : TimeFrames) (offset lookback : Int) (samples : Array (Sample α)) :
    latestRow frames offset lookback samples =
      lift (Vector.toList <$> Columnar.latestRow frames offset lookback samples) := by
  have hstart : (⟨none, samples.toList⟩ : Columnar.Cursor α).At (samples.toList.take 0)
      samples.toList := ⟨rfl, rfl⟩
  unfold latestRow Columnar.latestRow
  rw [mapM_frames]
  cases Vector.ofFnM fun i : Fin frames.len => Millis.earlier (frames.atIndex i) offset with
  | error e => rfl
  | ok ends =>
    have hrow := writeLatest_eq (Nat.zero_le _) hstart lookback ends.toList []
    rw [Vector.length_toList] at hrow
    refine hrow.trans (congrArg lift ?_)
    let passed : Vector (Option (Sample α)) frames.len :=
      ⟨((⟨none, samples.toList⟩ : Columnar.Cursor α).sweep ends.toList).toArray, by
        simp [Columnar.Cursor.length_sweep]⟩
    have hpassed : (⟨none, samples.toList⟩ : Columnar.Cursor α).sweep ends.toList =
        (List.finRange frames.len).map passed.get := (toList_eq_map_finRange passed)
    unfold recents
    rw [hpassed, toList_eq_map_finRange ends, List.zip_map', List.mapM_map, mapM_finRange]
    change id <$> _ = _
    rw [id_map]
    rfl

theorem windowRow_eq (frames : TimeFrames) (offset duration : Int)
    (samples : Array (Sample α)) :
    windowRow frames offset duration samples =
      lift (Shaped.forgetWindows <$> Columnar.windowRow frames offset duration samples) := by
  let bounds (t : Int) : Except QueryError (Nat × Nat) := do
    let finish ← Millis.earlier t offset
    let start ← Millis.earlier finish duration
    let live := samples.filter (!·.isStale)
    let lower := partitionPoint (fun s => s.timestamp < start) live
    let upper := partitionPoint (fun s => s.timestamp ≤ finish) live
    return (lower, max upper lower)
  have hbounds (t : Int) : (do
      let finish ← lift (Millis.earlier t offset)
      let start ← lift (Millis.earlier finish duration)
      let live := samples.filter (!·.isStale)
      let lower := partitionPoint (fun s => s.timestamp < start) live
      let upper := partitionPoint (fun s => s.timestamp ≤ finish) live
      return (lower, max upper lower) : Run (Nat × Nat)) = lift (bounds t) := by
    unfold bounds
    simp only [lift_bind]
    rfl
  unfold windowRow Columnar.windowRow
  simp only [hbounds]
  rw [mapM_frames]
  change lift (Vector.toList <$> _) >>= _ = lift (_ <$> ((Vector.ofFnM fun i => bounds _) >>= _))
  cases Vector.ofFnM fun i : Fin frames.len => bounds (frames.atIndex i) <;> rfl

omit [SampleValue α] in
theorem foldlM_insert_kept (forget : β → γ) (keep : β → Bool) (keep' : γ → Bool)
    (hkeep : ∀ b, keep' (forget b) = keep b) {row : ι → Except QueryError β} {row' : ι → Run γ}
    (hrow : ∀ x, row' x = lift (forget <$> row x)) (metric : ι → Metric)
    (l : List ι) (out : SeriesMap β) :
    (l.foldlM (fun out x => do
        let found ← row' x
        return if keep' found then out.insert (metric x) found else out)
      (out.mapValues fun _ => forget) : Run (SeriesMap γ)) =
    lift ((fun rows => (out.insertAll (rows.filter fun e => keep e.2)).mapValues fun _ => forget) <$>
      l.mapM fun x => do return (metric x, ← row x)) := by
  induction l generalizing out with
  | nil => rfl
  | cons x rest ih =>
    rw [List.foldlM_cons, List.mapM_cons, hrow]
    cases row x with
    | error e => rfl
    | ok found =>
      have hstep : (if keep' (forget found) then
            SortedMap.insert (out.mapValues fun _ => forget) (metric x) (forget found)
          else out.mapValues fun _ => forget) =
          (if keep found then out.insert (metric x) found else out).mapValues fun _ => forget := by
        rw [hkeep]
        by_cases hkept : keep found = true
        · rw [if_pos hkept, if_pos hkept, SortedMap.mapValues_insert]
        · rw [if_neg hkept, if_neg hkept]
      change rest.foldlM _ (if keep' (forget found) then _ else _) = _
      rw [hstep, ih]
      cases rest.mapM fun x => do return (metric x, ← row x) with
      | error e => rfl
      | ok rows =>
        change Except.ok _ = Except.ok ((out.insertAll
          (((metric x, found) :: rows).filter fun e => keep e.2)).mapValues fun _ => forget)
        rw [List.filter_cons]
        by_cases hkept : keep found = true
        · rw [if_pos hkept, if_pos hkept]
          rfl
        · rw [if_neg hkept, if_neg hkept]

theorem selectLatest_eq (c : Context α) (s : Selector) :
    selectLatest c s = lift (Shaped.forgetLengths <$> Columnar.selectLatest c s) := by
  have hfetch : fetch c s c.lookback = lift (Columnar.fetch c s c.lookback) := rfl
  unfold selectLatest Columnar.selectLatest
  rw [hfetch]
  cases Columnar.fetch c s c.lookback with
  | error e => rfl
  | ok series =>
    have hrows := foldlM_insert_kept Vector.toList (Vector.any · Option.isSome)
      (List.any · Option.isSome) (fun _ => Vector.any_toList)
      (fun x : SeriesSamples α => latestRow_eq c.frames s.offset c.lookback x.samples)
      SeriesSamples.metric series .empty
    change (series.foldlM _ _ >>= _ : Run (Column α)) = lift (_ <$> (series.mapM _ >>= _))
    refine (congrArg (· >>= fun rows => .ok (Column.vector rows)) hrows).trans ?_
    cases series.mapM fun x => do
      return (x.metric, ← Columnar.latestRow c.frames s.offset c.lookback x.samples) <;> rfl

theorem selectWindow_eq (c : Context α) (s : Selector) (duration : Int) :
    selectWindow c s duration =
      lift (Shaped.forgetLengths <$> Columnar.selectWindow c s duration) := by
  have hfetch : fetch c s duration = lift (Columnar.fetch c s duration) := rfl
  unfold selectWindow Columnar.selectWindow
  rw [hfetch]
  cases Columnar.fetch c s duration with
  | error e => rfl
  | ok series =>
    have hrows := foldlM_insert_kept Shaped.forgetWindows
      (fun row : SeriesQuery.WindowRow α c.frames.len => row.bounds.any fun b => b.1 < b.2)
      (fun row => row.windows.any fun w => w.1 < w.2) (fun _ => Vector.any_toList)
      (fun x : SeriesSamples α => windowRow_eq c.frames s.offset duration x.samples)
      SeriesSamples.metric series .empty
    change (series.foldlM _ _ >>= _ : Run (Column α)) = lift (_ <$> (series.mapM _ >>= _))
    refine (congrArg (· >>= fun rows => .ok (Column.matrix rows duration s.offset)) hrows).trans ?_
    cases series.mapM fun x => do
      return (x.metric, ← Columnar.windowRow c.frames s.offset duration x.samples) <;> rfl

theorem inRange_of_selectWindow {c : Context α} {s : Selector} {duration : Int}
    {rows : SeriesMap (SeriesQuery.WindowRow α c.frames.len)} {range offset : Int}
    (h : Columnar.selectWindow c s duration = .ok (.matrix rows range offset)) :
    ∀ e ∈ rows.toList, InRange e.2 := by
  intro e he
  obtain ⟨samples, hrow⟩ := Columnar.exists_windowRow_of_selectWindow h he
  have hsound := Columnar.sound_of_windowRow hrow
  exact fun i => ⟨hsound.ordered i, hsound.within i⟩

omit [SampleValue α] in
/-- What is read from a column is read from it when its lengths are forgotten. -/
theorem Fits.of_column {n : Nat} {x : Run (Column α)}
    {found : Except QueryError (SeriesQuery.Column α n)}
    {y : Fin n → Except QueryError (Value α)}
    (hx : x = Positional.lift (Shaped.forgetLengths <$> found))
    (hrange : ∀ rows range offset, found = .ok (.matrix rows range offset) →
      ∀ e ∈ rows.toList, InRange e.2)
    (h : Framewise SeriesQuery.Column.atFrame found y) : FitsColumn x y := by
  cases found with
  | error e => exact ⟨.error e, hx, h⟩
  | ok column =>
    refine ⟨.ok ⟨column, fun rows range offset hcolumn => ?_⟩, hx, h⟩
    exact hrange rows range offset (congrArg Except.ok hcolumn)

omit [SampleValue α] in
theorem Shaped.eq_matrix_of_forget {n : Nat} {x : Shaped α n} {rows : SeriesMap (WindowRow α)}
    {range offset : Int} (h : x.forget = .matrix rows range offset) :
    ∃ rows', x.column = .matrix rows' range offset := by
  obtain ⟨column, hrange⟩ := x
  cases column with
  | matrix rows' range' offset' =>
    cases h
    exact ⟨rows', rfl⟩
  | _ => cases h

/-- The range vector of a checked window function comes from a range selector. -/
theorem exists_range_arg {c : Context α} {f : Function} (hkind : f.kind = .window)
    {args : List (Expr α)} (hargs : Expr.ArgsFit f args) {values : List (Shaped α c.frames.len)}
    (hvalues : args.mapM (eval c) = .ok (values.map Shaped.forget)) :
    ∃ s duration x rows, args[f.matrixArg]? = some (.range s duration) ∧
      values[f.matrixArg]? = some x ∧ x.column = .matrix rows duration s.offset ∧
      ∀ i : Fin c.frames.len, ∃ w,
        Window.of (c.frames.atIndex i) duration s.offset = .ok w := by
  obtain ⟨s, duration, hget⟩ := hargs.exists_range hkind
  have hall := List.forall₂_map_right_iff.1 (mapM_eq_ok_iff.1 hvalues)
  obtain ⟨x, hvalue, hx⟩ := exists_of_forall₂ hall.flip hget
  rw [eval, selectWindow_eq] at hx
  cases hselect : Columnar.selectWindow c s duration with
  | error e =>
    rw [hselect] at hx
    cases hx
  | ok column =>
    obtain ⟨rows, rfl⟩ := Columnar.eq_matrix_of_selectWindow hselect
    rw [hselect] at hx
    obtain ⟨rows', hcolumn⟩ := Shaped.eq_matrix_of_forget (Except.ok.inj hx).symm
    obtain ⟨-, hduration, -⟩ := Expr.check_range_ok (hargs.types hget)
    have hfits := Columnar.fits_of_selectWindow hselect
    exact ⟨s, duration, x, rows', hget, hvalue, hcolumn,
      fun i => hfits.exists_window (Int.le_of_lt hduration) i.2⟩

variable {c : Context α} {r : Fin c.frames.len → Reading α (Except QueryError)}

theorem fits_call {f : Function} {args : List (Expr α)} (hargs : Expr.ArgsFit f args)
    (h : ∀ a ∈ args, FitsColumn (eval c a) fun i =>
      Stepwise.eval (r i) c.hash (c.frames.atIndex i) a) :
    FitsColumn (call c.frames f args (evalArgs c args)) fun i =>
      Stepwise.call (c.frames.atIndex i) f args
        (Stepwise.evalArgs (r i) c.hash (c.frames.atIndex i) args) := by
  unfold call
  by_cases hrelabel : f = .labelReplace ∨ f = .labelJoin
  · rw [if_pos hrelabel]
    obtain ⟨a, rest, rfl⟩ := List.exists_cons_of_length_pos
      (Nat.lt_of_lt_of_le (Function.relabel_signature hrelabel).1 hargs.required)
    refine (fits_relabel hrelabel hargs (h a (.head _)) _).congr_right fun i => .of_eq ?_
    rcases hrelabel with rfl | rfl <;> rfl
  · rw [if_neg hrelabel, evalArgs_eq_map, List.mapM_map]
    let callFound (i : Fin c.frames.len) (found : List (Value α)) : Except QueryError (Value α) :=
      Stepwise.call (c.frames.atIndex i) f args (found.map Except.ok)
    refine ((Fits.mapM h).bind_found (g := callFound) fun values hok => ?_).congr_right
      fun i => ?_
    · exact fits_callValues hrelabel hargs fun hkind => exists_range_arg hkind hargs hok
    rw [Stepwise.evalArgs_eq_map]
    refine SameResult.trans (.of_eq ?_) (Stepwise.call_found _ hrelabel fun hvariadic => ?_)
    · rw [List.mapM_map]
      rfl
    · rw [List.length_map]
      exact hargs.atMost hvariadic

/-- A checked expression is evaluated in range, and its column reads at each frame as the value of
the expression there, where the selectors are answered from their columns. -/
theorem fits_eval (c : Context α) {e : Expr α} {t : ValueType} (h : e.check = .ok t) :
    FitsColumn (eval c e) fun i =>
      Stepwise.eval (Columnar.readingAt c i) c.hash (c.frames.atIndex i) e := by
  induction e generalizing t with
  | number v =>
    rw [eval, ← Vector.toList_replicate]
    refine .ok (Shaped.scalar (Vector.replicate _ v)) fun i => ?_
    refine congrArg (fun v => Except.ok (Value.scalar v)) ?_
    rw [vector_get _ i.2]
    simp
  | string text =>
    rw [eval]
    exact .ok (Shaped.string text) fun i => rfl
  | selector s =>
    have hread := (Columnar.readAs_columns c [(s, none)]).latest s (.head _)
    rw [eval]
    refine .of_column (selectLatest_eq c s) (fun rows range offset hmatrix => ?_) hread
    obtain ⟨rows', hvector⟩ := Columnar.eq_vector_of_selectLatest hmatrix
    cases hvector
  | range s duration =>
    have hread := (Columnar.readAs_columns c [(s, some duration)]).windows s duration (.head _)
    rw [eval]
    exact .of_column (selectWindow_eq c s duration) (fun _ _ _ => inRange_of_selectWindow) hread
  | negate e ih =>
    rw [eval]
    exact (ih (Expr.check_negate_ok h).1).bind fun x => fits_negate x
  | binary op left right matching toBool ihl ihr =>
    obtain ⟨lt, rt, hl, hr, -⟩ := Expr.check_binary_ok h
    rw [eval]
    refine (ihl hl).bind fun x => ?_
    exact (ihr hr).bind fun y => fits_binary c.hash op matching toBool x y
  | aggregate op e param grouping ih ihp =>
    obtain ⟨he, hparam, -⟩ := Expr.check_aggregate_ok h
    have hp : Fits (Option.map Shaped.forget) (fun p i => p.map (Shaped.atFrame · i))
        (evalParam c param) fun i =>
          Stepwise.evalParam (Columnar.readingAt c i) c.hash (c.frames.atIndex i) param := by
      cases param with
      | none => exact .ok none fun i => rfl
      | some p =>
        obtain ⟨expected, -, hp⟩ := hparam
        exact (ihp p rfl hp).map some (fun _ => rfl) fun _ _ => rfl
    rw [eval]
    refine hp.bind fun p => ?_
    exact (ih he).bind fun x => fits_aggregate c.hash op grouping p x
  | call f args ih =>
    obtain ⟨hargs, -⟩ := Expr.check_call_ok h
    rw [eval]
    refine fits_call hargs fun a ha => ?_
    obtain ⟨k, hk⟩ := List.mem_iff_getElem?.1 ha
    exact ih a ha (hargs.types hk)

/-- A run neither reads nor writes outside a list and cuts no list short. -/
def StaysInRange (x : Run β) : Prop := x ≠ .error .outOfRange ∧ x ≠ .error .uneven

/-- A column has a number, an entry of each row or a window of each row for each of `n` frames,
and the windows are parts of the samples. -/
def Column.WellShaped (n : Nat) : Column α → Prop
  | .scalar values => values.length = n
  | .string _ => True
  | .vector rows => ∀ e ∈ rows.toList, e.2.length = n
  | .matrix rows _ _ => ∀ e ∈ rows.toList, e.2.windows.length = n ∧
      ∀ w ∈ e.2.windows, w.1 ≤ w.2 ∧ w.2 ≤ e.2.samples.length

omit [SampleValue α] in
theorem staysInRange_lift (x : Except QueryError β) : StaysInRange (lift x) := by
  cases x <;> exact ⟨nofun, nofun⟩

namespace Shaped

variable {n : Nat}

omit [SampleValue α] in
theorem wellShaped (x : Shaped α n) : x.forget.WellShaped n := by
  obtain ⟨column, hrange⟩ := x
  cases column with
  | scalar values => exact values.length_toList
  | string text => trivial
  | vector rows =>
    intro e he
    obtain ⟨e, -, rfl⟩ := List.mem_map.1 he
    exact e.2.length_toList
  | matrix rows range offset =>
    intro e he
    obtain ⟨e, hmem, rfl⟩ := List.mem_map.1 he
    refine ⟨e.2.bounds.length_toList, fun w hw => ?_⟩
    obtain ⟨i, hi, rfl⟩ := Vector.mem_iff_getElem.1 (Vector.mem_toList_iff.1 hw)
    have hpart := hrange rows range offset rfl e hmem ⟨i, hi⟩
    refine ⟨hpart.1, ?_⟩
    change _ ≤ e.2.samples.toList.length
    rw [Array.length_toList]
    exact hpart.2

omit [SampleValue α] in
theorem windowsAt_forget {rows : SeriesMap (SeriesQuery.WindowRow α n)}
    (h : ∀ e ∈ rows.toList, InRange e.2) (i : Fin n) :
    Column.windowsAt (rows.mapValues fun _ row => forgetWindows row) i =
      .ok (rows.filterMap fun _ row =>
        if row.isEmptyAt i then none else some (row.window i)).toList := by
  let shown (e : Metric × SeriesQuery.WindowRow α n) : Option (Metric × List (Sample α)) :=
    if e.2.isEmptyAt i then none else some (e.1, e.2.window i)
  unfold Column.windowsAt
  change ((rows.toList.map fun e => (e.1, forgetWindows e.2)).mapM _ >>= _) = _
  rw [List.mapM_map]
  refine (congrArg (· >>= _) (mapM_eq_ok (g := shown) fun e he => ?_)).trans ?_
  · change (entry e.2.bounds.toList i >>= _) = _
    rw [entry_toList]
    change (if (e.2.bounds.get i).2 ≤ (e.2.bounds.get i).1 then _ else
      (slice e.2.samples.toList (e.2.bounds.get i).1 (e.2.bounds.get i).2 >>= _)) = _
    rw [slice_window (h e he)]
    unfold shown SeriesQuery.WindowRow.isEmptyAt
    by_cases hempty : (e.2.bounds.get i).2 ≤ (e.2.bounds.get i).1
    · rw [if_pos hempty, if_pos (decide_eq_true hempty)]
      rfl
    · rw [if_neg hempty, if_neg (by simpa using hempty)]
      rfl
  · change Except.ok ((rows.toList.map shown).filterMap id) = _
    rw [List.filterMap_map]
    refine congrArg Except.ok (List.filterMap_congr fun e _ => ?_)
    dsimp only [Function.comp_apply, id, shown]
    by_cases hempty : e.2.isEmptyAt i = true
    · rw [if_pos hempty, if_pos hempty]
      rfl
    · rw [if_neg hempty, if_neg hempty]
      rfl

omit [SampleValue α] in
theorem steps_forget (x : Shaped α n) : x.forget.steps n = .ok (List.ofFn x.atFrame) := by
  obtain ⟨column, hrange⟩ := x
  cases column with
  | scalar values =>
    refine congrArg Except.ok ?_
    rw [map_toList, Vector.toList_ofFn]
    rfl
  | string text =>
    refine congrArg Except.ok ?_
    rw [← List.ofFn_const]
    rfl
  | vector rows =>
    have hstep (i : Fin n) : (do
        return .vector (.ofList (← Column.vectorAt (Rows.forget rows) i)) : Run (Value α)) =
          .ok (.vector (rows.atFrame i)) := by
      rw [vectorAt_forget]
      change Except.ok (Value.vector (.ofList (rows.atFrame i).toList)) = _
      rw [SortedMap.ofList_toList]
    refine (mapM_range_eq_ok hstep).trans (congrArg Except.ok ?_)
    rw [Vector.toList_ofFn]
    rfl
  | matrix rows range offset =>
    have hstep (i : Fin n) : (do
        return .matrix (.ofList (← Column.windowsAt
          (rows.mapValues fun _ row => forgetWindows row) i)) : Run (Value α)) =
          .ok ((SeriesQuery.Column.matrix rows range offset).atFrame i) := by
      rw [windowsAt_forget (hrange rows range offset rfl)]
      change Except.ok (Value.matrix (.ofList (SortedMap.toList _))) = _
      rw [SortedMap.ofList_toList]
      rfl
    refine (mapM_range_eq_ok hstep).trans (congrArg Except.ok ?_)
    rw [Vector.toList_ofFn]
    rfl

end Shaped

/-- The values at the frames are those of the column that is found column by column. -/
theorem alike_eval (c : Context α) {e : Expr α} {t : ValueType} (h : e.check = .ok t) :
    Alike (fun x column => x.steps c.frames.len = .ok (List.ofFn column.atFrame)) (eval c e)
      (Columnar.eval c e).outcome := by
  obtain ⟨found, hfound, hread⟩ := fits_eval c h
  have halike := hread.alike
    (Columnar.framewise_eval (Columnar.readAs_columns c e.selectors) h) fun i => .refl _
  rw [hfound]
  cases hcolumn : (Columnar.eval c e).outcome with
  | error err =>
    rw [hcolumn] at halike
    cases found with
    | error err' => trivial
    | ok x => exact halike.elim
  | ok column =>
    rw [hcolumn] at halike
    cases found with
    | error err' => exact halike.elim
    | ok x =>
      refine (Shaped.steps_forget x).trans ?_
      rw [funext halike]

theorem alike_evaluate (c : Context α) {e : Expr α} {t : ValueType} (h : e.check = .ok t) :
    Alike (fun steps result => steps = result.steps.toList) (evaluate c e)
      (Columnar.evaluate c e).outcome := by
  rw [Columnar.outcome_evaluate]
  unfold evaluate
  cases c.validate e with
  | error err => trivial
  | ok u =>
    refine (alike_eval c h).bind fun x column hsteps => ?_
    rw [hsteps]
    exact Vector.toList_ofFn.symm

theorem staysInRange_evaluate (c : Context α) {e : Expr α} {t : ValueType}
    (h : e.check = .ok t) : StaysInRange (evaluate c e) := by
  obtain ⟨found, hfound, -⟩ := fits_eval c h
  unfold evaluate
  rw [hfound]
  cases c.validate e with
  | error err => exact ⟨nofun, nofun⟩
  | ok u =>
    cases found with
    | error err => exact ⟨nofun, nofun⟩
    | ok x =>
      change StaysInRange (x.forget.steps c.frames.len)
      rw [Shaped.steps_forget]
      exact ⟨nofun, nofun⟩

/-- Every part of a checked expression is evaluated in range to a well-shaped column, whose values
at the frames are those found column by column, and so is the whole. -/
theorem columns_well_shaped (c : Context α) {e : Expr α} {t : ValueType} (h : e.check = .ok t) :
    (∀ s, Expr.Within s e → StaysInRange (eval c s) ∧
      (∀ x, eval c s = .ok x → x.WellShaped c.frames.len) ∧
      Alike (fun x column => x.steps c.frames.len = .ok (List.ofFn column.atFrame)) (eval c s)
        (Columnar.eval c s).outcome) ∧
    StaysInRange (evaluate c e) ∧
    Alike (fun steps result => steps = result.steps.toList) (evaluate c e)
      (Columnar.evaluate c e).outcome := by
  refine ⟨fun s hs => ?_, staysInRange_evaluate c h, alike_evaluate c h⟩
  obtain ⟨t', ht'⟩ := hs.exists_check h
  obtain ⟨found, hfound, -⟩ := fits_eval c ht'
  refine ⟨?_, fun x hx => ?_, alike_eval c ht'⟩
  · rw [hfound]
    exact staysInRange_lift _
  · rw [hfound] at hx
    cases found with
    | error err => cases hx
    | ok shaped =>
      cases hx
      exact shaped.wellShaped

end Positional

def Expr.requestsByHost : Expr Binary64 :=
  .aggregate .sum
    (.binaryDefault .union (.call .countOverTime [.range (.named "requests") 60000]) .requests)
    none (.keeping ["host"])

namespace Positional

theorem requests_by_host_well_shaped :
    Expr.requestsByHost.check = .ok .vector ∧
    (∃ x, eval .endingRequests (.range (.named "requests") 60000) = .ok x ∧ x.WellShaped 3) ∧
    StaysInRange (evaluate .endingRequests .requestsByHost) ∧
    ∃ steps, evaluate .endingRequests .requestsByHost = .ok steps ∧ steps.length = 3 := by
  have hcheck : Expr.requestsByHost.check = .ok .vector := by decide +kernel
  obtain ⟨hparts, hinRange, halike⟩ := columns_well_shaped .endingRequests hcheck
  obtain ⟨-, hshape, hwindows⟩ :=
    hparts (.range (.named "requests") 60000) (.operand (.left (.arg (.head _) .self)))
  refine ⟨hcheck, ?_, hinRange, ?_⟩
  · obtain ⟨column, hcolumn⟩ : ∃ column, (Columnar.eval .endingRequests
        (.range (.named "requests") 60000)).outcome = .ok column :=
      exists_of_isOk (by decide +kernel)
    rw [hcolumn] at hwindows
    cases hx : eval .endingRequests (.range (.named "requests") 60000) with
    | error e =>
      rw [hx] at hwindows
      exact hwindows.elim
    | ok x => exact ⟨x, rfl, hshape x hx⟩
  · obtain ⟨r, hr, hlen⟩ := exists_of_any
      (x := (Columnar.evaluate .endingRequests .requestsByHost).outcome)
      (p := fun r => r.steps.toList.length = 3) (by decide +kernel)
    rw [hr] at halike
    cases hsteps : evaluate .endingRequests .requestsByHost with
    | error e =>
      rw [hsteps] at halike
      exact halike.elim
    | ok steps =>
      rw [hsteps] at halike
      exact ⟨steps, rfl, halike ▸ of_decide_eq_true hlen⟩

end Positional

end SeriesQuery
