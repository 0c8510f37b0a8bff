import SeriesQuery.Proofs.Fetching
import SeriesQuery.Proofs.Samples.Windows
import SeriesQuery.Proofs.Series.Rows

/-!
# What columns see of a series

A cursor that only moves forward finds the latest sample at every frame, and two counts of leading
samples bound the window of a frame.
-/

namespace SeriesQuery

variable {α : Type}

/-- No sample of a row ends its series, and the window of every frame is a part of the samples. -/
structure WindowRow.Sound [SampleValue α] {n : Nat} (row : WindowRow α n) : Prop where
  live : ∀ s ∈ row.samples.toList, s.isStale = false
  ordered : ∀ i, (row.bounds.get i).1 ≤ (row.bounds.get i).2
  within : ∀ i, (row.bounds.get i).2 ≤ row.samples.size

namespace Columnar

/-- A cursor that has passed over a leading part of some samples. -/
def Cursor.At (c : Cursor α) (passed samples : List (Sample α)) : Prop :=
  samples = passed ++ c.ahead ∧ c.passed = passed.getLast?

/-- The cursor passes over all samples up to a time if it was not behind that time. -/
theorem Cursor.At.advance {c : Cursor α} {passed samples : List (Sample α)}
    (h : c.At passed samples) (horder : InOrder samples) {finish : Int}
    (hpassed : ∀ s ∈ passed, s.timestamp ≤ finish) :
    (c.advance finish).At (samples.filter fun s => s.timestamp ≤ finish) samples := by
  obtain ⟨last, ahead⟩ := c
  obtain ⟨hsamples, hlast⟩ := h
  change samples = passed ++ ahead at hsamples
  change last = passed.getLast? at hlast
  change (advanceThrough finish last ahead).At _ samples
  induction ahead generalizing passed last with
  | nil =>
    have hall : samples.filter (fun s => s.timestamp ≤ finish) = samples := by
      rw [List.filter_eq_self]
      intro s hs
      rw [hsamples, List.append_nil] at hs
      simpa using hpassed s hs
    rw [hall]
    refine ⟨(List.append_nil _).symm, ?_⟩
    rw [hsamples, List.append_nil]
    exact hlast
  | cons s rest ih =>
    unfold advanceThrough
    by_cases hs : s.timestamp ≤ finish
    · rw [if_pos hs]
      have hnext : ∀ s' ∈ passed ++ [s], s'.timestamp ≤ finish := by
        intro s' hs'
        rcases List.mem_append.1 hs' with hs' | hs'
        · exact hpassed s' hs'
        · rw [List.mem_singleton.1 hs']
          exact hs
      exact ih hnext (some s) (by simp [hsamples]) (by simp)
    · rw [if_neg hs]
      have hrest : (s :: rest).filter (fun s => s.timestamp ≤ finish) = [] := by
        have hrest : InOrder (s :: rest) := (List.pairwise_append.1 (hsamples ▸ horder)).2.1
        rw [List.filter_eq_nil_iff]
        intro s' hs'
        rcases List.mem_cons.1 hs' with rfl | hs'
        · simpa using hs
        · have := List.rel_of_pairwise_cons hrest hs'
          simp only [decide_eq_true_eq]
          omega
      have hbefore : passed.filter (fun s => s.timestamp ≤ finish) = passed := by
        rw [List.filter_eq_self]
        intro s' hs'
        simpa using hpassed s' hs'
      have hfilter : samples.filter (fun s => s.timestamp ≤ finish) = passed := by
        rw [hsamples, List.filter_append, hbefore, hrest, List.append_nil]
      rw [hfilter]
      exact ⟨hsamples, hlast⟩

/-- At ascending times the cursor has passed the samples up to each. -/
theorem sweep_eq {c : Cursor α} {passed samples : List (Sample α)} (h : c.At passed samples)
    (horder : InOrder samples) {times : List Int} (htimes : times.Pairwise (· ≤ ·))
    (hpassed : ∀ s ∈ passed, ∀ t ∈ times, s.timestamp ≤ t) :
    c.sweep times = times.map fun t => (samples.filter fun s => s.timestamp ≤ t).getLast? := by
  induction times generalizing c passed with
  | nil => rfl
  | cons t rest ih =>
    have hadvance := h.advance horder fun s hs => hpassed s hs t (.head _)
    have hrest : ∀ s ∈ samples.filter (fun s => s.timestamp ≤ t), ∀ t' ∈ rest,
        s.timestamp ≤ t' := by
      intro s hs t' ht'
      have hst : s.timestamp ≤ t := by simpa using (List.mem_filter.1 hs).2
      have htt' : t ≤ t' := List.rel_of_pairwise_cons htimes ht'
      omega
    change (c.advance t).passed :: (c.advance t).sweep rest = _
    rw [List.map_cons, ih hadvance htimes.of_cons hrest, hadvance.2]

variable {c : Context α} {s : Selector} {window : Int}

theorem ofFnM_ends (hfits : c.Fits s window) (hwindow : 0 ≤ window) :
    Vector.ofFnM (fun i : Fin c.frames.len => Millis.earlier (c.frames.atIndex i) s.offset) =
      .ok (Vector.ofFn fun i => c.frames.atIndex i - s.offset) := by
  rw [ofFnM_eq_ok_iff]
  intro i
  rw [vector_get_ofFn]
  exact hfits.earlier_offset hwindow i.2

theorem ends_ascending (c : Context α) (s : Selector) :
    (Vector.ofFn fun i : Fin c.frames.len =>
      c.frames.atIndex i - s.offset).toList.Pairwise (· ≤ ·) := by
  rw [List.pairwise_iff_getElem]
  intro i j hi hj hij
  rw [Vector.length_toList] at hj
  have hle := c.frames.atIndex_le_atIndex (Nat.le_of_lt hij) hj
  simp only [Vector.getElem_toList, Vector.getElem_ofFn]
  omega

variable [SampleValue α] {samples : Array (Sample α)}

theorem recent_eq {lookback finish : Int} (h : Millis.InRange (finish - lookback))
    (passed : Option (Sample α)) :
    recent lookback finish passed = .ok (passed.bind (Sample.since? (finish - lookback))) := by
  cases passed with
  | none => rfl
  | some s =>
    unfold recent
    dsimp only
    rw [Millis.earlier_of_inRange h]
    rfl

/-- A row has at each frame the value of the latest sample before the frame's end. -/
theorem latestRow_eq (hfits : c.Fits s window) (hwindow : 0 ≤ window)
    (horder : InOrder samples.toList) :
    latestRow c.frames s.offset window samples = .ok (Vector.ofFn fun i =>
      (samples.toList.filter fun x => x.timestamp ≤ c.frames.atIndex i - s.offset).getLast?.bind
        (Sample.since? (c.frames.atIndex i - s.offset - window))) := by
  have hstart : (⟨none, samples.toList⟩ : Cursor α).At [] samples.toList := ⟨rfl, rfl⟩
  unfold latestRow
  rw [ofFnM_ends hfits hwindow]
  refine ofFnM_eq_ok_iff.2 fun i => ?_
  rw [vector_get_ofFn, vector_get_ofFn, recent_eq (hfits.inRange_start hwindow i.2),
    vector_get _ i.2]
  simp only [sweep_eq hstart horder (ends_ascending c s) (by simp), Vector.getElem_mk,
    List.getElem_toArray, List.getElem_map, Vector.getElem_toList, Vector.getElem_ofFn]

/-- Bounds that are found by halving are bounds, whatever the samples are. -/
theorem sound_of_windowRow {frames : TimeFrames} {offset duration : Int}
    {row : WindowRow α frames.len}
    (h : windowRow frames offset duration samples = .ok row) : row.Sound := by
  obtain ⟨bounds, hbounds, hrow⟩ := bind_eq_ok_iff.1 h
  obtain rfl := Except.ok.inj hrow
  have hget (i : Fin frames.len) : ∃ start finish, bounds.get i =
      (partitionPoint (fun s => s.timestamp < start) (samples.filter (!·.isStale)),
        max (partitionPoint (fun s => s.timestamp ≤ finish) (samples.filter (!·.isStale)))
          (partitionPoint (fun s => s.timestamp < start) (samples.filter (!·.isStale)))) := by
    obtain ⟨finish, -, h⟩ := bind_eq_ok_iff.1 (ofFnM_eq_ok_iff.1 hbounds i)
    obtain ⟨start, -, h⟩ := bind_eq_ok_iff.1 h
    exact ⟨start, finish, (Except.ok.inj h).symm⟩
  constructor
  · intro s hs
    rw [Array.toList_filter, List.mem_filter, Bool.not_eq_true'] at hs
    exact hs.2
  · intro i
    obtain ⟨start, finish, hi⟩ := hget i
    rw [hi]
    exact Nat.le_max_right _ _
  · intro i
    obtain ⟨start, finish, hi⟩ := hget i
    have hupper := partitionPoint_le (β := Sample α)
    rw [hi]
    exact Nat.max_le.2 ⟨hupper _ _, hupper _ _⟩

theorem exists_window_of_windowRow {frames : TimeFrames} {offset duration : Int}
    {row : WindowRow α frames.len}
    (h : windowRow frames offset duration samples = .ok row) (i : Fin frames.len) :
    ∃ w, Window.of (frames.atIndex i) duration offset = .ok w := by
  obtain ⟨bounds, hbounds, -⟩ := bind_eq_ok_iff.1 h
  obtain ⟨finish, hfinish, hbound⟩ := bind_eq_ok_iff.1 (ofFnM_eq_ok_iff.1 hbounds i)
  obtain ⟨start, hstart, -⟩ := bind_eq_ok_iff.1 hbound
  obtain ⟨hlatest, rfl⟩ := Millis.earlier_eq_ok_iff.1 hfinish
  obtain ⟨hearliest, rfl⟩ := Millis.earlier_eq_ok_iff.1 hstart
  exact ⟨_, Window.of_eq_ok_iff.2 ⟨hlatest, hearliest, rfl⟩⟩

theorem exists_windowRow_of_selectWindow {duration range offset : Int}
    {rows : SeriesMap (WindowRow α c.frames.len)}
    (h : selectWindow c s duration = .ok (.matrix rows range offset)) {e : _ × _}
    (he : e ∈ rows.toList) : ∃ samples, windowRow c.frames s.offset duration samples = .ok e.2 := by
  obtain ⟨series, -, h⟩ := bind_eq_ok_iff.1 h
  obtain ⟨found, hfound, h⟩ := bind_eq_ok_iff.1 h
  cases h
  have hmem := (List.mem_filter.1 (SortedMap.mem_of_mem_ofList he)).1
  obtain ⟨k, hk⟩ := List.mem_iff_getElem?.1 hmem
  obtain ⟨x, -, hx⟩ := exists_of_forall₂ (mapM_eq_ok_iff.1 hfound) hk
  obtain ⟨row, hrow, heq⟩ := bind_eq_ok_iff.1 hx
  cases heq
  exact ⟨x.samples, hrow⟩

/-- The live samples of a series, and the window of each frame by two counts of leading ones. -/
def countedRow (frames : TimeFrames) (offset duration : Int) (samples : Array (Sample α)) :
    WindowRow α frames.len where
  samples := samples.filter (!·.isStale)
  bounds := Vector.ofFn fun i =>
    (((samples.toList.filter (!·.isStale)).filter fun s =>
        s.timestamp < frames.atIndex i - offset - duration).length,
      ((samples.toList.filter (!·.isStale)).filter fun s =>
        s.timestamp ≤ frames.atIndex i - offset).length)

theorem windowRow_eq (hfits : c.Fits s window) (hwindow : 0 ≤ window)
    (horder : InOrder samples.toList) :
    windowRow c.frames s.offset window samples =
      .ok (countedRow c.frames s.offset window samples) := by
  have hlive : InOrder (samples.filter (!·.isStale)).toList := by
    rw [Array.toList_filter]
    exact horder.filter _
  refine bind_eq_ok_iff.2 ⟨_, ofFnM_eq_ok_iff.2 fun i => ?_, rfl⟩
  have hle : c.frames.atIndex i - s.offset - window ≤ c.frames.atIndex i - s.offset := by omega
  refine bind_eq_ok_iff.2 ⟨_, hfits.earlier_offset hwindow i.2, ?_⟩
  refine bind_eq_ok_iff.2 ⟨_, hfits.earlier_window hwindow i.2, ?_⟩
  rw [partitionPoint_eq (hlive.leads_lt _), partitionPoint_eq (hlive.leads_le _),
    Array.toList_filter, vector_get_ofFn]
  dsimp only
  rw [Nat.max_eq_left (count_lt_le_count_le _ hle)]
  rfl

theorem window_countedRow {frames : TimeFrames} {offset : Int} (horder : InOrder samples.toList)
    (hwindow : 0 ≤ window) (i : Fin frames.len) :
    (countedRow frames offset window samples).window i =
      (samples.toList.filter (!·.isStale)).filter fun s =>
        frames.atIndex i - offset - window ≤ s.timestamp &&
          s.timestamp ≤ frames.atIndex i - offset := by
  unfold WindowRow.window countedRow
  dsimp only
  rw [vector_get_ofFn, Array.toList_extract, ← drop_take_counts (horder.filter _) (by omega)]
  simp [List.extract, List.drop_take]

theorem isEmptyAt_countedRow {frames : TimeFrames} {offset : Int}
    (horder : InOrder samples.toList) (hwindow : 0 ≤ window) (i : Fin frames.len) :
    (countedRow frames offset window samples).isEmptyAt i =
      ((countedRow frames offset window samples).window i).isEmpty := by
  rw [window_countedRow horder hwindow i, ← drop_take_counts (horder.filter _) (by omega),
    Bool.eq_iff_iff]
  unfold WindowRow.isEmptyAt countedRow
  dsimp only
  rw [vector_get_ofFn, decide_eq_true_eq, List.isEmpty_iff, List.drop_eq_nil_iff,
    List.length_take]
  have hcount := List.length_filter_le
    (fun s : Sample α => decide (s.timestamp ≤ frames.atIndex i - offset))
    (samples.toList.filter (!·.isStale))
  rw [Nat.min_eq_left hcount]

end Columnar

end SeriesQuery
