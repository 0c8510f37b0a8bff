import SeriesQuery.Proofs.Fetching
import SeriesQuery.Proofs.Samples.Columns

/-!
# What selectors select

A store answers a selector at a timestamp with what each admitted series shows between two times.
The answer depends on the timestamp and the store alone. A column for all frames reads at each
frame as the answer there, although more than that was fetched.
-/

namespace SeriesQuery

variable {α β γ : Type}

namespace Store

def fetched? (stored : SortedMap Int α) (range : TimeRange) : Option (Array (Sample α)) :=
  if (samplesIn stored range).isEmpty then none else some (samplesIn stored range).toArray

theorem samplesIn_eq_nil {stored : SortedMap Int α} {range part : TimeRange}
    (hstart : range.start ≤ part.start) (hfinish : part.finish ≤ range.finish)
    (h : samplesIn stored range = []) : samplesIn stored part = [] := by
  rw [← filter_samplesIn part hstart hfinish, h]
  rfl

/-- What is seen of the samples that were fetched, if nothing is seen where nothing is stored. -/
theorem fetched?_bind {stored : SortedMap Int α} {range : TimeRange}
    {see : Array (Sample α) → Option β} {seen : Option β}
    (hempty : samplesIn stored range = [] → seen = none)
    (h : see (samplesIn stored range).toArray = seen) :
    (fetched? stored range).bind see = seen := by
  unfold fetched?
  by_cases hnil : samplesIn stored range = []
  · rw [hnil, hempty hnil]
    rfl
  · have hnonempty : ¬(samplesIn stored range).isEmpty = true := by simpa using hnil
    rw [if_neg hnonempty]
    exact h

def select (s : Store α) (matchers : List LabelMatcher) (see : SortedMap Int α → Option β) :
    SeriesMap β :=
  s.series.filterMap fun m stored =>
    if LabelMatcher.allAdmit matchers m.labels then see stored else none

theorem get?_select (s : Store α) (matchers : List LabelMatcher)
    (see : SortedMap Int α → Option β) (m : Metric) :
    (s.select matchers see).get? m =
      if LabelMatcher.allAdmit matchers m.labels then (s.series.get? m).bind see else none := by
  unfold select
  rw [SortedMap.get?_filterMap]
  cases s.series.get? m with
  | none => exact (ite_self none).symm
  | some stored => rfl

theorem select_filterMap (s : Store α) (matchers : List LabelMatcher)
    (see : SortedMap Int α → Option β) (f : β → Option γ) :
    (s.select matchers see).filterMap (fun _ => f) =
      s.select matchers fun stored => (see stored).bind f := by
  unfold select
  rw [SortedMap.filterMap_filterMap]
  refine SortedMap.filterMap_congr fun e _ => ?_
  by_cases hmatching : LabelMatcher.allAdmit matchers e.1.labels = true
  · rw [if_pos hmatching, if_pos hmatching]
  · rw [if_neg hmatching, if_neg hmatching]
    rfl

theorem inOrder_of_mem_matching {s : Store α} {matchers : List LabelMatcher} {range : TimeRange}
    {x : SeriesSamples α} (hx : x ∈ s.matching matchers range) : InOrder x.samples.toList := by
  obtain ⟨e, -, he⟩ := List.mem_filterMap.1 hx
  obtain ⟨-, he⟩ := Option.ite_none_right_eq_some.1 he
  obtain rfl := Option.some.inj he
  exact inOrder_samplesIn _ _

theorem ofList_matching (s : Store α) (matchers : List LabelMatcher) (range : TimeRange)
    (see : Array (Sample α) → Option β) :
    SortedMap.ofList
        ((s.matching matchers range).filterMap fun x => (see x.samples).map (x.metric, ·)) =
      s.select matchers fun stored => (fetched? stored range).bind see := by
  rw [← SortedMap.ofList_toList (s.select _ _)]
  refine congrArg _ ?_
  unfold matching select SortedMap.filterMap
  rw [List.filterMap_filterMap]
  refine List.filterMap_congr fun e _ => ?_
  unfold fetched?
  by_cases hmatching : LabelMatcher.allAdmit matchers e.1.labels = true
  · by_cases hempty : (samplesIn e.2 range).isEmpty = true
    · simp [hmatching, hempty]
    · simp [hmatching, hempty]
  · simp [hmatching]

/-- Rows that are made of all fetched series, of which some are kept. -/
theorem mapM_matching (s : Store α) (matchers : List LabelMatcher) (range : TimeRange)
    (keep : β → Bool) {make : Array (Sample α) → Except QueryError β}
    {made : Array (Sample α) → β}
    (hmake : ∀ samples : Array (Sample α), InOrder samples.toList →
      make samples = .ok (made samples)) :
    ∃ rows : List (Metric × β),
      ((s.matching matchers range).mapM fun x => do
        return (x.metric, ← make x.samples)) = .ok rows ∧
      SortedMap.ofList (rows.filter fun e => keep e.2) =
        s.select matchers fun stored =>
          (fetched? stored range).bind fun samples =>
            if keep (made samples) then some (made samples) else none := by
  refine ⟨(s.matching matchers range).map fun x => (x.metric, made x.samples), ?_, ?_⟩
  · rw [mapM_eq_ok_iff, List.forall₂_map_right_iff, List.forall₂_same]
    intro x hx
    rw [hmake _ (inOrder_of_mem_matching hx)]
    rfl
  · rw [← s.ofList_matching, ← List.filterMap_eq_filter, List.filterMap_map]
    refine congrArg _ (List.filterMap_congr fun x _ => ?_)
    by_cases hkeep : keep (made x.samples) = true
    · simp [hkeep]
    · simp [hkeep]

variable [SampleValue α]

theorem latestIn_eq_none {stored : SortedMap Int α} {range : TimeRange}
    (h : samplesIn stored range = []) : latestIn stored range = none := by
  unfold latestIn
  rw [h]
  rfl

/-- The samples that do not end their series, if there are any in a range. -/
def windowIn (stored : SortedMap Int α) (range : TimeRange) : Option (List (Sample α)) :=
  let samples := (samplesIn stored range).filter (!·.isStale)
  if samples.isEmpty then none else some samples

theorem windowIn_eq_none {stored : SortedMap Int α} {range : TimeRange}
    (h : samplesIn stored range = []) : windowIn stored range = none := by
  unfold windowIn
  rw [h]
  rfl

def seenFrom (s : Selector) (window t : Int) : TimeRange := ⟨t - s.offset - window, t - s.offset⟩

/-- A store answers selectors at a timestamp without regard to other timestamps. -/
def reading (store : Store α) (lookback t : Int) : Reading α (Except QueryError) where
  latest s := .ok (store.select s.matchers (latestIn · (seenFrom s lookback t)))
  windows s duration := .ok (store.select s.matchers (windowIn · (seenFrom s duration t)))
  within _ x := x

end Store

section Rows

variable {c : Context α} {s : Selector} {window : Int}

def Context.spanFor (c : Context α) (s : Selector) (window : Int) : TimeRange :=
  ⟨c.frames.first - s.offset - window, c.frames.last - s.offset⟩

theorem seenFrom_covered (c : Context α) (s : Selector) (window : Int) {i : Nat}
    (hi : i < c.frames.len) :
    (c.spanFor s window).start ≤ (Store.seenFrom s window (c.frames.atIndex i)).start ∧
      (Store.seenFrom s window (c.frames.atIndex i)).finish ≤ (c.spanFor s window).finish := by
  have hfirst := c.frames.first_le_atIndex hi
  have hlast := c.frames.atIndex_le_last hi
  unfold Store.seenFrom Context.spanFor
  dsimp only
  omega

namespace Columnar

variable [SampleValue α]

def latestValues (c : Context α) (s : Selector) (window : Int) (samples : Array (Sample α)) :
    Row α c.frames.len :=
  Vector.ofFn fun i =>
    (samples.toList.filter fun x => x.timestamp ≤ c.frames.atIndex i - s.offset).getLast?.bind
      (Sample.since? (c.frames.atIndex i - s.offset - window))

theorem latestValues_samplesIn (c : Context α) (s : Selector) (window : Int)
    (stored : SortedMap Int α) (i : Fin c.frames.len) :
    (latestValues c s window (Store.samplesIn stored (c.spanFor s window)).toArray).get i =
      Store.latestIn stored (Store.seenFrom s window (c.frames.atIndex i)) := by
  obtain ⟨hstart, hfinish⟩ := seenFrom_covered c s window i.2
  unfold latestValues
  rw [vector_get_ofFn]
  exact Store.latestIn_eq hstart hfinish

theorem countedRow_samplesIn (hwindow : 0 ≤ window) (stored : SortedMap Int α)
    (i : Fin c.frames.len) :
    (let row := countedRow c.frames s.offset window
        (Store.samplesIn stored (c.spanFor s window)).toArray
      if row.isEmptyAt i then none else some (row.window i)) =
      Store.windowIn stored (Store.seenFrom s window (c.frames.atIndex i)) := by
  have horder : InOrder (Store.samplesIn stored (c.spanFor s window)).toArray.toList :=
    Store.inOrder_samplesIn stored _
  obtain ⟨hfrom, hto⟩ := seenFrom_covered c s window i.2
  have hwindowIn : (countedRow c.frames s.offset window
      (Store.samplesIn stored (c.spanFor s window)).toArray).window i =
      (Store.samplesIn stored (Store.seenFrom s window (c.frames.atIndex i))).filter
        (!·.isStale) := by
    rw [window_countedRow horder hwindow i, ← Store.filter_samplesIn _ hfrom hto,
      List.filter_filter, List.filter_filter]
    exact List.filter_congr fun sample _ => Bool.and_comm _ _
  dsimp only
  rw [isEmptyAt_countedRow horder hwindow i, hwindowIn]
  rfl

end Columnar

end Rows

namespace Columnar

variable [SampleValue α] {c : Context α} {s : Selector} {store : Store α}

theorem selectLatest_eq (hgateway : c.gateway = store.gateway) (hmatchers : s.matchers ≠ [])
    (hfits : c.Fits s c.lookback) (hlookback : 0 ≤ c.lookback) :
    selectLatest c s = .ok (.vector (store.select s.matchers fun stored =>
      (Store.fetched? stored (c.spanFor s c.lookback)).bind fun samples =>
        let row := latestValues c s c.lookback samples
        if row.any Option.isSome then some row else none)) := by
  obtain ⟨rows, hrows, hselect⟩ := store.mapM_matching s.matchers (c.spanFor s c.lookback)
    (fun row => row.any Option.isSome) fun samples horder => latestRow_eq hfits hlookback horder
  unfold selectLatest
  refine bind_eq_ok_iff.2 ⟨_, fetch_eq_matching hgateway hmatchers hfits hlookback, ?_⟩
  refine bind_eq_ok_iff.2 ⟨rows, hrows, ?_⟩
  exact congrArg (fun rows => Except.ok (Column.vector rows)) hselect

theorem framewise_selectLatest (hgateway : c.gateway = store.gateway)
    (hmatchers : s.matchers ≠ []) (hfits : c.Fits s c.lookback) (hlookback : 0 ≤ c.lookback) :
    Framewise Column.atFrame (selectLatest c s) fun i =>
      Value.vector <$> (store.reading c.lookback (c.frames.atIndex i)).latest s := by
  rw [selectLatest_eq hgateway hmatchers hfits hlookback]
  intro i
  obtain ⟨hstart, hfinish⟩ := seenFrom_covered c s c.lookback i.2
  refine congrArg (fun v => Except.ok (Value.vector v)) ?_
  rw [Rows.atFrame, Store.select_filterMap]
  refine congrArg _ (funext fun stored => ?_)
  rw [Option.bind_assoc]
  refine (Store.fetched?_bind (fun hnil => ?_) ?_).symm
  · exact Store.latestIn_eq_none (Store.samplesIn_eq_nil hstart hfinish hnil)
  · rw [← latestValues_samplesIn c s c.lookback stored i]
    dsimp only
    split
    · rfl
    · next hnone =>
      rw [Vector.any_eq_true] at hnone
      rw [Option.bind_none, eq_comm, ← Option.not_isSome_iff_eq_none]
      exact fun hsome => hnone ⟨i, i.2, hsome⟩

def keptWindows (frames : TimeFrames) (offset duration : Int) (samples : Array (Sample α)) :
    Option (WindowRow α frames.len) :=
  let row := countedRow frames offset duration samples
  if row.bounds.any fun b => b.1 < b.2 then some row else none

theorem selectWindow_eq {duration : Int} (hgateway : c.gateway = store.gateway)
    (hmatchers : s.matchers ≠ []) (hfits : c.Fits s duration) (hduration : 0 ≤ duration) :
    selectWindow c s duration = .ok (.matrix (store.select s.matchers fun stored =>
      (Store.fetched? stored (c.spanFor s duration)).bind
        (keptWindows c.frames s.offset duration)) duration s.offset) := by
  obtain ⟨rows, hrows, hselect⟩ := store.mapM_matching s.matchers (c.spanFor s duration)
    (fun row => row.bounds.any fun b => b.1 < b.2) fun samples horder => windowRow_eq hfits hduration horder
  unfold selectWindow
  refine bind_eq_ok_iff.2 ⟨_, fetch_eq_matching hgateway hmatchers hfits hduration, ?_⟩
  refine bind_eq_ok_iff.2 ⟨rows, hrows, ?_⟩
  exact congrArg (fun rows => Except.ok (Column.matrix rows duration s.offset)) hselect

theorem framewise_selectWindow {duration : Int} (hgateway : c.gateway = store.gateway)
    (hmatchers : s.matchers ≠ []) (hfits : c.Fits s duration) (hduration : 0 ≤ duration) :
    Framewise Column.atFrame (selectWindow c s duration) fun i =>
      Value.matrix <$> (store.reading c.lookback (c.frames.atIndex i)).windows s duration := by
  rw [selectWindow_eq hgateway hmatchers hfits hduration]
  intro i
  obtain ⟨hstart, hfinish⟩ := seenFrom_covered c s duration i.2
  refine congrArg (fun v => Except.ok (Value.matrix v)) ?_
  rw [Store.select_filterMap]
  refine congrArg _ (funext fun stored => ?_)
  rw [Option.bind_assoc]
  refine (Store.fetched?_bind (fun hnil => ?_) ?_).symm
  · exact Store.windowIn_eq_none (Store.samplesIn_eq_nil hstart hfinish hnil)
  · rw [← countedRow_samplesIn hduration stored i]
    unfold keptWindows
    dsimp only
    split
    · rfl
    · next hnone =>
      have hempty : (countedRow c.frames s.offset duration
          (Store.samplesIn stored (c.spanFor s duration)).toArray).isEmptyAt i = true := by
        rw [Vector.any_eq_true] at hnone
        unfold WindowRow.isEmptyAt
        rw [decide_eq_true_eq, ← Nat.not_lt]
        exact fun hlt => hnone ⟨i, i.2, decide_eq_true hlt⟩
      rw [Option.bind_none, if_pos hempty]

end Columnar

end SeriesQuery
