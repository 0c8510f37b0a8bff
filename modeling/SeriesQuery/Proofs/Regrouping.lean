import SeriesQuery.Proofs.Consistency
import SeriesQuery.Proofs.FramesInWords
import SeriesQuery.Proofs.SeriesTable

/-!
# Regrouping by series

The samples of a series are the numbers that it has at the frames, in order of time. Nothing is
lost by collecting them: the numbers of a frame can be read back from the series. The same holds of
series in tables, where several of them may share a bucket.
-/

open Std

namespace SeriesQuery

variable {α : Type}

/-- The numbers of a value by series. A number on its own has no labels. -/
def Value.numbers : Value α → SeriesMap α
  | scalar v => .ofList [(.empty, v)]
  | vector series => series
  | _ => .empty

/-- Series hold the numbers that are read of them at each timestamp, in order of time. No series is
without samples. -/
structure Regroups (number? : Int → Metric → Option α)
    (series : Metric → Option (List (Sample α))) : Prop where
  mem_iff : ∀ m t v, (∃ samples, series m = some samples ∧ ⟨t, v⟩ ∈ samples) ↔
    number? t m = some v
  ascending : ∀ m samples, series m = some samples →
    samples.Pairwise fun a b => a.timestamp < b.timestamp
  ne_nil : ∀ m, series m ≠ some []

def numbersAt (series : SeriesMap (List (Sample α))) (t : Int) : SeriesMap α :=
  series.filterMap fun _ samples => (samples.find? (·.timestamp = t)).map Sample.value

theorem find?_timestamp_eq_some_iff {samples : List (Sample α)} {t : Int} {v : α}
    (h : samples.Pairwise fun a b => a.timestamp < b.timestamp) :
    (samples.find? (·.timestamp = t)).map Sample.value = some v ↔ ⟨t, v⟩ ∈ samples := by
  induction samples with
  | nil => exact iff_of_false nofun nofun
  | cons s rest ih =>
    obtain ⟨hs, hrest⟩ := List.pairwise_cons.1 h
    rw [List.mem_cons]
    by_cases ht : s.timestamp = t
    · -- later samples of the series have later timestamps
      have hnotMem : (⟨t, v⟩ : Sample α) ∉ rest := by
        intro hmem
        exact Int.ne_of_lt (hs _ hmem) ht
      obtain ⟨t', v'⟩ := s
      obtain rfl : t' = t := ht
      rw [List.find?_cons_of_pos (by simp), or_iff_left hnotMem, Option.map_some,
        Option.some.injEq, Sample.mk.injEq, and_iff_right rfl, eq_comm]
    · have hne : (⟨t, v⟩ : Sample α) ≠ s := fun heq => ht (heq ▸ rfl)
      rw [List.find?_cons_of_neg (by simpa using ht), or_iff_right hne]
      exact ih hrest

theorem Regroups.get?_numbersAt {number? : Int → Metric → Option α}
    {series : SeriesMap (List (Sample α))} (h : Regroups number? series.get?) (t : Int)
    (m : Metric) : (numbersAt series t).get? m = number? t m := by
  apply Option.ext
  intro v
  rw [← h.mem_iff, numbersAt, SortedMap.get?_filterMap, Option.bind_eq_some_iff]
  constructor
  · rintro ⟨samples, hsamples, hfound⟩
    exact ⟨samples, hsamples,
      (find?_timestamp_eq_some_iff (h.ascending m samples hsamples)).1 hfound⟩
  · rintro ⟨samples, hsamples, hmem⟩
    exact ⟨samples, hsamples,
      (find?_timestamp_eq_some_iff (h.ascending m samples hsamples)).2 hmem⟩

namespace QueryResult

def addEntry (series : SeriesMap (List (Sample α))) (e : Metric × Sample α) :
    SeriesMap (List (Sample α)) :=
  addSample e.2.timestamp series (e.1, e.2.value)

section Adding

variable (series : SeriesMap (List (Sample α))) (log : List (Metric × Sample α))

/-- Samples are added behind those that their series has already. -/
theorem getD_get?_foldl_addEntry (m : Metric) :
    ((log.foldl addEntry series).get? m).getD [] =
      (series.get? m).getD [] ++ (log.filter (·.1 = m)).map Prod.snd := by
  induction log generalizing series with
  | nil => simp
  | cons e rest ih =>
    rw [List.foldl_cons, ih, addEntry, addSample, SortedMap.get?_alter]
    by_cases hm : m = e.1
    · subst hm
      simp
    · have hne : e.1 ≠ m := fun heq => hm heq.symm
      simp [hm, hne]

theorem get?_foldl_addEntry_ne_nil {series : SeriesMap (List (Sample α))} {m : Metric}
    (h : series.get? m ≠ some []) : (log.foldl addEntry series).get? m ≠ some [] := by
  induction log generalizing series with
  | nil => exact h
  | cons e rest ih =>
    apply ih
    rw [addEntry, addSample, SortedMap.get?_alter]
    by_cases hm : m = e.1
    · simp [hm]
    · rwa [if_neg hm]

theorem sum_length_addEntry (e : Metric × Sample α) :
    ((addEntry series e).values.map List.length).sum =
      (series.values.map List.length).sum + 1 := by
  have hsum := SortedMap.sum_alterEntries List.length e.1
    (fun samples => some (samples.getD [] ++ [⟨e.2.timestamp, e.2.value⟩])) series.toList
  have hold : ((SortedMap.lookup e.1 series.toList).map List.length).getD 0 =
      ((SortedMap.lookup e.1 series.toList).getD []).length := by
    cases SortedMap.lookup e.1 series.toList <;> rfl
  rw [hold, Option.map_some, Option.getD_some, List.length_append, List.length_singleton] at hsum
  unfold addEntry addSample SortedMap.values SortedMap.alter
  rw [List.map_map, List.map_map]
  simp only [Function.comp_def]
  omega

theorem sum_length_foldl_addEntry :
    ((log.foldl addEntry series).values.map List.length).sum =
      (series.values.map List.length).sum + log.length := by
  induction log generalizing series with
  | nil => rfl
  | cons e rest ih =>
    rw [List.foldl_cons, ih, sum_length_addEntry, List.length_cons]
    omega

end Adding

variable (r : QueryResult α)

def number? (t : Int) (m : Metric) : Option α := (r.at? t).bind fun x => x.numbers.get? m

/-- All numbers in the order in which they are regrouped. -/
def log : List (Metric × Sample α) :=
  r.toList.flatMap fun step => step.2.numbers.toList.map fun e => (e.1, ⟨step.1, e.2⟩)

theorem addStep_eq_foldl (series : SeriesMap (List (Sample α))) (step : Int × Value α) :
    addStep series step =
      (step.2.numbers.toList.map fun e => (e.1, (⟨step.1, e.2⟩ : Sample α))).foldl addEntry
        series := by
  obtain ⟨t, x⟩ := step
  rw [List.foldl_map]
  cases x <;> rfl

theorem toSeries_eq_foldl : r.toSeries = r.log.foldl addEntry .empty := by
  unfold toSeries log
  rw [List.foldl_flatMap]
  congr
  funext series step
  exact addStep_eq_foldl series step

theorem mem_toList_iff {t : Int} {x : Value α} : (t, x) ∈ r.toList ↔ r.at? t = some x := by
  rw [at?_eq_some_iff]
  unfold toList TimeFrames.toList TimeFrames.toVector
  rw [List.mem_iff_getElem]
  constructor
  · rintro ⟨i, hi, hget⟩
    have hlen : i < r.frames.len := by simpa using hi
    refine ⟨⟨i, hlen⟩, ?_⟩
    simpa [vector_get _ hlen] using hget
  · rintro ⟨i, rfl, rfl⟩
    refine ⟨i, by simp, ?_⟩
    simp [vector_get _ i.2]

theorem mem_log_iff {m : Metric} {t : Int} {v : α} :
    (m, (⟨t, v⟩ : Sample α)) ∈ r.log ↔ r.number? t m = some v := by
  unfold log number?
  rw [List.mem_flatMap, Option.bind_eq_some_iff]
  constructor
  · rintro ⟨⟨t', x⟩, hstep, hmem⟩
    obtain ⟨e, he, heq⟩ := List.mem_map.1 hmem
    cases heq
    exact ⟨x, r.mem_toList_iff.1 hstep, SortedMap.get?_eq_some_iff.2 he⟩
  · rintro ⟨x, hstep, hget⟩
    exact ⟨(t, x), r.mem_toList_iff.2 hstep,
      List.mem_map.2 ⟨(m, v), SortedMap.get?_eq_some_iff.1 hget, rfl⟩⟩

theorem map_fst_toList : r.toList.map Prod.fst = r.frames.toList := by
  apply List.map_fst_zip
  simp [TimeFrames.toList]

theorem map_snd_toList : r.toList.map Prod.snd = r.steps.toList := by
  apply List.map_snd_zip
  simp [TimeFrames.toList]

/-- Numbers of one series come in order of time, since a frame has at most one of them. -/
theorem ascending_log :
    r.log.Pairwise fun a b => a.1 = b.1 → a.2.timestamp < b.2.timestamp := by
  unfold log
  rw [List.pairwise_flatMap]
  constructor
  · intro step _
    rw [List.pairwise_map]
    apply step.2.numbers.ascending.imp
    intro a b hlt heq
    have hsame : compare a.1 b.1 = .eq := LawfulEqCmp.compare_eq_iff_eq.2 heq
    rw [hsame] at hlt
    cases hlt
  · have hascending : (r.toList.map Prod.fst).Pairwise (· < ·) := by
      rw [r.map_fst_toList]
      exact r.frames.ascending_toList
    apply (List.pairwise_map.1 hascending).imp
    intro step step' hlt a ha b hb _
    obtain ⟨e, -, rfl⟩ := List.mem_map.1 ha
    obtain ⟨e', -, rfl⟩ := List.mem_map.1 hb
    exact hlt

theorem length_log : r.log.length = (r.steps.toList.map fun x => x.numbers.size).sum := by
  unfold log
  rw [List.length_flatMap, ← r.map_snd_toList, List.map_map]
  simp only [List.length_map]
  rfl

theorem get?_toSeries_eq_some_iff {m : Metric} {samples : List (Sample α)} :
    r.toSeries.get? m = some samples ↔
      samples ≠ [] ∧ samples = (r.log.filter (·.1 = m)).map Prod.snd := by
  have hkept : ((r.log.foldl addEntry .empty).get? m).getD [] =
      (r.log.filter (·.1 = m)).map Prod.snd := getD_get?_foldl_addEntry .empty r.log m
  have hne : (r.log.foldl addEntry .empty).get? m ≠ some [] :=
    get?_foldl_addEntry_ne_nil r.log nofun
  rw [r.toSeries_eq_foldl, ← hkept]
  cases hget : (r.log.foldl addEntry .empty).get? m with
  | none =>
    refine iff_of_false nofun ?_
    rintro ⟨hsamples, rfl⟩
    exact hsamples rfl
  | some kept =>
    rw [Option.some.injEq, Option.getD_some, eq_comm, iff_and_self]
    rintro rfl rfl
    exact hne hget

theorem regroups : Regroups r.number? r.toSeries.get? where
  mem_iff m t v := by
    rw [← r.mem_log_iff]
    constructor
    · rintro ⟨samples, hsamples, hmem⟩
      obtain ⟨-, rfl⟩ := r.get?_toSeries_eq_some_iff.1 hsamples
      obtain ⟨e, he, heq⟩ := List.mem_map.1 hmem
      obtain ⟨hlog, hm⟩ := List.mem_filter.1 he
      obtain rfl : e.1 = m := by simpa using hm
      rwa [← heq]
    · intro hmem
      have hsample : (⟨t, v⟩ : Sample α) ∈ (r.log.filter (·.1 = m)).map Prod.snd :=
        List.mem_map.2 ⟨_, List.mem_filter.2 ⟨hmem, by simp⟩, rfl⟩
      exact ⟨_, r.get?_toSeries_eq_some_iff.2 ⟨List.ne_nil_of_mem hsample, rfl⟩, hsample⟩
  ascending m samples hsamples := by
    obtain ⟨-, rfl⟩ := r.get?_toSeries_eq_some_iff.1 hsamples
    rw [List.pairwise_map]
    apply (r.ascending_log.filter _).imp_of_mem
    intro a b ha hb hlt
    have ha' : a.1 = m := by simpa using (List.mem_filter.1 ha).2
    have hb' : b.1 = m := by simpa using (List.mem_filter.1 hb).2
    exact hlt (ha'.trans hb'.symm)
  ne_nil m hnil := (r.get?_toSeries_eq_some_iff.1 hnil).1 rfl

theorem sum_length_toSeries :
    (r.toSeries.values.map List.length).sum = (r.steps.toList.map fun x => x.numbers.size).sum := by
  rw [r.toSeries_eq_foldl, sum_length_foldl_addEntry, r.length_log]
  exact Nat.zero_add _

theorem numbersAt_toSeries {t : Int} {x : Value α} (h : r.at? t = some x) :
    numbersAt r.toSeries t = x.numbers := by
  apply SortedMap.ext_get?
  intro m
  rw [r.regroups.get?_numbersAt, number?, h, Option.bind_some]

end QueryResult

/-- A table whose buckets are in order, so that it is known as a finite map. -/
abbrev SeriesTable.Ordered (ν : Type) := { table : SeriesTable ν // table.WellFormed }

inductive TableValue (α : Type)
  | scalar (v : α)
  | string (text : String)
  | vector (series : SeriesTable.Ordered α)
  | matrix (series : SeriesTable.Ordered (List (Sample α)))

structure TableResult (α : Type) where
  frames : TimeFrames
  steps : Vector (TableValue α) frames.len

namespace SeriesTable.Ordered

variable {ν : Type}

def content (table : Ordered ν) : SeriesMap ν := ⟨table.1.toList, table.2.ascending_toList⟩

theorem get?_content (table : Ordered ν) (m : Metric) : table.content.get? m = table.1.get? m :=
  table.2.lookup_toList m

end SeriesTable.Ordered

namespace TableValue

def number? (m : Metric) : TableValue α → Option α
  | scalar v => if m = .empty then some v else none
  | vector series => series.1.get? m
  | _ => none

/-- How many numbers a value has, as tables count them. -/
def size : TableValue α → Nat
  | scalar _ => 1
  | vector series => series.1.size
  | _ => 0

def content : TableValue α → Value α
  | scalar v => .scalar v
  | string text => .string text
  | vector series => .vector series.content
  | matrix series => .matrix series.content

theorem get?_numbers_content (x : TableValue α) (m : Metric) :
    x.content.numbers.get? m = x.number? m := by
  cases x with
  | scalar v =>
    change (SortedMap.empty.insert Metric.empty v).get? m = _
    rw [SortedMap.get?_insert]
    rfl
  | vector series => exact series.get?_content m
  | string text => rfl
  | matrix series => rfl

theorem size_numbers_content (x : TableValue α) : x.content.numbers.size = x.size := by
  cases x with
  | vector series => exact series.2.counted.symm
  | scalar v => rfl
  | string text => rfl
  | matrix series => rfl

end TableValue

namespace TableResult

open SeriesTable (Represents)

variable (r : TableResult α)

def toList : List (Int × TableValue α) := r.frames.toList.zip r.steps.toList

def at? (t : Int) : Option (TableValue α) := (r.frames.indexOf? t).bind (r.steps.toArray[·]?)

def number? (t : Int) (m : Metric) : Option α := (r.at? t).bind (·.number? m)

def addSample (t : Int) (table : SeriesTable (List (Sample α))) (e : Metric × α) :
    SeriesTable (List (Sample α)) :=
  (table.getOrInsert e.1 [] (· ++ [⟨t, e.2⟩])).2

def addStep (table : SeriesTable (List (Sample α))) (step : Int × TableValue α) :
    SeriesTable (List (Sample α)) :=
  match step.2 with
  | .scalar v => addSample step.1 table (.empty, v)
  | .vector series => series.1.toList.foldl (addSample step.1) table
  | _ => table

def toSeries : SeriesTable (List (Sample α)) := r.toList.foldl addStep .empty

def content : QueryResult α := ⟨r.frames, r.steps.map TableValue.content⟩

theorem at?_content (t : Int) : r.content.at? t = (r.at? t).map TableValue.content := by
  simp [QueryResult.at?, at?, content, Option.map_bind]

theorem number?_content (t : Int) (m : Metric) : r.content.number? t m = r.number? t m := by
  unfold QueryResult.number? number?
  rw [r.at?_content]
  cases r.at? t with
  | none => rfl
  | some x => exact x.get?_numbers_content m

theorem toList_steps_content : r.content.steps.toList = r.steps.toList.map TableValue.content :=
  Vector.toList_map ..

theorem toList_content : r.content.toList = r.toList.map fun step => (step.1, step.2.content) := by
  unfold QueryResult.toList
  rw [r.toList_steps_content, List.zip_map_right]
  rfl

section Representing

variable {table : SeriesTable (List (Sample α))} {series : SeriesMap (List (Sample α))}

theorem represents_addSample (h : Represents table series) (t : Int) (e : Metric × α) :
    Represents (addSample t table e) (QueryResult.addSample t series e) :=
  (h.write e.1 fun samples => samples.getD [] ++ [(⟨t, e.2⟩ : Sample α)]).2

theorem represents_addStep (h : Represents table series) (step : Int × TableValue α) :
    Represents (addStep table step) (QueryResult.addStep series (step.1, step.2.content)) := by
  obtain ⟨t, x⟩ := step
  cases x with
  | scalar v => exact represents_addSample h t (.empty, v)
  | vector entries =>
    change Represents (entries.1.toList.foldl (addSample t) table)
      (entries.1.toList.foldl (QueryResult.addSample t) series)
    induction entries.1.toList generalizing table series with
    | nil => exact h
    | cons e rest ih => exact ih (represents_addSample h t e)
  | string text => exact h
  | matrix windows => exact h

end Representing

theorem represents_toSeries : Represents r.toSeries r.content.toSeries := by
  have hsteps (steps : List (Int × TableValue α)) {table : SeriesTable (List (Sample α))}
      {series : SeriesMap (List (Sample α))} (h : Represents table series) :
      Represents (steps.foldl addStep table)
        ((steps.map fun step => (step.1, step.2.content)).foldl QueryResult.addStep series) := by
    induction steps generalizing table series with
    | nil => exact h
    | cons step rest ih => exact ih (represents_addStep h step)
  unfold toSeries QueryResult.toSeries
  rw [r.toList_content]
  exact hsteps r.toList .empty

theorem regroups : Regroups r.number? r.toSeries.get? := by
  have hregroups := r.content.regroups
  rwa [funext₂ r.number?_content, ← funext r.represents_toSeries.get?_eq] at hregroups

theorem sum_length_toSeries :
    (r.toSeries.values.map List.length).sum = (r.steps.toList.map TableValue.size).sum := by
  have hvalues : r.toSeries.values = r.content.toSeries.values :=
    congrArg (List.map Prod.snd) r.represents_toSeries.toList_eq
  rw [hvalues, r.content.sum_length_toSeries, r.toList_steps_content, List.map_map]
  exact congrArg List.sum (List.map_congr_left fun x _ => x.size_numbers_content)

end TableResult

/-- Each series gets the numbers that the frames have of it, in order of time, and no other samples.
The numbers of a frame can be read back. The same is true in tables, whichever series share a
bucket. -/
theorem regrouping_lossless :
    (∀ r : QueryResult α,
      Regroups r.number? r.toSeries.get? ∧
      (r.toSeries.values.map List.length).sum =
        (r.steps.toList.map fun x => x.numbers.size).sum ∧
      ∀ t x, r.at? t = some x → numbersAt r.toSeries t = x.numbers) ∧
    ∀ r : TableResult α,
      Regroups r.number? r.toSeries.get? ∧
      (r.toSeries.values.map List.length).sum = (r.steps.toList.map TableValue.size).sum ∧
      r.toSeries.WellFormed ∧ r.toSeries.toList = r.content.toSeries.toList := by
  constructor
  · intro r
    exact ⟨r.regroups, r.sum_length_toSeries, fun t x => r.numbersAt_toSeries⟩
  · intro r
    exact ⟨r.regroups, r.sum_length_toSeries, r.represents_toSeries.wellFormed,
      r.represents_toSeries.toList_eq⟩

/-- Two series with one fingerprint, both with numbers at two frames. -/
def TableResult.sharing : TableResult Nat :=
  let colliding : TableValue Nat :=
    .vector ⟨.colliding, (SeriesTable.Represents.ofList _).wellFormed⟩
  { frames := ⟨0, 10, 2, Nat.two_pos, fun _ => Int.natCast_succ_pos 9⟩
    steps := #v[colliding, colliding] }

example : TableResult.sharing.toSeries.buckets.size = 1 ∧
    TableResult.sharing.toSeries.values = [[⟨0, 1⟩, ⟨10, 1⟩], [⟨0, 2⟩, ⟨10, 2⟩]] := by
  decide +kernel

end SeriesQuery
