import SeriesQuery.Time

/-!
# Evaluation timestamps

A query is evaluated at one instant or at evenly spaced timestamps from a start up to an end.
There is always at least one. They ascend from the first to the last, and each is found at its own
position only.
-/

namespace SeriesQuery

/-- Why no frames can be built from a start, an end and a step. -/
inductive RangeFault
  | stepNotPositive
  | endBeforeStart
  | tooLarge
  | tooManySteps
deriving DecidableEq, Repr

def RangeFault.message : RangeFault → String
  | stepNotPositive => "step must be positive"
  | endBeforeStart => "end is before start"
  | tooLarge => "range too large"
  | tooManySteps => "too many steps"

structure InvalidRange where
  start : Int
  finish : Int
  step : Int
  fault : RangeFault
deriving DecidableEq, Repr

def InvalidRange.message (e : InvalidRange) : String :=
  s!"invalid time range start={e.start} end={e.finish} step={e.step}: " ++ e.fault.message

structure TimeFrames where
  start : Int
  step : Int
  len : Nat
  len_pos : 0 < len
  step_pos : 1 < len → 0 < step
deriving DecidableEq, Repr

namespace TimeFrames

def instant (t : Int) : TimeFrames := ⟨t, 0, 1, Nat.one_pos, by decide⟩

/-- The number of timestamps from `start` in steps of `step` that do not pass `finish`, unless the
span or the number itself leaves the range. -/
def count? (start finish step : Int) : Option Int := do
  let span ← Millis.checked (finish - start)
  Millis.checked (span.tdiv step + 1)

theorem count?_pos {start finish step n : Int} (hstep : ¬step ≤ 0) (hfinish : ¬finish < start)
    (h : count? start finish step = some n) : 0 < n := by
  simp only [count?, Option.bind_eq_bind, Option.bind_eq_some_iff,
    Millis.checked_eq_some_iff] at h
  obtain ⟨span, ⟨-, rfl⟩, -, rfl⟩ := h
  have hquot : 0 ≤ (finish - start).tdiv step := Int.tdiv_nonneg (by omega) (by omega)
  omega

/-- The timestamps from `start` in steps of `step` that do not pass `finish`. Their span and
their number have to be sixty-four-bit integers. -/
def range (start finish : Int) (step : Int) : Except InvalidRange TimeFrames :=
  if hstep : step ≤ 0 then .error ⟨start, finish, step, .stepNotPositive⟩
  else if hfinish : finish < start then .error ⟨start, finish, step, .endBeforeStart⟩
  else match hcount : count? start finish step with
    | none => .error ⟨start, finish, step, .tooLarge⟩
    | some n =>
      if n < 0 then .error ⟨start, finish, step, .tooManySteps⟩
      else .ok {
        start, step
        len := n.toNat
        len_pos := Int.lt_toNat.2 (count?_pos hstep hfinish hcount)
        step_pos := fun _ => Int.not_le.1 hstep }

variable (f : TimeFrames)

def atIndex (i : Nat) : Int := f.start + f.step * i

def get? (i : Nat) : Option Int := if i < f.len then some (f.atIndex i) else none

def first : Int := f.start

def last : Int := f.atIndex (f.len - 1)

def isInstant : Bool := f.len = 1

def indexOf? (t : Int) : Option Nat :=
  if f.len = 1 then if t = f.start then some 0 else none
  else
    let offset := t - f.start
    let i := (offset / f.step).toNat
    if 0 ≤ offset ∧ offset % f.step = 0 ∧ i < f.len then some i else none

def toVector : Vector Int f.len := Vector.ofFn fun i => f.atIndex i

def toList : List Int := f.toVector.toList

def span : TimeRange := ⟨f.first, f.last⟩

def display : String :=
  if f.isInstant then s!"@{f.start}" else s!"{f.start}..={f.last} step {f.step}"

theorem atIndex_instant (t : Int) (i : Fin (instant t).len) : (instant t).atIndex i = t := by
  simp [atIndex, instant]

theorem get_toVector (i : Fin f.len) : f.toVector.get i = f.atIndex i := Vector.getElem_ofFn i.2

theorem mem_toList_iff {t : Int} : t ∈ f.toList ↔ ∃ i : Fin f.len, f.atIndex i = t := by
  simp [toList, toVector]

theorem step_mul_nonneg {i : Nat} (hi : i < f.len) : 0 ≤ f.step * i := by
  cases i with
  | zero => simp
  | succ i =>
    have hstep : 0 < f.step := f.step_pos (by omega)
    exact Int.mul_nonneg (by omega) (by omega)

theorem atIndex_le_atIndex {i j : Nat} (hij : i ≤ j) (hj : j < f.len) :
    f.atIndex i ≤ f.atIndex j := by
  unfold atIndex
  rcases Nat.eq_or_lt_of_le hij with rfl | hlt
  · omega
  · have hstep : 0 < f.step := f.step_pos (by omega)
    have hmul : f.step * i ≤ f.step * j := Int.mul_le_mul_of_nonneg_left (by omega) (by omega)
    omega

theorem first_le_atIndex {i : Nat} (hi : i < f.len) : f.first ≤ f.atIndex i := by
  have hmul := f.step_mul_nonneg hi
  unfold first atIndex
  omega

theorem atIndex_le_last {i : Nat} (hi : i < f.len) : f.atIndex i ≤ f.last :=
  f.atIndex_le_atIndex (by omega) (Nat.sub_lt f.len_pos Nat.one_pos)

/-- A timestamp is found exactly at the position where it stands. -/
theorem indexOf?_eq_some_iff {t : Int} {i : Nat} :
    f.indexOf? t = some i ↔ i < f.len ∧ f.atIndex i = t := by
  unfold indexOf?
  by_cases hlen : f.len = 1
  · rw [if_pos hlen, hlen]
    by_cases ht : t = f.start
    · rw [if_pos ht, Option.some.injEq]
      constructor
      · rintro rfl
        exact ⟨Nat.one_pos, by simp [atIndex, ht]⟩
      · rintro ⟨hi, -⟩
        omega
    · rw [if_neg ht]
      refine iff_of_false nofun fun ⟨hi, hat⟩ => ht ?_
      obtain rfl : i = 0 := by omega
      simpa [atIndex, eq_comm] using hat
  · rw [if_neg hlen]
    have hpos := f.len_pos
    have hstep : 0 < f.step := f.step_pos (by omega)
    simp only [Option.ite_none_right_eq_some, Option.some.injEq]
    constructor
    · rintro ⟨⟨hnonneg, hmod, hlt⟩, rfl⟩
      refine ⟨hlt, ?_⟩
      have hquot : 0 ≤ (t - f.start) / f.step := Int.ediv_nonneg hnonneg (by omega)
      have hdiv := Int.mul_ediv_add_emod (t - f.start) f.step
      unfold atIndex
      rw [Int.toNat_of_nonneg hquot]
      omega
    · rintro ⟨hi, rfl⟩
      have hoffset : f.atIndex i - f.start = f.step * i := by
        unfold atIndex
        omega
      have hquot : f.step * (i : Int) / f.step = i :=
        Int.mul_ediv_cancel_left _ (by omega)
      rw [hoffset, hquot, Int.toNat_natCast]
      exact ⟨⟨f.step_mul_nonneg hi, Int.mul_emod_right _ _, hi⟩, rfl⟩

end TimeFrames

end SeriesQuery
