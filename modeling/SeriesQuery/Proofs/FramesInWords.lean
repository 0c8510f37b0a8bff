import SeriesQuery.Proofs.Outcome
import SeriesQuery.Time.Frames
import SeriesQuery.Time.Words

/-!
# Frames in sixty-four bits

Frames of a range are counted with checked operations, a position becomes a timestamp through a
wide product and a timestamp becomes a position through a checked difference. None of the three
loses anything: the frames are the timestamps that the integers give, wherever in the range of
sixty-four bits they lie.
-/

namespace SeriesQuery

namespace Millis

theorem wrapWide_of_bounds {t : Int} (hlow : -0x80000000000000000000000000000000 ≤ t)
    (hhigh : t ≤ 0x7fffffffffffffffffffffffffffffff) : wrapWide t = t :=
  Int.bmod_eq_of_le (by omega) (by omega)

theorem toPosition_of_bounds {t : Int} (hlow : 0 ≤ t) (hhigh : t ≤ greatest) :
    (toPosition t : Int) = t := by
  unfold greatest at hhigh
  unfold toPosition
  omega

end Millis

namespace TimeFrames

open Millis

variable {f : TimeFrames} {start finish step : Int}

/-- The number of timestamps that the checked operations find. -/
theorem count?_eq_some_iff (hstep : 0 < step) (hle : start ≤ finish) {n : Int} :
    count? start finish step = some n ↔
      (finish - start ≤ greatest ∧ (finish - start) / step < greatest) ∧
        n = (finish - start) / step + 1 := by
  have hspan : 0 ≤ finish - start := by omega
  have hquot : 0 ≤ (finish - start) / step := Int.ediv_nonneg hspan (by omega)
  have htdiv : (finish - start).tdiv step = (finish - start) / step :=
    Int.tdiv_eq_ediv_of_nonneg hspan
  simp only [count?, Option.bind_eq_bind, Option.bind_eq_some_iff, checked_eq_some_iff, InRange,
    least, greatest]
  constructor
  · rintro ⟨span, ⟨hin, rfl⟩, hcount, rfl⟩
    rw [htdiv] at hcount ⊢
    exact ⟨⟨hin.2, by omega⟩, rfl⟩
  · rintro ⟨⟨hin, hcount⟩, rfl⟩
    refine ⟨_, ⟨⟨by omega, hin⟩, rfl⟩, ?_⟩
    rw [htdiv]
    exact ⟨⟨by omega, by omega⟩, rfl⟩

theorem range_eq_ok_iff :
    range start finish step = .ok f ↔
      (0 < step ∧ start ≤ finish ∧ finish - start ≤ greatest ∧
        (finish - start) / step < greatest) ∧
      f.start = start ∧ f.step = step ∧ (f.len : Int) = (finish - start) / step + 1 := by
  unfold range
  by_cases hstep : step ≤ 0
  · rw [dif_pos hstep]
    exact iff_of_false nofun fun ⟨⟨h, _⟩, _⟩ => by omega
  rw [dif_neg hstep]
  by_cases hfinish : finish < start
  · rw [dif_pos hfinish]
    exact iff_of_false nofun fun ⟨⟨_, h, _⟩, _⟩ => by omega
  rw [dif_neg hfinish]
  have hcount := fun n => count?_eq_some_iff (n := n) (Int.not_le.1 hstep) (Int.not_lt.1 hfinish)
  split
  next hnone =>
    refine iff_of_false nofun fun ⟨⟨_, _, hspan, hquot⟩, _⟩ => ?_
    rw [(hcount _).2 ⟨⟨hspan, hquot⟩, rfl⟩] at hnone
    cases hnone
  next n hsome =>
    have hpos : 0 < n := count?_pos hstep hfinish hsome
    obtain ⟨⟨hspan, hquot⟩, rfl⟩ := (hcount n).1 hsome
    rw [if_neg (by omega), Except.ok.injEq]
    constructor
    · rintro rfl
      exact ⟨⟨by omega, by omega, hspan, hquot⟩, rfl, rfl, Int.toNat_of_nonneg (by omega)⟩
    · rintro ⟨-, rfl, rfl, hlen⟩
      cases f
      simp_all
      omega

/-- The timestamps of the frames are those from `start` in steps of `step` that do not pass
`finish`. -/
structure Enumerates (f : TimeFrames) (start finish step : Int) : Prop where
  mem_iff : ∀ t, t ∈ f.toList ↔ ∃ k : Nat, t = start + k * step ∧ t ≤ finish
  ascending : f.toList.Pairwise (· < ·)
  length_eq : f.toList.length = f.len
  one_le_len : 1 ≤ f.len
  last_le : f.last ≤ finish
  lt_next : finish < f.last + step

/-- No result of the word operations is cut: the number of frames, the wide product and sum of
each timestamp, the timestamp itself, and the quotient that gives a position. -/
structure ExactInWords (f : TimeFrames) (start finish step : Int) : Prop where
  count : count? start finish step = some (f.len : Int)
  product : ∀ i < f.len, wrapWide (f.step * i) = f.step * i
  sum : ∀ i < f.len, wrapWide (f.atIndex i) = f.atIndex i
  timestamp : ∀ i < f.len, wrap (f.atIndex i) = f.atIndex i
  quotient : ∀ t offset, checked (t - f.start) = some offset → 0 ≤ offset →
    (toPosition (offset.tdiv f.step) : Int) = offset.tdiv f.step

/-- Positions and timestamps lead to each other and nowhere else, as they are computed in
words. -/
structure LooksUp (f : TimeFrames) : Prop where
  toList_eq : f.toList = (List.range f.len).map f.atWord
  last_eq : f.lastWord = f.last
  getWord?_isSome_iff : ∀ i, (f.getWord? i).isSome ↔ i < f.len
  indexWord?_of_getWord? : ∀ i t, f.getWord? i = some t → f.indexWord? t = some i
  indexWord?_of_notMem : ∀ t, t ∉ f.toList → f.indexWord? t = none

theorem atIndex_lt_atIndex {i j : Nat} (hij : i < j) (hj : j < f.len) :
    f.atIndex i < f.atIndex j := by
  have hstep : 0 < f.step := f.step_pos (by omega)
  have hmul : f.step * i < f.step * j := Int.mul_lt_mul_of_pos_left (by omega) hstep
  unfold atIndex
  omega

theorem ascending_toList (f : TimeFrames) : f.toList.Pairwise (· < ·) := by
  rw [toList, toVector, Vector.toList_ofFn, List.pairwise_ofFn]
  exact fun i j hij => atIndex_lt_atIndex hij j.2

section Built

variable (h : range start finish step = .ok f)
include h

theorem last_eq_of_range : f.last = start + step * ((finish - start) / step) := by
  obtain ⟨-, hstart, hstep, hlen⟩ := range_eq_ok_iff.1 h
  have hpred : ((f.len - 1 : Nat) : Int) = (finish - start) / step := by
    have hpos := f.len_pos
    omega
  rw [last, atIndex, hpred, hstart, hstep]

theorem last_le_of_range : f.last ≤ finish := by
  obtain ⟨⟨hstep, -⟩, -⟩ := range_eq_ok_iff.1 h
  have hquot := Int.mul_ediv_self_le (x := finish - start) (Int.ne_of_gt hstep)
  rw [last_eq_of_range h]
  omega

theorem lt_last_add_step_of_range : finish < f.last + step := by
  obtain ⟨⟨hstep, -⟩, -⟩ := range_eq_ok_iff.1 h
  have hquot := Int.lt_mul_ediv_self_add (x := finish - start) hstep
  rw [last_eq_of_range h]
  omega

theorem mem_toList_iff_of_range {t : Int} :
    t ∈ f.toList ↔ ∃ k : Nat, t = start + k * step ∧ t ≤ finish := by
  obtain ⟨⟨hpos, -⟩, hstart, hstep, hlen⟩ := range_eq_ok_iff.1 h
  rw [mem_toList_iff]
  constructor
  · rintro ⟨i, rfl⟩
    refine ⟨i, ?_, (f.atIndex_le_last i.2).trans (last_le_of_range h)⟩
    rw [atIndex, hstart, hstep, Int.mul_comm]
  · rintro ⟨k, rfl, hle⟩
    have hquot : (k : Int) ≤ (finish - start) / step :=
      (Int.le_ediv_iff_mul_le hpos).2 (by omega)
    refine ⟨⟨k, by omega⟩, ?_⟩
    rw [atIndex, hstart, hstep, Int.mul_comm]

theorem enumerates_of_range : f.Enumerates start finish step where
  mem_iff _ := mem_toList_iff_of_range h
  ascending := f.ascending_toList
  length_eq := Vector.length_toList
  one_le_len := f.len_pos
  last_le := last_le_of_range h
  lt_next := lt_last_add_step_of_range h

section Words

variable (hstart : InRange start) (hfinish : InRange finish)
include hstart hfinish

theorem atIndex_inRange_of_range {i : Nat} (hi : i < f.len) : InRange (f.atIndex i) := by
  obtain ⟨-, heq, -⟩ := range_eq_ok_iff.1 h
  have hfirst := f.first_le_atIndex hi
  have hlast := (f.atIndex_le_last hi).trans (last_le_of_range h)
  rw [first, heq] at hfirst
  exact ⟨hstart.1.trans hfirst, hlast.trans hfinish.2⟩

theorem exactInWords_of_range : f.ExactInWords start finish step := by
  obtain ⟨⟨hpos, hle, hfits⟩, heq, hstep, hlen⟩ := range_eq_ok_iff.1 h
  have hoffset : ∀ i : Nat, f.step * i = f.atIndex i - f.start := fun i => by
    unfold atIndex
    omega
  have hin : ∀ i < f.len, InRange (f.atIndex i) := fun i =>
    atIndex_inRange_of_range h hstart hfinish
  simp only [InRange, least, greatest] at hstart hin
  refine ⟨(count?_eq_some_iff hpos hle).2 ⟨hfits, hlen⟩, fun i hi => ?_, fun i hi => ?_,
    fun i hi => ?_, fun t offset hchecked hnonneg => ?_⟩
  · have hi' := hin i hi
    rw [hoffset, heq]
    exact wrapWide_of_bounds (by omega) (by omega)
  · have hi' := hin i hi
    exact wrapWide_of_bounds (by omega) (by omega)
  · exact wrap_of_inRange (hin i hi)
  · obtain ⟨hoff, rfl⟩ := checked_eq_some_iff.1 hchecked
    rw [Int.tdiv_eq_ediv_of_nonneg hnonneg]
    exact toPosition_of_bounds (Int.ediv_nonneg hnonneg (by omega))
      ((Int.ediv_le_self _ hnonneg).trans hoff.2)

theorem atWord_of_range {i : Nat} (hi : i < f.len) : f.atWord i = f.atIndex i := by
  have hexact := exactInWords_of_range h hstart hfinish
  unfold atWord
  rw [hexact.product i hi]
  exact (congrArg wrap (hexact.sum i hi)).trans (hexact.timestamp i hi)

/-- The checked difference refuses a timestamp only if no frame is there. -/
theorem indexWord?_of_range (t : Int) : f.indexWord? t = f.indexOf? t := by
  obtain ⟨⟨hpos, hle, hspan, -⟩, heq, hstep, hlen⟩ := range_eq_ok_iff.1 h
  unfold indexWord?
  by_cases hone : f.len = 1
  · rw [if_pos hone, indexOf?, if_pos hone]
  rw [if_neg hone]
  by_cases hin : InRange (t - f.start)
  · have hchecked : checked (t - f.start) = some (t - f.start) :=
      checked_eq_some_iff.2 ⟨hin, rfl⟩
    have hquot := (exactInWords_of_range h hstart hfinish).quotient t _ hchecked
    unfold indexOf?
    rw [if_neg hone, hchecked]
    dsimp only [Option.bind_eq_bind, Option.bind_some]
    by_cases hneg : t - f.start < 0
    · rw [if_pos (.inl hneg), if_neg fun hand => by omega]
    · have hnonneg : 0 ≤ t - f.start := by omega
      have hposition : toPosition ((t - f.start).tdiv f.step) =
          ((t - f.start) / f.step).toNat := by
        have hcast := hquot hnonneg
        rw [Int.tdiv_eq_ediv_of_nonneg hnonneg] at hcast ⊢
        omega
      rw [hposition, Int.tmod_eq_emod_of_nonneg hnonneg]
      by_cases hmod : (t - f.start) % f.step = 0
      · rw [if_neg (not_or.2 ⟨hneg, not_not.2 hmod⟩)]
        simp only [hnonneg, hmod, true_and]
      · rw [if_pos (.inr hmod), if_neg fun hand => hmod hand.2.1]
  · have hnone : f.indexOf? t = none := by
      rw [Option.eq_none_iff_forall_ne_some]
      intro i hi
      obtain ⟨hlt, rfl⟩ := f.indexOf?_eq_some_iff.1 hi
      have hfirst := f.first_le_atIndex hlt
      have hlast := (f.atIndex_le_last hlt).trans (last_le_of_range h)
      unfold first at hfirst
      refine hin ⟨?_, ?_⟩
      · unfold least
        omega
      · omega
    rw [hnone, checked, if_neg hin]
    rfl

theorem looksUp_of_range : f.LooksUp where
  toList_eq := by
    rw [toList, toVector, Vector.toList_ofFn]
    refine List.ext_getElem (by simp) fun i hi _ => ?_
    rw [List.length_ofFn] at hi
    simp [atWord_of_range h hstart hfinish hi]
  last_eq := atWord_of_range h hstart hfinish (Nat.sub_lt f.len_pos Nat.one_pos)
  getWord?_isSome_iff i := by simp [getWord?]
  indexWord?_of_getWord? i t hget := by
    unfold getWord? at hget
    split at hget
    next hi =>
      rw [indexWord?_of_range h hstart hfinish, f.indexOf?_eq_some_iff]
      exact ⟨hi, (atWord_of_range h hstart hfinish hi).symm.trans (Option.some.inj hget)⟩
    next => cases hget
  indexWord?_of_notMem t hmem := by
    rw [indexWord?_of_range h hstart hfinish, Option.eq_none_iff_forall_ne_some]
    intro i hi
    obtain ⟨hlt, hat⟩ := f.indexOf?_eq_some_iff.1 hi
    exact hmem (f.mem_toList_iff.2 ⟨⟨i, hlt⟩, hat⟩)

end Words

end Built

/-- A range of sixty-four-bit times has frames exactly if its span and the number of its
timestamps are sixty-four-bit numbers too, and then the frames are the timestamps that the
integers give, with nothing lost in the words that compute them. -/
theorem range_frames_exact (hstart : InRange start) (hfinish : InRange finish) :
    ((∃ f, range start finish step = .ok f) ↔
      0 < step ∧ start ≤ finish ∧ finish - start ≤ greatest ∧
        (finish - start) / step < greatest) ∧
    ∀ f, range start finish step = .ok f →
      f.Enumerates start finish step ∧ f.ExactInWords start finish step ∧ f.LooksUp := by
  constructor
  · constructor
    · rintro ⟨f, h⟩
      exact (range_eq_ok_iff.1 h).1
    · rintro ⟨hstep, hle, hfits⟩
      have hquot : 0 ≤ (finish - start) / step := Int.ediv_nonneg (by omega) (by omega)
      refine ⟨⟨start, step, ((finish - start) / step).toNat + 1, Nat.succ_pos _, fun _ => hstep⟩,
        range_eq_ok_iff.2 ⟨⟨hstep, hle, hfits⟩, rfl, rfl, ?_⟩⟩
      rw [Int.natCast_succ, Int.toNat_of_nonneg hquot]
  · intro f h
    exact ⟨enumerates_of_range h, exactInWords_of_range h hstart hfinish,
      looksUp_of_range h hstart hfinish⟩

/-- The widest step from the least time on. No difference of the greatest time from the first
frame fits, and it is still found to be no frame. -/
theorem range_from_least_exact :
    InRange least ∧ InRange (-1) ∧ ∃ f, range least (-1) greatest = .ok f ∧
      f.toList = [least, -1] ∧ ¬InRange (greatest - f.first) ∧ f.indexWord? greatest = none ∧
      f.Enumerates least (-1) greatest ∧ f.ExactInWords least (-1) greatest ∧ f.LooksUp := by
  have hleast : InRange least := by decide
  have hlast : InRange (-1) := by decide
  have h : range least (-1) greatest = .ok ⟨least, greatest, 2, by decide, by decide⟩ := rfl
  obtain ⟨henumerates, hwords, hlooks⟩ := (range_frames_exact hleast hlast).2 _ h
  have hlist : TimeFrames.toList ⟨least, greatest, 2, by decide, by decide⟩ = [least, -1] := rfl
  refine ⟨hleast, hlast, _, h, hlist, by decide, ?_, henumerates, hwords, hlooks⟩
  apply hlooks.indexWord?_of_notMem
  rw [hlist]
  decide

end TimeFrames

end SeriesQuery
