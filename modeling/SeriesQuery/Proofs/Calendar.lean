import Mathlib.Tactic.IntervalCases
import SeriesQuery.Calendar

/-!
# The Gregorian calendar

The date of the next day is the next date: the next day of the month, or else the first of the next
month. With the date of one day this tells all dates. A month is as long as the table of months
says, also where its last day is found as the day before the first of the next month.
-/

namespace SeriesQuery.Calendar

/-- The last day of a year of an era. The last one has a leap day though a century ends in it. -/
def endOfYear (year : Int) : Int :=
  if year = 399 then era - 1 else startOfYear (year + 1) - 1

theorem yearOfEra_mono {a b : Int} (ha : 0 ≤ a) (h : a ≤ b) (hb : b < era) :
    yearOfEra a ≤ yearOfEra b := by
  unfold era at hb
  have hleap : b / 1460 - a / 1460 ≤ b - a := by omega
  have hcentury : a / 36524 - a / 146096 ≤ b / 36524 - b / 146096 := by omega
  exact Int.ediv_le_ediv (by decide) (by omega)

theorem yearOfEra_bounds : ∀ year ∈ List.range 400, yearOfEra (startOfYear year) = year ∧
    yearOfEra (endOfYear year) = year := by
  decide +kernel

theorem length_of_year : ∀ year ∈ List.range 400, endOfYear year - startOfYear year =
    if isLeapYear (year + 1) then 365 else 364 := by
  decide +kernel

section Era

variable {year day : Int}

theorem yearOfEra_start (h0 : 0 ≤ year) (h : year < 400) : yearOfEra (startOfYear year) = year := by
  obtain ⟨k, rfl⟩ := Int.eq_ofNat_of_zero_le h0
  exact (yearOfEra_bounds k (List.mem_range.2 (by omega))).1

theorem yearOfEra_end (h0 : 0 ≤ year) (h : year < 400) : yearOfEra (endOfYear year) = year := by
  obtain ⟨k, rfl⟩ := Int.eq_ofNat_of_zero_le h0
  exact (yearOfEra_bounds k (List.mem_range.2 (by omega))).2

theorem endOfYear_eq (h0 : 0 ≤ year) (h : year < 400) :
    endOfYear year = startOfYear year + if isLeapYear (year + 1) then 365 else 364 := by
  obtain ⟨k, rfl⟩ := Int.eq_ofNat_of_zero_le h0
  have hlength := length_of_year k (List.mem_range.2 (by omega))
  omega

theorem endOfYear_lt_era (h0 : 0 ≤ year) (h : year < 400) : endOfYear year < era := by
  unfold endOfYear startOfYear era
  split <;> omega

theorem startOfYear_nonneg (h0 : 0 ≤ year) : 0 ≤ startOfYear year := by
  unfold startOfYear
  omega

/-- A day lies in one year of its era. As years do not fall from day to day, it is enough that they
are right at both ends. -/
theorem yearOfEra_eq_iff (hd0 : 0 ≤ day) (hd : day < era) (h0 : 0 ≤ year) (h : year < 400) :
    yearOfEra day = year ↔ startOfYear year ≤ day ∧ day ≤ endOfYear year := by
  constructor
  · rintro rfl
    have hstart : startOfYear (yearOfEra day) ≤ day := by
      by_contra hlt
      have hfirst : 0 < yearOfEra day := by
        by_contra hzero
        obtain heq : yearOfEra day = 0 := by omega
        rw [heq] at hlt
        exact hlt hd0
      have hbefore : endOfYear (yearOfEra day - 1) = startOfYear (yearOfEra day) - 1 := by
        unfold endOfYear
        rw [if_neg (by omega), Int.sub_add_cancel]
      have hmono := yearOfEra_mono hd0 (b := endOfYear (yearOfEra day - 1)) (by omega)
        (endOfYear_lt_era (by omega) (by omega))
      rw [yearOfEra_end (by omega) (by omega)] at hmono
      omega
    refine ⟨hstart, ?_⟩
    by_contra hlt
    by_cases hlast : yearOfEra day = 399
    · rw [hlast] at hlt
      exact hlt (Int.le_sub_one_of_lt hd)
    · have hafter : endOfYear (yearOfEra day) = startOfYear (yearOfEra day + 1) - 1 := if_neg hlast
      have hmono := yearOfEra_mono (a := startOfYear (yearOfEra day + 1))
        (startOfYear_nonneg (by omega)) (by omega) hd
      rw [yearOfEra_start (by omega) (by omega)] at hmono
      omega
  · rintro ⟨hstart, hend⟩
    have hlow := yearOfEra_mono (startOfYear_nonneg h0) hstart hd
    have hhigh := yearOfEra_mono hd0 hend (endOfYear_lt_era h0 h)
    rw [yearOfEra_start h0 h] at hlow
    rw [yearOfEra_end h0 h] at hhigh
    omega

theorem yearOfEra_range (hd0 : 0 ≤ day) (hd : day < era) :
    0 ≤ yearOfEra day ∧ yearOfEra day < 400 := by
  have hlow := yearOfEra_mono (Int.le_refl 0) hd0 hd
  have hhigh := yearOfEra_mono hd0 (Int.le_sub_one_of_lt hd) (by decide)
  have hfirst : yearOfEra 0 = 0 := by decide
  have hlast : yearOfEra (era - 1) = 399 := by decide
  omega

end Era

namespace Date

structure Valid (d : Date) : Prop where
  month_pos : 1 ≤ d.month
  month_le : d.month ≤ 12
  day_pos : 1 ≤ d.day
  day_le : d.day ≤ daysInMonth d.year d.month

def firstAfter (year month : Int) : Date :=
  if month < 12 then ⟨year, month + 1, 1⟩ else ⟨year + 1, 1, 1⟩

def next (d : Date) : Date :=
  if d.day < daysInMonth d.year d.month then { d with day := d.day + 1 }
  else firstAfter d.year d.month

end Date

theorem isLeapYear_iff {year : Int} :
    isLeapYear year = true ↔ year % 4 = 0 ∧ (year % 100 ≠ 0 ∨ year % 400 = 0) := by
  simp [isLeapYear]

theorem isLeapYear_add_era (year k : Int) : isLeapYear (year + 400 * k) = isLeapYear year := by
  rw [Bool.eq_iff_iff, isLeapYear_iff, isLeapYear_iff]
  omega

theorem daysInMonth_range (year month : Int) :
    28 ≤ daysInMonth year month ∧ daysInMonth year month ≤ 31 := by
  unfold daysInMonth
  split
  · split <;> omega
  · split <;> omega

namespace Date

def marchYear (d : Date) : Int := if d.month ≤ 2 then d.year - 1 else d.year

def marchMonth (d : Date) : Int := if d.month ≤ 2 then d.month + 9 else d.month - 3

def marchDay (d : Date) : Int := startOfMonth d.marchMonth + d.day - 1

theorem marchMonth_range {d : Date} (h : d.Valid) : 0 ≤ d.marchMonth ∧ d.marchMonth ≤ 11 := by
  have hpos := h.month_pos
  have hle := h.month_le
  unfold marchMonth
  split <;> omega

theorem daysInMonth_eq {d : Date} (hpos : 1 ≤ d.month) (hle : d.month ≤ 12)
    (hfebruary : d.month ≠ 2) :
    daysInMonth d.year d.month = startOfMonth (d.marchMonth + 1) - startOfMonth d.marchMonth := by
  obtain ⟨year, month, day⟩ := d
  change 1 ≤ month at hpos
  change month ≤ 12 at hle
  change month ≠ 2 at hfebruary
  interval_cases month <;> first | rfl | exact absurd rfl hfebruary

theorem daysInMonth_february (year : Int) :
    daysInMonth year 2 = if isLeapYear year then 29 else 28 := rfl

theorem marchDay_lt {d : Date} (h : d.Valid) : startOfMonth d.marchMonth ≤ d.marchDay ∧
    d.marchDay < startOfMonth (d.marchMonth + 1) := by
  have hpos := h.day_pos
  have hle := h.day_le
  unfold marchDay
  refine ⟨by omega, ?_⟩
  by_cases hfebruary : d.month = 2
  · have hmonth : d.marchMonth = 11 := by
      unfold marchMonth
      rw [hfebruary]
      rfl
    have hstart : startOfMonth 11 = 337 := by decide
    have hend : startOfMonth (11 + 1) = 367 := by decide
    have hshort : daysInMonth d.year 2 ≤ 29 := by
      rw [daysInMonth_february]
      split <;> omega
    rw [hfebruary] at hle
    rw [hmonth, hstart, hend]
    omega
  · rw [daysInMonth_eq h.month_pos h.month_le hfebruary] at hle
    omega

theorem monthOfYear_marchDay {d : Date} (h : d.Valid) : monthOfYear d.marchDay = d.marchMonth := by
  have hday := marchDay_lt h
  unfold startOfMonth at hday
  unfold monthOfYear
  omega

theorem marchDay_range {d : Date} (h : d.Valid) : 0 ≤ d.marchDay ∧
    d.marchDay ≤ if isLeapYear (d.marchYear + 1) then 365 else 364 := by
  have hday := marchDay_lt h
  have hmonth := marchMonth_range h
  have hnonneg : 0 ≤ startOfMonth d.marchMonth := by
    unfold startOfMonth
    omega
  refine ⟨by omega, ?_⟩
  by_cases hfebruary : d.month = 2
  · have hle := h.day_le
    have hyear : d.marchYear + 1 = d.year := by
      unfold marchYear
      rw [hfebruary]
      exact Int.sub_add_cancel _ _
    have hstart : startOfMonth d.marchMonth = 337 := by
      unfold marchMonth
      rw [hfebruary]
      rfl
    rw [hfebruary, daysInMonth_february] at hle
    unfold marchDay
    rw [hyear, hstart]
    cases hleap : isLeapYear d.year <;> simp [hleap] at hle ⊢ <;> omega
  · have hbefore : d.marchMonth ≤ 10 := by
      have hpos := h.month_pos
      have hle := h.month_le
      unfold marchMonth
      split <;> omega
    have hend : startOfMonth (d.marchMonth + 1) ≤ 337 := by
      unfold startOfMonth
      omega
    split <;> omega

end Date

theorem dayOfDate_eq (d : Date) : dayOfDate d =
    era * (d.marchYear / 400) + (startOfYear (d.marchYear % 400) + d.marchDay) - epoch := by
  change era * (d.marchYear / 400) + startOfYear (d.marchYear % 400) +
    startOfMonth d.marchMonth + d.day - 1 - epoch = _
  unfold Date.marchDay
  omega

theorem dateOfDay_dayOfDate {d : Date} (h : d.Valid) : dateOfDay (dayOfDate d) = d := by
  have hmonth := Date.monthOfYear_marchDay h
  have hpos := h.month_pos
  have hle := h.month_le
  obtain ⟨hlow, hhigh⟩ := Date.marchDay_range h
  have hleap : isLeapYear (d.marchYear + 1) = isLeapYear (d.marchYear % 400 + 1) := by
    rw [← isLeapYear_add_era (d.marchYear % 400 + 1) (d.marchYear / 400)]
    congr 1
    omega
  have hy0 : 0 ≤ d.marchYear % 400 := by omega
  have hy : d.marchYear % 400 < 400 := by omega
  have hstart := startOfYear_nonneg hy0
  have hend : startOfYear (d.marchYear % 400) + d.marchDay ≤ endOfYear (d.marchYear % 400) := by
    rw [endOfYear_eq hy0 hy, ← hleap]
    omega
  have hera := endOfYear_lt_era hy0 hy
  have hyear : yearOfEra (startOfYear (d.marchYear % 400) + d.marchDay) = d.marchYear % 400 :=
    (yearOfEra_eq_iff (by omega) (by omega) hy0 hy).2 ⟨by omega, hend⟩
  have hrest : (dayOfDate d + epoch) % era = startOfYear (d.marchYear % 400) + d.marchDay := by
    rw [dayOfDate_eq, Int.sub_add_cancel, Int.add_comm, Int.add_mul_emod_self_left]
    exact Int.emod_eq_of_lt (by omega) (by omega)
  have hquotient : (dayOfDate d + epoch) / era = d.marchYear / 400 := by
    rw [dayOfDate_eq, Int.sub_add_cancel, Int.add_comm, Int.add_mul_ediv_left _ _ (by decide),
      Int.ediv_eq_zero_of_lt (by omega) (by omega), Int.zero_add]
  have hday : startOfYear (d.marchYear % 400) + d.marchDay - startOfYear (d.marchYear % 400) =
      d.marchDay := by omega
  unfold dateOfDay
  rw [hrest, hquotient]
  dsimp only
  rw [hyear, hday, hmonth]
  obtain ⟨year, month, day⟩ := d
  unfold Date.marchDay
  rw [Date.mk.injEq]
  change 1 ≤ month at hpos
  change month ≤ 12 at hle
  unfold Date.marchYear Date.marchMonth
  dsimp only
  by_cases hlate : month ≤ 2
  · rw [if_pos hlate, if_pos hlate, if_neg (by omega), if_neg (by omega)]
    omega
  · rw [if_neg hlate, if_neg hlate, if_pos (by omega), if_pos (by omega)]
    omega

theorem monthOfYear_bounds {day : Int} (h0 : 0 ≤ day) (h : day ≤ 365) :
    0 ≤ monthOfYear day ∧ monthOfYear day ≤ 11 ∧ startOfMonth (monthOfYear day) ≤ day ∧
      day < startOfMonth (monthOfYear day + 1) := by
  unfold monthOfYear startOfMonth
  omega

theorem dateOfDay_valid (n : Int) : (dateOfDay n).Valid ∧ dayOfDate (dateOfDay n) = n := by
  have hrest0 : 0 ≤ (n + epoch) % era := Int.emod_nonneg _ (by decide)
  have hrest : (n + epoch) % era < era := Int.emod_lt_of_pos _ (by decide)
  have hsplit := Int.mul_ediv_add_emod (n + epoch) era
  obtain ⟨hy0, hy⟩ := yearOfEra_range hrest0 hrest
  obtain ⟨hstart, hend⟩ := (yearOfEra_eq_iff hrest0 hrest hy0 hy).1 rfl
  rw [endOfYear_eq hy0 hy] at hend
  generalize hd : dateOfDay n = d
  unfold dateOfDay at hd
  dsimp only at hd
  generalize (n + epoch) % era = dayOfEra at *
  generalize (n + epoch) / era = e at *
  generalize yearOfEra dayOfEra = y at *
  have hshort : dayOfEra - startOfYear y ≤ 365 := by
    split at hend <;> omega
  obtain ⟨hm0, hm, hfirst, hlast⟩ := monthOfYear_bounds (Int.sub_nonneg_of_le hstart) hshort
  generalize monthOfYear (dayOfEra - startOfYear y) = m at *
  have hmonth : 1 ≤ d.month ∧ d.month ≤ 12 ∧ (d.month = 2 ↔ m = 11) := by
    rw [← hd]
    dsimp only
    split <;> omega
  have hmarchMonth : d.marchMonth = m := by
    rw [← hd]
    unfold Date.marchMonth
    dsimp only
    split <;> split <;> omega
  have hmarchYear : d.marchYear = y + 400 * e := by
    rw [← hd]
    unfold Date.marchYear
    dsimp only
    split <;> split <;> omega
  have hday : d.day = dayOfEra - startOfYear y - startOfMonth m + 1 := by rw [← hd]
  have hlength : d.day ≤ daysInMonth d.year d.month := by
    by_cases hfebruary : d.month = 2
    · have hyear : d.year = y + 1 + 400 * e := by
        have hmarch : d.marchYear = d.year - 1 := if_pos (by omega)
        omega
      have hnine : startOfMonth 11 = 337 := by decide
      rw [hfebruary, Date.daysInMonth_february, hyear, isLeapYear_add_era]
      rw [hmonth.2.2.1 hfebruary, hnine] at hday
      cases hleap : isLeapYear (y + 1) <;> simp [hleap] at hend ⊢ <;> omega
    · rw [Date.daysInMonth_eq hmonth.1 hmonth.2.1 hfebruary, hmarchMonth]
      omega
  refine ⟨⟨hmonth.1, hmonth.2.1, by omega, hlength⟩, ?_⟩
  have hquotient : (y + 400 * e) / 400 = e := by omega
  have hremainder : (y + 400 * e) % 400 = y := by omega
  rw [dayOfDate_eq, hmarchYear, hquotient, hremainder]
  unfold Date.marchDay
  rw [hmarchMonth]
  omega

theorem Date.valid_firstAfter {year month : Int} (hpos : 1 ≤ month) :
    (Date.firstAfter year month).Valid := by
  unfold Date.firstAfter
  split
  · next hmonth =>
    have hlength := (daysInMonth_range year (month + 1)).1
    exact ⟨Int.le_add_one hpos, hmonth, Int.le_refl 1, by dsimp only; omega⟩
  · exact ⟨Int.le_refl 1, show (1 : Int) ≤ 12 by decide, Int.le_refl 1,
      show (1 : Int) ≤ 31 by decide⟩

theorem Date.Valid.next {d : Date} (h : d.Valid) : d.next.Valid := by
  unfold Date.next
  split
  · next hlt => exact ⟨h.month_pos, h.month_le, Int.le_add_one h.day_pos, hlt⟩
  · exact Date.valid_firstAfter h.month_pos

def daysBefore (year : Int) : Int := 365 * year + year / 4 - year / 100 + year / 400

theorem daysBefore_eq (year : Int) :
    daysBefore year = era * (year / 400) + startOfYear (year % 400) := by
  unfold daysBefore era startOfYear
  omega

theorem daysBefore_succ (year : Int) :
    daysBefore (year + 1) = daysBefore year + if isLeapYear (year + 1) then 366 else 365 := by
  have hleap : isLeapYear (year + 1) = true ↔ _ := isLeapYear_iff
  unfold daysBefore
  split
  · next h =>
    rw [hleap] at h
    omega
  · next h =>
    rw [hleap] at h
    omega

theorem dayOfDate_eq_daysBefore (d : Date) : dayOfDate d =
    daysBefore d.marchYear + startOfMonth d.marchMonth + d.day - 1 - epoch := by
  rw [dayOfDate_eq, daysBefore_eq]
  unfold Date.marchDay
  omega

theorem dayOfDate_firstAfter {year month : Int} (hpos : 1 ≤ month) (hle : month ≤ 12) :
    dayOfDate (.firstAfter year month) = dayOfDate ⟨year, month, daysInMonth year month⟩ + 1 := by
  rw [dayOfDate_eq_daysBefore, dayOfDate_eq_daysBefore]
  by_cases hfebruary : month = 2
  · have hyear := daysBefore_succ (year - 1)
    rw [Int.sub_add_cancel] at hyear
    subst hfebruary
    change daysBefore year + 0 + 1 - 1 - epoch =
      daysBefore (year - 1) + 337 + (if isLeapYear year then 29 else 28) - 1 - epoch + 1
    cases hleap : isLeapYear year <;> rw [hleap] at hyear <;>
      simp only [Bool.false_eq_true, if_true, if_false] at hyear ⊢ <;> omega
  · have hlength := Date.daysInMonth_eq (d := ⟨year, month, daysInMonth year month⟩) hpos hle
      hfebruary
    have hmarch : (Date.firstAfter year month).marchYear =
          Date.marchYear ⟨year, month, daysInMonth year month⟩ ∧
        (Date.firstAfter year month).marchMonth =
          Date.marchMonth ⟨year, month, daysInMonth year month⟩ + 1 ∧
        (Date.firstAfter year month).day = 1 := by
      unfold Date.firstAfter Date.marchYear Date.marchMonth
      split <;> dsimp only <;> split <;> split <;> omega
    rw [hmarch.1, hmarch.2.1, hmarch.2.2]
    dsimp only at hlength ⊢
    omega

theorem dayOfDate_next {d : Date} (h : d.Valid) : dayOfDate d.next = dayOfDate d + 1 := by
  have hend := h.day_le
  unfold Date.next
  split
  · rw [dayOfDate_eq_daysBefore, dayOfDate_eq_daysBefore]
    change daysBefore d.marchYear + startOfMonth d.marchMonth + (d.day + 1) - 1 - epoch = _
    omega
  · have hlast : d = ⟨d.year, d.month, daysInMonth d.year d.month⟩ := by
      obtain ⟨year, month, day⟩ := d
      exact congrArg (Date.mk year month) (Int.le_antisymm hend (Int.not_lt.1 ‹_›))
    rw [dayOfDate_firstAfter h.month_pos h.month_le, ← hlast]

theorem dateOfDay_succ (n : Int) : dateOfDay (n + 1) = (dateOfDay n).next := by
  obtain ⟨hvalid, hday⟩ := dateOfDay_valid n
  rw [← dateOfDay_dayOfDate hvalid.next, dayOfDate_next hvalid, hday]

example : dateOfDay 0 = ⟨1970, 1, 1⟩ := by decide

theorem lengthOfMonth_eq {year month : Int} (hyear : hasYear year = true) (hpos : 1 ≤ month)
    (hle : month ≤ 12) : lengthOfMonth year month = daysInMonth year month := by
  have hlength := (daysInMonth_range year month).1
  have hlast : Date.Valid ⟨year, month, daysInMonth year month⟩ :=
    ⟨hpos, hle, by dsimp only; omega, Int.le_refl _⟩
  have hbefore : dayBefore? (dayOfDate (.firstAfter year month)) =
      some (dayOfDate ⟨year, month, daysInMonth year month⟩) := by
    unfold dayBefore?
    rw [dayOfDate_firstAfter hpos hle, Int.add_sub_cancel, dateOfDay_dayOfDate hlast]
    exact if_pos hyear
  have hfirst : (if month = 12 then firstOfMonth? (year + 1) 1 else firstOfMonth? year (month + 1)) =
      if hasYear (Date.firstAfter year month).year then
        some (dayOfDate (.firstAfter year month)) else none := by
    unfold firstOfMonth? Date.firstAfter
    by_cases hdecember : month = 12
    · rw [if_pos hdecember, if_neg (show ¬month < 12 by omega)]
    · rw [if_neg hdecember, if_pos (show month < 12 by omega)]
  unfold lengthOfMonth
  dsimp only
  rw [hfirst]
  split
  · rw [Option.bind_some, hbefore, Option.map_some, dateOfDay_dayOfDate hlast]
    rfl
  · next hnone =>
    -- only the year after the last one is missing
    have hdecember : month = 12 := by
      by_contra hother
      unfold Date.firstAfter at hnone
      rw [if_pos (show month < 12 by omega)] at hnone
      exact hnone hyear
    rw [hdecember]
    rfl

theorem hasYear_iff {year : Int} : hasYear year = true ↔ -262143 ≤ year ∧ year ≤ 262142 := by
  unfold hasYear
  rw [Bool.and_eq_true, decide_eq_true_eq, decide_eq_true_eq]
  rfl

theorem dayOfDate_range {d : Date} (h : d.Valid) (hyear : hasYear d.year = true) :
    -100000000 ≤ dayOfDate d ∧ dayOfDate d ≤ 100000000 := by
  have hday := Date.marchDay_lt h
  have hmonth := Date.marchMonth_range h
  have hmarch : d.marchYear ≤ d.year ∧ d.year - 1 ≤ d.marchYear := by
    unfold Date.marchYear
    split <;> omega
  rw [dayOfDate_eq, ← Int.add_assoc, ← daysBefore_eq]
  unfold daysBefore epoch
  unfold startOfMonth at hday
  rw [hasYear_iff] at hyear
  omega

end SeriesQuery.Calendar
