import SeriesQuery.Function.Elementwise
import SeriesQuery.Proofs.Binary64.WholeNumbers
import SeriesQuery.Proofs.Calendar

/-!
# Date functions

The date functions read whole seconds, rounded down, as a time of a day with a date. One day later
the time of the day is the same, the day of the week is the next one and the date is the next date.
-/

namespace SeriesQuery

open Calendar

namespace Calendar.Instant

def tomorrow (t : Instant) : Instant := ⟨t.seconds + 86400⟩

variable (t : Instant)

theorem days_tomorrow : t.tomorrow.days = t.days + 1 := by
  change (t.seconds + 86400) / 86400 = t.seconds / 86400 + 1
  omega

theorem secondOfDay_tomorrow : t.tomorrow.secondOfDay = t.secondOfDay := by
  change (t.seconds + 86400) % 86400 = t.seconds % 86400
  omega

theorem date_tomorrow : t.tomorrow.date = t.date.next := by
  unfold date
  rw [days_tomorrow, dateOfDay_succ]

theorem dayOfWeek_tomorrow : dayOfWeek t.tomorrow.days = (dayOfWeek t.days + 1) % 7 := by
  rw [days_tomorrow]
  unfold dayOfWeek
  omega

/-- The times that can be represented are some of those of which the seconds can be counted. -/
theorem seconds_range (h : t.isRepresentable = true) :
    Millis.least ≤ t.seconds ∧ t.seconds ≤ Millis.greatest := by
  obtain ⟨hvalid, hdays⟩ := dateOfDay_valid t.days
  have hrange := dayOfDate_range hvalid h
  rw [hdays] at hrange
  unfold days at hrange
  unfold Millis.least Millis.greatest
  omega

end Calendar.Instant

/-- The time of a number of seconds, rounded down to whole ones. -/
def Binary64.instant (x : Binary64) : Instant := ⟨⌊x.value⌋⟩

structure ShowsDate (x : Binary64) (date : Date) (weekday hour minute : Int) : Prop where
  year : Function.year.applyDate x = Numeric.ofInt date.year
  month : Function.month.applyDate x = Numeric.ofInt date.month
  day : Function.dayOfMonth.applyDate x = Numeric.ofInt date.day
  length : Function.daysInMonth.applyDate x =
    Numeric.ofInt (Calendar.daysInMonth date.year date.month)
  weekday : Function.dayOfWeek.applyDate x = Numeric.ofInt weekday
  hour : Function.hour.applyDate x = Numeric.ofInt hour
  minute : Function.minute.applyDate x = Numeric.ofInt minute

variable {x y : Binary64}

theorem Function.applyDate_eq (f : Function) (hx : x.Finite)
    (hrepresentable : x.instant.isRepresentable = true) :
    f.applyDate x = ((f.calendarField x.instant).map Numeric.ofInt).getD Numeric.nan := by
  obtain ⟨hlow, hhigh⟩ := Instant.seconds_range _ hrepresentable
  have hclamp : Numeric.clampToInt Millis.least Millis.greatest (Numeric.floor x) = ⌊x.value⌋ :=
    Binary64.clampToInt_floor hx hlow hhigh
  unfold applyDate
  rw [if_pos (Binary64.numeric_isFinite.2 hx), hclamp]
  exact if_pos hrepresentable

theorem showsDate (hx : x.Finite) (hrepresentable : x.instant.isRepresentable = true) :
    ShowsDate x x.instant.date (dayOfWeek x.instant.days) x.instant.hour x.instant.minute := by
  have hvalid := (dateOfDay_valid x.instant.days).1
  have hlength := lengthOfMonth_eq hrepresentable hvalid.month_pos hvalid.month_le
  constructor
  case length =>
    rw [Function.applyDate_eq _ hx hrepresentable]
    exact congrArg Numeric.ofInt hlength
  all_goals exact Function.applyDate_eq _ hx hrepresentable

/-- The date functions follow the Gregorian calendar: a day lies within its month, and a time of
which the whole seconds are one day later has the same time of the day, the next day of the week
and the next date. -/
theorem date_functions_follow_calendar (hx : x.Finite) (hy : y.Finite)
    (hlater : ⌊y.value⌋ = ⌊x.value⌋ + 86400) (hrepresentable : x.instant.isRepresentable = true)
    (hrepresentable' : y.instant.isRepresentable = true) :
    ∃ date weekday hour minute, date.Valid ∧ ShowsDate x date weekday hour minute ∧
      ShowsDate y date.next ((weekday + 1) % 7) hour minute := by
  have htomorrow : y.instant = x.instant.tomorrow := congrArg Instant.mk hlater
  have hshows := showsDate hy hrepresentable'
  rw [htomorrow, Instant.date_tomorrow, Instant.dayOfWeek_tomorrow] at hshows
  unfold Instant.hour Instant.minute at hshows
  rw [Instant.secondOfDay_tomorrow] at hshows
  exact ⟨x.instant.date, dayOfWeek x.instant.days, x.instant.hour, x.instant.minute,
    (dateOfDay_valid _).1, showsDate hx hrepresentable, hshows⟩

def beforeEpoch : Binary64 := ⟨0xbfe0000000000000⟩

def dayAfterBeforeEpoch : Binary64 := ⟨0x40f517f800000000⟩

theorem year_begins_after_epoch :
    beforeEpoch.Finite ∧ dayAfterBeforeEpoch.Finite ∧
    ⌊dayAfterBeforeEpoch.value⌋ = ⌊beforeEpoch.value⌋ + 86400 ∧
    beforeEpoch.instant.isRepresentable = true ∧
    dayAfterBeforeEpoch.instant.isRepresentable = true ∧
    beforeEpoch.instant.date = ⟨1969, 12, 31⟩ ∧
    ∃ date weekday hour minute, date.Valid ∧ ShowsDate beforeEpoch date weekday hour minute ∧
      ShowsDate dayAfterBeforeEpoch date.next ((weekday + 1) % 7) hour minute := by
  have hx : beforeEpoch.Finite := by
    unfold Binary64.Finite
    decide
  have hy : dayAfterBeforeEpoch.Finite := by
    unfold Binary64.Finite
    decide
  have hbefore : beforeEpoch.instant = ⟨-1⟩ := by
    unfold Binary64.instant
    rw [← Binary64.floorInt_eq]
    exact congrArg Instant.mk (by decide)
  have hafter : dayAfterBeforeEpoch.instant = ⟨86399⟩ := by
    unfold Binary64.instant
    rw [← Binary64.floorInt_eq]
    exact congrArg Instant.mk (by decide)
  have hlater : ⌊dayAfterBeforeEpoch.value⌋ = ⌊beforeEpoch.value⌋ + 86400 := by
    have hfloor := congrArg Instant.seconds hbefore
    have hfloor' := congrArg Instant.seconds hafter
    exact hfloor'.trans (congrArg (· + 86400) hfloor.symm)
  have hrepresentable : beforeEpoch.instant.isRepresentable = true := by
    rw [hbefore]
    decide
  have hrepresentable' : dayAfterBeforeEpoch.instant.isRepresentable = true := by
    rw [hafter]
    decide
  have hdate : beforeEpoch.instant.date = ⟨1969, 12, 31⟩ := by
    rw [hbefore]
    decide
  refine ⟨hx, hy, hlater, hrepresentable, hrepresentable', hdate, ?_⟩
  exact date_functions_follow_calendar hx hy hlater hrepresentable hrepresentable'

end SeriesQuery
