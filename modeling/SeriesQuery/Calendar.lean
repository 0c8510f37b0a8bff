/-!
# Calendar

Days are counted from the epoch, the first of January 1970, and named by the Gregorian calendar,
extended to all years. Years here start in March, so that a leap day is the last day of its year.
-/

namespace SeriesQuery.Calendar

structure Date where
  year : Int
  month : Int
  day : Int
deriving DecidableEq, Repr

def epoch : Int := 719468

def era : Int := 146097

def yearOfEra (day : Int) : Int := (day - day / 1460 + day / 36524 - day / 146096) / 365

def startOfYear (year : Int) : Int := 365 * year + year / 4 - year / 100

def monthOfYear (day : Int) : Int := (5 * day + 2) / 153

def startOfMonth (month : Int) : Int := (153 * month + 2) / 5

def dateOfDay (days : Int) : Date :=
  let dayOfEra := (days + epoch) % era
  let year := yearOfEra dayOfEra
  let dayOfYear := dayOfEra - startOfYear year
  let month := monthOfYear dayOfYear
  { year := year + 400 * ((days + epoch) / era) + (if month < 10 then 0 else 1)
    month := if month < 10 then month + 3 else month - 9
    day := dayOfYear - startOfMonth month + 1 }

/-- The day, counted from the epoch, that a date names. -/
def dayOfDate (d : Date) : Int :=
  let year := if d.month ≤ 2 then d.year - 1 else d.year
  let month := if d.month ≤ 2 then d.month + 9 else d.month - 3
  era * (year / 400) + startOfYear (year % 400) + startOfMonth month + d.day - 1 - epoch

def isLeapYear (year : Int) : Bool := year % 4 = 0 && (year % 100 != 0 || year % 400 = 0)

def daysInMonth (year month : Int) : Int :=
  if month = 2 then if isLeapYear year then 29 else 28
  else if month = 4 || month = 6 || month = 9 || month = 11 then 30
  else 31

def firstYear : Int := -262143

def lastYear : Int := 262142

def hasYear (year : Int) : Bool := firstYear ≤ year && year ≤ lastYear

def firstOfMonth? (year month : Int) : Option Int :=
  if hasYear year then some (dayOfDate ⟨year, month, 1⟩) else none

def dayBefore? (day : Int) : Option Int :=
  if hasYear (dateOfDay (day - 1)).year then some (day - 1) else none

/-- The length of a month, which the day before the first of the next month tells. The month after
the last one cannot be represented. -/
def lengthOfMonth (year month : Int) : Int :=
  let next := if month = 12 then firstOfMonth? (year + 1) 1 else firstOfMonth? year (month + 1)
  ((next.bind dayBefore?).map fun day => (dateOfDay day).day).getD 31

def dayOfWeek (days : Int) : Int := (days + 4) % 7

structure Instant where
  seconds : Int

namespace Instant

def days (t : Instant) : Int := t.seconds / 86400

def secondOfDay (t : Instant) : Int := t.seconds % 86400

def date (t : Instant) : Date := dateOfDay t.days

def hour (t : Instant) : Int := t.secondOfDay / 3600

def minute (t : Instant) : Int := t.secondOfDay % 3600 / 60

def isRepresentable (t : Instant) : Bool := hasYear t.date.year

end Instant

end SeriesQuery.Calendar
