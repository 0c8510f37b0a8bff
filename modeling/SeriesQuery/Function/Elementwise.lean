import SeriesQuery.Calendar
import SeriesQuery.Function
import SeriesQuery.Time
import SeriesQuery.SampleValue

/-!
# Functions of single values

Mathematical functions map a value, perhaps with a further number. Date functions read a value as
seconds since the epoch and yield a field of the calendar.
-/

namespace SeriesQuery.Function

open Numeric

variable {α : Type} [SampleValue α]

/-- Rounds to the nearest multiple of a number, halves upward. -/
def roundTo (v unit : α) : α :=
  let inverse := one / unit
  Numeric.floor (v * inverse + ofInt 1 / ofInt 2) / inverse

/-- The value of a mathematical function. Rounding is to whole numbers unless a unit is given. -/
def applyMath (f : Function) (v : α) (param : Option α) : α :=
  match f with
  | abs => Numeric.abs v
  | ceil => Numeric.ceil v
  | floor => Numeric.floor v
  | exp => SampleValue.exp v
  | sqrt => Numeric.sqrt v
  | ln => SampleValue.log v
  | log2 => SampleValue.log2 v
  | log10 => SampleValue.log10 v
  | round => roundTo v (param.getD one)
  | clampMin => maximum v (param.getD nan)
  | clampMax => minimum v (param.getD nan)
  | _ => nan

def calendarField (f : Function) (t : Calendar.Instant) : Option Int :=
  match f with
  | minute => some t.minute
  | hour => some t.hour
  | dayOfMonth => some t.date.day
  | dayOfWeek => some (Calendar.dayOfWeek t.days)
  | daysInMonth => some (Calendar.lengthOfMonth t.date.year t.date.month)
  | month => some t.date.month
  | year => some t.date.year
  | _ => none

/-- The calendar field of the time some seconds after the epoch, or NaN if there is none. -/
def applyDate (f : Function) (seconds : α) : α :=
  if isFinite seconds then
    let t : Calendar.Instant :=
      ⟨clampToInt Millis.least Millis.greatest (Numeric.floor seconds)⟩
    if t.isRepresentable then ((f.calendarField t).map ofInt).getD nan else nan
  else nan

end SeriesQuery.Function
