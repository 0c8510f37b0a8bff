import SeriesQuery.Function
import SeriesQuery.QueryError
import SeriesQuery.Statistics
import SeriesQuery.Window.Extrapolation
import SeriesQuery.Window.Trend

/-!
# Functions of sample windows

A window function reduces the samples of one series inside a window to a value, or to nothing if
there are too few of them. It fails where a difference of times overflows.
-/

namespace SeriesQuery.Function

variable {α : Type} [SampleValue α]

/-- A number between zero and one is asked for; a NaN is let through. -/
def isFraction (v : α) : Bool := !(Numeric.le v Numeric.zero || Numeric.le Numeric.one v)

def checkParams (f : Function) (params : List α) : Except ArgumentFault Unit :=
  match f, params with
  | holtWinters, level :: rest =>
    if isFraction level then
      match rest with
      | trend :: _ =>
        if isFraction trend then .ok () else .error (.trendFactor (SampleValue.literal trend))
      | [] => .ok ()
    else .error (.smoothingFactor (SampleValue.literal level))
  | _, _ => .ok ()

/-- The value of a window function. The samples are those of one series inside the window, in
order of time, and the numbers are the scalar arguments in order. -/
def reduceWindow (f : Function) (samples : List (Sample α)) (w : Window) (params : List α) :
    Except Overflow (Option α) :=
  if samples.isEmpty then .ok none
  else
    let values := samples.map Sample.value
    let param := params.headD Numeric.nan
    match f with
    | rate => w.rate samples
    | increase => w.increase true samples
    | delta => w.increase false samples
    | irate => Window.lastRate samples
    | idelta => Window.lastDifference samples
    | changes => .ok (some (Numeric.ofNat (Window.changes values)))
    | resets => .ok (some (Numeric.ofNat (Window.resets values)))
    | deriv => Window.slope samples
    | predictLinear => w.predict param samples
    | avgOverTime => .ok (some (Statistics.mean values))
    | sumOverTime => .ok (some (Statistics.sum values))
    | minOverTime => .ok (Window.best Numeric.lt values)
    | maxOverTime => .ok (Window.best (fun b a => Numeric.lt a b) values)
    | countOverTime => .ok (some (Numeric.ofNat values.length))
    | stddevOverTime => .ok (some (Statistics.standardDeviation values))
    | stdvarOverTime => .ok (some (Statistics.variance values))
    | quantileOverTime => .ok (some (Statistics.quantile param values))
    | lastOverTime => .ok values.getLast?
    | holtWinters => .ok (Window.smooth param (params.getD 1 Numeric.nan) values)
    | _ => .ok none

omit [SampleValue α] in
theorem not_isEmpty_of_values {samples : List (Sample α)} {values : List α}
    (h : samples.map Sample.value = values) (hne : values ≠ []) : ¬samples.isEmpty = true := by
  intro hempty
  rw [List.isEmpty_iff.1 hempty] at h
  exact hne h.symm

end SeriesQuery.Function
