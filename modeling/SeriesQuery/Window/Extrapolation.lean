import SeriesQuery.Window

/-!
# Increase over a window

The increase between the first and the last sample is extended to the ends of the window. On each
side the extension covers the gap if it is shorter than about one sample interval and half an
interval otherwise, and a counter is not followed back beyond the time at which it was zero.
-/

namespace SeriesQuery.Window

open Numeric

variable {α : Type} [Numeric α]

def lostToResets (values : List α) : α :=
  (adjacent values).foldl (fun lost (v, next) => if lt next v then lost + v else lost) zero

/-- The difference of the last and the first value, for a counter with resets made good. -/
def rawIncrease (counter : Bool) (first last : α) (values : List α) : α :=
  last - first + (if counter then lostToResets values else zero)

/-- Seconds before, between and after the samples of a window. -/
structure Coverage (α : Type) where
  before : α
  sampled : α
  after : α
  /-- The mean time between two samples. -/
  interval : α

namespace Coverage

def extension (c : Coverage α) (gap : α) : α :=
  if lt gap (c.interval * (ofInt 11 / ofInt 10)) then gap else c.interval / ofInt 2

def extended (c : Coverage α) : α := c.sampled + c.extension c.before + c.extension c.after

/-- A counter with the given first value and increase is followed back to zero at most. -/
def limitToZero (c : Coverage α) (first increase : α) : Coverage α :=
  if lt zero increase && le zero first then
    let toZero := c.sampled * (first / increase)
    if lt toZero c.before then { c with before := toZero } else c
  else c

end Coverage

def coverage (w : Window) (first last : Int) (count : Nat) : Except Overflow (Coverage α) := do
  let before ← secondsBetween w.start first
  let after ← secondsBetween last w.finish
  let sampled ← secondsBetween first last
  return { before, sampled, after, interval := sampled / ofNat (count - 1) }

theorem coverage_of_inRange {w : Window} {first last : Int}
    (hbefore : Millis.InRange (first - w.start)) (hsampled : Millis.InRange (last - first))
    (hafter : Millis.InRange (w.finish - last)) (count : Nat) :
    (w.coverage first last count : Except Overflow (Coverage α)) =
      .ok ⟨ofMillis (first - w.start), ofMillis (last - first), ofMillis (w.finish - last),
        ofMillis (last - first) / ofNat (count - 1)⟩ := by
  unfold coverage
  rw [secondsBetween_of_inRange hbefore, secondsBetween_of_inRange hsampled,
    secondsBetween_of_inRange hafter]
  rfl

def increase (w : Window) (counter : Bool) (samples : List (Sample α)) :
    Except Overflow (Option α) :=
  match samples, samples.getLast? with
  | first :: _ :: _, some last => do
    let raw := rawIncrease counter first.value last.value (samples.map Sample.value)
    let c ← w.coverage first.timestamp last.timestamp samples.length
    let c := if counter then c.limitToZero first.value raw else c
    return some (raw * (c.extended / c.sampled))
  | _, _ => .ok none

def rate (w : Window) (samples : List (Sample α)) : Except Overflow (Option α) := do
  return (← w.increase true samples).map (· / ofMillis w.range)

end SeriesQuery.Window
