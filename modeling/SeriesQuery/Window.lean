import SeriesQuery.Sample
import SeriesQuery.Time

/-!
# Windows of samples

A range selector looks at the samples of a series in a window that ends at the evaluation
timestamp or some offset before it. Functions of the window's adjacent samples are here too.
-/

namespace SeriesQuery

/-- The bounds of a window, both inclusive, and the timestamp at which it is evaluated. -/
structure Window where
  start : Int
  finish : Int
  timestamp : Int
  range : Int
deriving DecidableEq, Repr

def Window.of (timestamp range offset : Int) : Except Overflow Window := do
  let finish ← Millis.minus timestamp offset
  let start ← Millis.minus finish range
  return { start, finish, timestamp, range }

theorem Window.of_eq_ok_iff {timestamp range offset : Int} {w : Window} :
    Window.of timestamp range offset = .ok w ↔
      Millis.InRange (timestamp - offset) ∧ Millis.InRange (timestamp - offset - range) ∧
        w = ⟨timestamp - offset - range, timestamp - offset, timestamp, range⟩ := by
  unfold Window.of Millis.minus
  by_cases hfinish : Millis.InRange (timestamp - offset)
  · by_cases hstart : Millis.InRange (timestamp - offset - range)
    · simp [hfinish, hstart, bind, Except.bind, pure, Except.pure, eq_comm]
    · simp [hfinish, hstart, bind, Except.bind]
  · simp [hfinish, bind, Except.bind]

def adjacent {β : Type} (xs : List β) : List (β × β) := xs.zip xs.tail

namespace Window

open Numeric

variable {α : Type} [Numeric α]

def secondsBetween (earlier later : Int) : Except Overflow α :=
  ofMillis <$> Millis.minus later earlier

theorem secondsBetween_of_inRange {earlier later : Int} (h : Millis.InRange (later - earlier)) :
    (secondsBetween earlier later : Except Overflow α) = .ok (ofMillis (later - earlier)) := by
  unfold secondsBetween
  rw [Millis.minus_of_inRange h]
  rfl

/-- How many values differ from the one before, where a NaN does not differ from a NaN. -/
def changes (values : List α) : Nat :=
  (adjacent values).countP fun (v, next) => !eq v next && !(isNaN v && isNaN next)

/-- How often a counter has been reset: how many values are smaller than the one before. -/
def resets (values : List α) : Nat := (adjacent values).countP fun (v, next) => lt next v

def lastDifference (samples : List (Sample α)) : Except Overflow (Option α) :=
  match samples.reverse with
  | last :: previous :: _ => do
    let interval ← Millis.minus last.timestamp previous.timestamp
    return if interval = 0 then none else some (last.value - previous.value)
  | _ => .ok none

/-- The increase between the last two values of a counter, per second. -/
def lastRate (samples : List (Sample α)) : Except Overflow (Option α) :=
  match samples.reverse with
  | last :: previous :: _ => do
    let interval ← Millis.minus last.timestamp previous.timestamp
    let increase :=
      if lt last.value previous.value then last.value else last.value - previous.value
    return if interval = 0 then none else some (increase / ofMillis interval)
  | _ => .ok none

/-- The best of the values; a NaN gives way to the value after it. -/
def best (better : α → α → Bool) : List α → Option α
  | [] => none
  | v :: rest => some (rest.foldl (fun a b => if better b a || isNaN a then b else a) v)

end Window

end SeriesQuery
