/-!
# Milliseconds

Timestamps count milliseconds since the epoch and durations are whole milliseconds. Both are held
in sixty-four bits. A conversion into them wraps around, while a difference that leaves them is an
overflow, after which no calculation goes on. An interval contains both of its ends.
-/

namespace SeriesQuery

/-- What cannot be calculated in sixty-four bits. -/
inductive Overflow
  | subtraction
  | negation
deriving DecidableEq, Repr

def Overflow.message : Overflow → String
  | subtraction => "attempt to subtract with overflow"
  | negation => "attempt to negate with overflow"

namespace Millis

def least : Int := -0x8000000000000000

def greatest : Int := 0x7fffffffffffffff

def InRange (t : Int) : Prop := least ≤ t ∧ t ≤ greatest

instance (t : Int) : Decidable (InRange t) := inferInstanceAs (Decidable (_ ∧ _))

/-- What a number outside the range becomes when it is converted. -/
def wrap (t : Int) : Int := t.bmod 0x10000000000000000

def checked (t : Int) : Option Int := if InRange t then some t else none

/-- The difference of two times, or the time some duration earlier. -/
def minus (a b : Int) : Except Overflow Int :=
  if InRange (a - b) then .ok (a - b) else .error .subtraction

def negated (t : Int) : Except Overflow Int := if InRange (-t) then .ok (-t) else .error .negation

theorem wrap_of_inRange {t : Int} (h : InRange t) : wrap t = t := by
  simp only [InRange, least, greatest] at h
  exact Int.bmod_eq_of_le (by omega) (by omega)

theorem checked_eq_some_iff {t u : Int} : checked t = some u ↔ InRange t ∧ t = u := by
  simp [checked]

theorem minus_of_inRange {a b : Int} (h : InRange (a - b)) : minus a b = .ok (a - b) := if_pos h

theorem minus_eq_ok_iff {a b d : Int} : minus a b = .ok d ↔ InRange (a - b) ∧ a - b = d := by
  unfold minus
  by_cases h : InRange (a - b)
  · rw [if_pos h, Except.ok.injEq]
    exact (and_iff_right h).symm
  · rw [if_neg h]
    exact iff_of_false nofun fun h' => h h'.1

end Millis

structure TimeRange where
  start : Int
  finish : Int
deriving DecidableEq, Repr

namespace TimeRange

def contains (r : TimeRange) (t : Int) : Bool := r.start ≤ t && t ≤ r.finish

def isEmpty (r : TimeRange) : Bool := r.finish < r.start

def display (r : TimeRange) : String := s!"[{r.start}, {r.finish}]"

end TimeRange

end SeriesQuery
