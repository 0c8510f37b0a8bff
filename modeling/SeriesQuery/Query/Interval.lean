import SeriesQuery.SampleValue
import SeriesQuery.Time

/-!
# Durations in query texts

A duration is a row of numbers with units, the largest unit first and none twice, and is not zero.
It is also a number, which counts seconds. A number alone counts seconds too and may be zero.
-/

namespace SeriesQuery.Query.Interval

def units : List (String × Nat) :=
  [("y", 31536000000), ("w", 604800000), ("d", 86400000), ("h", 3600000), ("m", 60000),
    ("s", 1000), ("ms", 1)]

def items : Nat → List Char → Option (List (Nat × String))
  | 0, _ => none
  | _ + 1, [] => some []
  | fuel + 1, cs =>
    let (digits, rest) := cs.span Char.isDigit
    let (unit, rest) := rest.span Char.isAlpha
    if digits.isEmpty || unit.isEmpty then none
    else
      let n := digits.foldl (fun n c => 10 * n + (c.toNat - '0'.toNat)) 0
      (items fuel rest).map ((n, String.ofList unit) :: ·)

/-- The milliseconds of numbers whose units come in the given order. A number beyond thirty-two
bits counts as zero. -/
def total : List (String × Nat) → List (Nat × String) → Option Nat
  | _, [] => some 0
  | [], _ :: _ => none
  | (name, factor) :: units, (n, unit) :: rest =>
    if unit = name then
      (total units rest).map fun sum => sum + (if n < 0x100000000 then n * factor else 0)
    else total units ((n, unit) :: rest)

def millis? (s : String) : Option Nat := do
  let sum ← total units (← items (s.length + 1) s.toList)
  if sum = 0 then none else some sum

def ofText? (s : String) : Option Int := (millis? s).map fun n => Millis.wrap n

/-- The number of seconds in a row of numbers with units. The whole seconds are rounded first and
the nanoseconds are added to them. -/
def seconds? {α : Type} [Numeric α] (s : String) : Option α :=
  (millis? s).map fun n =>
    Numeric.ofNat (n / 1000) + Numeric.ofNat (n % 1000 * 1000000) / Numeric.ofNat 1000000000

/-- The milliseconds of a number of seconds, which is rounded to whole nanoseconds first. Seconds
are held in sixty-four bits. -/
def ofSeconds? {α : Type} [SampleValue α] (seconds : α) : Option Int := do
  let nanos ← SampleValue.nearestMultiple? 1000000000 seconds
  if 0 ≤ nanos ∧ nanos < 0x10000000000000000 * 1000000000 then
    some (Millis.wrap (nanos / 1000000))
  else none

end SeriesQuery.Query.Interval
