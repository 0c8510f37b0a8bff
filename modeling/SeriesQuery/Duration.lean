import SeriesQuery.Text.Property.Listed
import SeriesQuery.Time

/-!
# Durations as text

A duration is written as numbers with units, the largest unit first. Years and months have their
mean length in the Gregorian calendar, rounded to a hundredth of a day.
-/

namespace SeriesQuery

structure Duration where
  nanoseconds : Nat
deriving DecidableEq, Repr

namespace Duration

def second : Nat := 1000000000

def ofSeconds (n : Nat) : Duration := ⟨n * second⟩

def ofMillis (n : Nat) : Duration := ⟨n * 1000000⟩

def toMillis (d : Duration) : Int := min (d.nanoseconds / 1000000 : Nat) Millis.greatest

structure UnitName where
  name : String
  nanoseconds : Nat
  hasPlural : Bool := false

def writtenUnits : List UnitName :=
  [⟨"year", 31557600 * second, true⟩, ⟨"month", 2630016 * second, true⟩,
    ⟨"day", 86400 * second, true⟩, ⟨"h", 3600 * second, false⟩, ⟨"m", 60 * second, false⟩,
    ⟨"s", second, false⟩, ⟨"ms", 1000000, false⟩, ⟨"us", 1000, false⟩, ⟨"ns", 1, false⟩]

def UnitName.write (u : UnitName) (n : Nat) : String :=
  toString n ++ u.name ++ (if u.hasPlural && 1 < n then "s" else "")

def parts (nanoseconds : Nat) : List UnitName → List String
  | [] => []
  | u :: rest =>
    let n := nanoseconds / u.nanoseconds
    let more := parts (nanoseconds % u.nanoseconds) rest
    if n = 0 then more else u.write n :: more

def display (d : Duration) : String :=
  if d.nanoseconds = 0 then "0s" else " ".intercalate (parts d.nanoseconds writtenUnits)

inductive ReadableUnit
  | nanosecond
  | microsecond
  | millisecond
  | second
  | minute
  | hour
  | day
  | week
  | month
  | year
deriving DecidableEq, Repr

namespace ReadableUnit

def ofName? : String → Option ReadableUnit
  | "nanos" | "nsec" | "ns" => some nanosecond
  | "usec" | "us" | "µs" => some microsecond
  | "millis" | "msec" | "ms" => some millisecond
  | "seconds" | "second" | "secs" | "sec" | "s" => some second
  | "minutes" | "minute" | "min" | "mins" | "m" => some minute
  | "hours" | "hour" | "hrs" | "hr" | "h" => some hour
  | "days" | "day" | "d" => some day
  | "weeks" | "week" | "wks" | "wk" | "w" => some week
  | "months" | "month" | "M" => some month
  | "years" | "year" | "yrs" | "yr" | "y" => some year
  | _ => none

/-- How many seconds and how many further nanoseconds a whole number of a unit has. -/
def whole (n : Nat) : ReadableUnit → Nat × Nat
  | nanosecond => (0, n)
  | microsecond => (0, n * 1000)
  | millisecond => (0, n * 1000000)
  | second => (n, 0)
  | minute => (n * 60, 0)
  | hour => (n * 3600, 0)
  | day => (n * 86400, 0)
  | week => (n * 604800, 0)
  | month => (n * 2630016, 0)
  | year => (n * 31557600, 0)

/-- What a fraction of a unit is counted in, the number of seconds or nanoseconds in the unit. No
nanosecond has a fraction, and from hours on a fraction has to be of whole seconds. -/
def fractionScale : ReadableUnit → Option (Nat × Nat)
  | nanosecond => none
  | minute => some (0, 60000000000)
  | second => some (0, 1000000000)
  | u => some (u.whole 1)

end ReadableUnit

def isBlank (c : Char) : Bool := CharSet.whiteSpace.contains c

def isUnitChar (c : Char) : Bool := c.isAlpha || c = 'µ'

def limit : Nat := 0x10000000000000000

/-- Digits of a text, in which blanks do not count, and the text after them. -/
def spanDigits : List Char → List Char × List Char
  | [] => ([], [])
  | c :: rest =>
    if c.isDigit then
      let (digits, rest) := spanDigits rest
      (c :: digits, rest)
    else if isBlank c then spanDigits rest
    else ([], c :: rest)

def ofDigits (digits : List Char) : Nat :=
  digits.foldl (fun n c => 10 * n + (c.toNat - '0'.toNat)) 0

/-- Adds seconds and nanoseconds to a duration, if it stays within the limit. -/
def add? (d : Duration) (seconds nanoseconds : Nat) : Option Duration :=
  let sum := d.nanoseconds + seconds * second + nanoseconds
  if seconds < limit ∧ d.nanoseconds % second + nanoseconds < limit ∧ sum / second < limit then
    some ⟨sum⟩
  else none

/-- Adds the fraction of a unit with the given digits after the point, if it can be counted
without a rest. -/
def addFraction? (d : Duration) (u : ReadableUnit) (digits : List Char) : Option Duration := do
  let n := ofDigits digits
  let scale := Nat.pow 10 digits.length
  let (seconds, nanoseconds) ← u.fractionScale
  if scale < limit ∧ n * seconds < limit ∧ n * nanoseconds < limit ∧
      n * seconds % scale = 0 ∧ n * nanoseconds % scale = 0 then
    d.add? (n * seconds / scale) (n * nanoseconds / scale)
  else none

def readItems : Nat → Duration → List Char → Option Duration
  | 0, _, _ => none
  | fuel + 1, d, cs =>
    match cs.dropWhile isBlank with
    | [] => some d
    | c :: rest => do
      let (digits, rest) := spanDigits (c :: rest)
      if !c.isDigit || limit ≤ ofDigits digits then none
      else
        let (fraction, rest) ← match rest with
          | '.' :: rest =>
            let (fraction, rest) := spanDigits rest
            if fraction.isEmpty then none else some (fraction, rest)
          | rest => some ([], rest)
        let u ← ReadableUnit.ofName? (String.ofList (rest.takeWhile isUnitChar))
        let (seconds, nanoseconds) := u.whole (ofDigits digits)
        let d ← d.add? seconds nanoseconds
        let d ← if fraction.isEmpty then some d else d.addFraction? u fraction
        readItems fuel d (rest.dropWhile isUnitChar)

/-- Reads a duration of at least one item. Zero needs no unit. -/
def ofText? (s : String) : Option Duration :=
  if s = "0" then some ⟨0⟩
  else if s.toList.all isBlank then none
  else readItems (s.length + 1) ⟨0⟩ s.toList

end Duration

end SeriesQuery
