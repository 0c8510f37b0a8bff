import SeriesQuery.Binary64.Arithmetic
import SeriesQuery.Binary64.Text

/-!
# What sample values can do

The numerical algorithms ask for no more than a field with infinities, a NaN and two orders, so
they run in double precision and can be read with exact numbers. A value that samples carry has
further operations, a text form, and one distinguished member that marks the end of a series.
-/

namespace SeriesQuery

class Numeric (α : Type) extends Add α, Sub α, Mul α, Div α, Neg α where
  ofInt : Int → α
  infinity : α
  nan : α
  isNaN : α → Bool
  /-- Numerically smaller, false of a NaN. -/
  lt : α → α → Bool
  /-- Numerically equal, false of a NaN. -/
  eq : α → α → Bool
  /-- A total preorder that extends the numerical one and also places the NaNs. -/
  totalCompare : α → α → Ordering
  abs : α → α
  floor : α → α
  sqrt : α → α
  /-- The integer part moved into an interval; a NaN counts as zero. -/
  clampToInt : Int → Int → α → Int

namespace Numeric

variable {α : Type} [Numeric α]

def zero : α := ofInt 0

def one : α := ofInt 1

def negativeInfinity : α := -infinity

def ofNat (n : Nat) : α := ofInt n

def ofBool (b : Bool) : α := if b then one else zero

def le (a b : α) : Bool := lt a b || eq a b

def isInfinite (a : α) : Bool := eq a infinity || eq a negativeInfinity

def isFinite (a : α) : Bool := !isNaN a && !isInfinite a

/-- The larger number; a NaN gives way to the other operand. -/
def maximum (a b : α) : α := if isNaN a || lt a b then b else a

/-- The smaller number; a NaN gives way to the other operand. -/
def minimum (a b : α) : α := if isNaN a || lt b a then b else a

def ceil (a : α) : α := -floor (-a)

def toIndex (a : α) : Nat := (clampToInt 0 0xffffffffffffffff a).toNat

def ofMillis (t : Int) : α := ofInt t / ofInt 1000

end Numeric

class SampleValue (α : Type) extends Numeric α where
  /-- The remainder of a division rounded toward zero. -/
  rem : α → α → α
  pow : α → α → α
  exp : α → α
  log : α → α
  log2 : α → α
  log10 : α → α
  /-- The value written after the last sample of a series that has ended. -/
  staleMarker : α
  isStale : α → Bool
  /-- The integer nearest to a multiple of a finite number; halfway between two, the even one. -/
  nearestMultiple? : Nat → α → Option Int
  text : α → String
  literal : α → String
  ofText? : String → Option α

namespace Binary64

/-- The NaN payload reserved for the end of a series. -/
def staleMarker : Binary64 := ⟨0x7ff0000000000002⟩

instance : Add Binary64 := ⟨add⟩

instance : Sub Binary64 := ⟨sub⟩

instance : Mul Binary64 := ⟨mul⟩

instance : Div Binary64 := ⟨div⟩

instance : Neg Binary64 := ⟨neg⟩

instance : Numeric Binary64 where
  ofInt := ofInt
  infinity := infinity
  nan := nan
  isNaN := isNaN
  lt := lt
  eq := eq
  totalCompare := totalCompare
  abs := abs
  floor := floor
  sqrt := sqrt
  clampToInt := clampToInt

instance : SampleValue Binary64 where
  rem := rem
  pow := pow
  exp := exp
  log := log
  log2 := log2
  log10 := log10
  staleMarker := staleMarker
  isStale x := x == staleMarker
  nearestMultiple? := nearestMultiple?
  text := text .sample
  literal := text .literal
  ofText? := ofText?

end Binary64

end SeriesQuery
