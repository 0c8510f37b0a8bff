/-!
# Double precision numbers as bit patterns

A number is its sixty-four bits: a sign bit, eleven bits of exponent and fifty-two of fraction.
Two NaNs with different payloads are different numbers, so a payload can mark a sample. The
numeric order, numeric equality and the total order are read off the bits as integers.
-/

namespace SeriesQuery

structure Binary64 where
  bits : UInt64
deriving DecidableEq, Inhabited, Repr

namespace Binary64

/-- The magnitude bits of an infinity; everything above them is a NaN. -/
def infinityMagnitude : Nat := 0x7ff0000000000000

def signWeight : Nat := 0x8000000000000000

def exponentWeight : Nat := 0x10000000000000

def magnitude (x : Binary64) : Nat := x.bits.toNat % signWeight

def isNegative (x : Binary64) : Bool := signWeight ≤ x.bits.toNat

def ofMagnitude (negative : Bool) (magnitude : Nat) : Binary64 :=
  ⟨UInt64.ofNat (if negative then signWeight + magnitude else magnitude)⟩

def zero : Binary64 := ⟨0⟩

def infinity : Binary64 := ofMagnitude false infinityMagnitude

def nan : Binary64 := ofMagnitude false 0x7ff8000000000000

/-- The NaN that an invalid operation yields: quiet, without payload, with the sign bit set. -/
def invalid : Binary64 := ofMagnitude true 0x7ff8000000000000

def isNaN (x : Binary64) : Bool := infinityMagnitude < x.magnitude

def isInfinite (x : Binary64) : Bool := x.magnitude = infinityMagnitude

def isZero (x : Binary64) : Bool := x.magnitude = 0

/-- A NaN that passes through an operation keeps its sign and payload and becomes quiet. -/
def quiet (x : Binary64) : Binary64 := ⟨x.bits ||| 0x0008000000000000⟩

def neg (x : Binary64) : Binary64 := ⟨x.bits ^^^ 0x8000000000000000⟩

def abs (x : Binary64) : Binary64 := ⟨x.bits &&& 0x7fffffffffffffff⟩

/-- The integer that orders the numbers that are not NaN; both zeros have key zero. -/
def key (x : Binary64) : Int :=
  if x.isNegative then -(x.magnitude : Int) else x.magnitude

def lt (a b : Binary64) : Bool := !a.isNaN && !b.isNaN && a.key < b.key

/-- Numerically equal: the zeros are equal, and a NaN equals nothing. -/
def eq (a b : Binary64) : Bool := !a.isNaN && !b.isNaN && a.key = b.key

/-- The integer that orders all bit patterns: negative NaNs first, then the numbers with the
negative zero below the positive one, then positive NaNs. -/
def totalKey (x : Binary64) : Int :=
  if x.isNegative then -(x.magnitude : Int) - 1 else x.magnitude

def totalCompare (a b : Binary64) : Ordering := compare a.totalKey b.totalKey

/-- The integer by which a power of two is multiplied to give the value of a finite number. -/
def significand (x : Binary64) : Nat :=
  if x.magnitude / exponentWeight = 0 then x.magnitude
  else exponentWeight + x.magnitude % exponentWeight

def exponent (x : Binary64) : Int :=
  if x.magnitude / exponentWeight = 0 then -1074
  else (x.magnitude / exponentWeight : Nat) - 1075

def signedSignificand (x : Binary64) : Int :=
  if x.isNegative then -(x.significand : Int) else x.significand

end Binary64

end SeriesQuery
