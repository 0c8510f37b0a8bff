import SeriesQuery.Binary64.Rounding

/-!
# Arithmetic in double precision

Addition, subtraction, multiplication, division, remainder and square root are the exact
operation on values followed by one rounding. A NaN operand is passed on, the left one first, and
an operation without a value yields the invalid NaN. Exponentials and logarithms are those of the
platform.
-/

namespace SeriesQuery.Binary64

/-- The outcome of a two-place operation, given what it yields on operands that are not NaN. -/
def propagate (a b result : Binary64) : Binary64 :=
  if a.isNaN then a.quiet else if b.isNaN then b.quiet else result

/-- The sum of two finite numbers. A sum of zero is positive unless both operands are negative. -/
def addFinite (a b : Binary64) : Binary64 :=
  let e := min a.exponent b.exponent
  let sum := a.signedSignificand * Nat.pow 2 (a.exponent - e).toNat +
    b.signedSignificand * Nat.pow 2 (b.exponent - e).toNat
  if sum = 0 then ofMagnitude (a.isNegative && b.isNegative) 0
  else ofScaled (sum < 0) sum.natAbs e

def add (a b : Binary64) : Binary64 :=
  propagate a b <|
    if a.isInfinite then
      if b.isInfinite && a.isNegative != b.isNegative then invalid else a
    else if b.isInfinite then b
    else addFinite a b

def sub (a b : Binary64) : Binary64 := propagate a b (add a b.neg)

def mul (a b : Binary64) : Binary64 :=
  let negative := a.isNegative != b.isNegative
  propagate a b <|
    if a.isInfinite || b.isInfinite then
      if a.isZero || b.isZero then invalid else ofMagnitude negative infinityMagnitude
    else ofScaled negative (a.significand * b.significand) (a.exponent + b.exponent)

def div (a b : Binary64) : Binary64 :=
  let negative := a.isNegative != b.isNegative
  let e := a.exponent - b.exponent
  propagate a b <|
    if a.isInfinite then
      if b.isInfinite then invalid else ofMagnitude negative infinityMagnitude
    else if b.isInfinite then ofMagnitude negative 0
    else if b.isZero then
      if a.isZero then invalid else ofMagnitude negative infinityMagnitude
    else ofQuotient negative (a.significand * Nat.pow 2 e.toNat)
      (b.significand * Nat.pow 2 (-e).toNat)

/-- The remainder of the division rounded toward zero, with the sign of the dividend. -/
def rem (a b : Binary64) : Binary64 :=
  propagate a b <|
    if a.isInfinite || b.isZero then invalid
    else if b.isInfinite then a
    else
      let e := min a.exponent b.exponent
      ofScaled a.isNegative
        ((a.significand * Nat.pow 2 (a.exponent - e).toNat) %
          (b.significand * Nat.pow 2 (b.exponent - e).toNat)) e

/-- The greatest integer whose square is at most `n`. -/
def floorSqrt (n : Nat) : Nat :=
  if h : n = 0 then 0
  else
    let r := 2 * floorSqrt (n / 4)
    if (r + 1) * (r + 1) ≤ n then r + 1 else r
termination_by n
decreasing_by omega

/-- The square root. The integer root keeps at least sixty-four bits and one more bit says whether
anything was cut off, so the rounding sees the exact root. -/
def sqrt (x : Binary64) : Binary64 :=
  if x.isNaN then x.quiet
  else if x.isZero then x
  else if x.isNegative then invalid
  else if x.isInfinite then x
  else
    let odd := (x.exponent % 2).toNat
    let n := x.significand * Nat.pow 2 (128 + odd)
    let root := floorSqrt n
    let sticky := if root * root = n then 0 else 1
    ofScaled false (2 * root + sticky) ((x.exponent - odd) / 2 - 65)

/-- The greatest integer that is at most the value of a finite number. -/
def floorInt (x : Binary64) : Int :=
  x.signedSignificand * Nat.pow 2 x.exponent.toNat / Nat.pow 2 (-x.exponent).toNat

def truncInt (x : Binary64) : Int :=
  (x.signedSignificand * Nat.pow 2 x.exponent.toNat).tdiv (Nat.pow 2 (-x.exponent).toNat)

/-- The integer nearest to a multiple of a finite number; halfway between two, the even one. -/
def nearestMultiple? (factor : Nat) (x : Binary64) : Option Int :=
  if x.isNaN || x.isInfinite then none
  else
    let n : Int := roundQuotient (factor * x.significand * Nat.pow 2 x.exponent.toNat)
      (Nat.pow 2 (-x.exponent).toNat)
    some (if x.isNegative then -n else n)

/-- Rounding down. A result of zero keeps the sign. -/
def floor (x : Binary64) : Binary64 :=
  if x.isNaN then x.quiet
  else if x.isInfinite || 0 ≤ x.exponent then x
  else ofQuotient x.isNegative x.floorInt.natAbs 1

/-- The integer part moved into the interval from `lo` to `hi`. A NaN counts as zero. -/
def clampToInt (lo hi : Int) (x : Binary64) : Int :=
  max lo <| min hi <|
    if x.isNaN then 0
    else if x.isInfinite then if x.isNegative then lo else hi
    else x.truncInt

/-- A NaN that comes back from the platform is the operand's, or else the invalid one. -/
def ofPlatform (a b : Binary64) (result : Float) : Binary64 :=
  if result.isNaN then propagate a b invalid else ⟨result.toBits⟩

def toPlatform (x : Binary64) : Float := Float.ofBits x.bits

def exp (x : Binary64) : Binary64 := ofPlatform x x x.toPlatform.exp

def log (x : Binary64) : Binary64 := ofPlatform x x x.toPlatform.log

def log2 (x : Binary64) : Binary64 := ofPlatform x x x.toPlatform.log2

def log10 (x : Binary64) : Binary64 := ofPlatform x x x.toPlatform.log10

def pow (a b : Binary64) : Binary64 := ofPlatform a b (a.toPlatform.pow b.toPlatform)

end SeriesQuery.Binary64
