import SeriesQuery.SampleValue

/-!
# Exact numbers

The numbers of double precision without rounding: all rational numbers, two infinities and one
NaN. An operation without a value yields the NaN, and so does the root of a number that is not a
square. There is one zero, and dividing by it keeps the sign.
-/

namespace SeriesQuery

inductive Exact
  | nan
  | finite (q : Rat)
  | infinite (negative : Bool)
deriving DecidableEq

namespace Exact

def scaledInfinity (negative : Bool) (q : Rat) : Exact :=
  if q = 0 then nan else infinite (negative != decide (q < 0))

def neg : Exact → Exact
  | nan => nan
  | finite q => finite (-q)
  | infinite negative => infinite !negative

def add : Exact → Exact → Exact
  | finite a, finite b => finite (a + b)
  | infinite s, infinite t => if s = t then infinite s else nan
  | infinite s, finite _ => infinite s
  | finite _, infinite t => infinite t
  | _, _ => nan

def sub (a b : Exact) : Exact := add a b.neg

def mul : Exact → Exact → Exact
  | finite a, finite b => finite (a * b)
  | infinite s, infinite t => infinite (s != t)
  | infinite s, finite b => scaledInfinity s b
  | finite a, infinite t => scaledInfinity t a
  | _, _ => nan

def div : Exact → Exact → Exact
  | finite a, finite b => if b = 0 then scaledInfinity false a else finite (a / b)
  | infinite s, finite b => infinite (s != decide (b < 0))
  | finite _, infinite _ => finite 0
  | _, _ => nan

def lt : Exact → Exact → Bool
  | finite a, finite b => a < b
  | infinite s, infinite t => s && !t
  | infinite s, finite _ => s
  | finite _, infinite t => !t
  | _, _ => false

def eq : Exact → Exact → Bool
  | finite a, finite b => a = b
  | infinite s, infinite t => s = t
  | _, _ => false

def totalCompare (a b : Exact) : Ordering :=
  if a = b then .eq else if a.lt b || b = nan then .lt else .gt

def abs : Exact → Exact
  | nan => nan
  | finite q => finite (if q < 0 then -q else q)
  | infinite _ => infinite false

def floor : Exact → Exact
  | finite q => finite q.floor
  | x => x

def sqrt : Exact → Exact
  | finite q =>
    let n := Binary64.floorSqrt q.num.natAbs
    let d := Binary64.floorSqrt q.den
    if q = mkRat (n * n) (d * d) then finite (mkRat n d) else nan
  | infinite false => infinite false
  | _ => nan

/-- The integer part moved into the interval from `lo` to `hi`. A NaN counts as zero. -/
def clampToInt (lo hi : Int) (x : Exact) : Int :=
  max lo <| min hi <|
    match x with
    | nan => 0
    | finite q => q.num.tdiv q.den
    | infinite negative => if negative then lo else hi

instance : Add Exact := ⟨add⟩

instance : Sub Exact := ⟨sub⟩

instance : Mul Exact := ⟨mul⟩

instance : Div Exact := ⟨div⟩

instance : Neg Exact := ⟨neg⟩

instance : Numeric Exact where
  ofInt n := finite n
  infinity := infinite false
  nan := nan
  isNaN x := x == nan
  lt := lt
  eq := eq
  totalCompare := totalCompare
  abs := abs
  floor := floor
  sqrt := sqrt
  clampToInt := clampToInt

section Finite

variable {a b : Rat}

theorem finite_add : finite a + finite b = finite (a + b) := rfl

theorem finite_mul : finite a * finite b = finite (a * b) := rfl

theorem finite_sub : finite a - finite b = finite (a - b) := by
  rw [Rat.sub_eq_add_neg]
  rfl

theorem finite_div (h : b ≠ 0) : finite a / finite b = finite (a / b) := if_neg h

theorem lt_finite : Numeric.lt (finite a) (finite b) = decide (a < b) := rfl

theorem eq_finite : Numeric.eq (finite a) (finite b) = decide (a = b) := rfl

theorem le_finite : Numeric.le (finite a) (finite b) = decide (a ≤ b) := by
  unfold Numeric.le
  rw [lt_finite, eq_finite, ← Bool.decide_or, decide_eq_decide]
  exact Rat.le_iff_lt_or_eq.symm

theorem ofInt_eq (n : Int) : (Numeric.ofInt n : Exact) = finite n := rfl

theorem ofMillis_eq (t : Int) : (Numeric.ofMillis t : Exact) = finite (t / 1000) :=
  finite_div (by decide)

end Finite

/-- The operations on sample values that arithmetic with rational numbers leaves open. -/
class Functions where
  rem : Exact → Exact → Exact
  pow : Exact → Exact → Exact
  exp : Exact → Exact
  log : Exact → Exact
  log2 : Exact → Exact
  log10 : Exact → Exact
  staleMarker : Exact
  isStale : Exact → Bool
  nearestMultiple? : Nat → Exact → Option Int
  text : Exact → String
  literal : Exact → String
  ofText? : String → Option Exact

instance [Functions] : SampleValue Exact where
  rem := Functions.rem
  pow := Functions.pow
  exp := Functions.exp
  log := Functions.log
  log2 := Functions.log2
  log10 := Functions.log10
  staleMarker := Functions.staleMarker
  isStale := Functions.isStale
  nearestMultiple? := Functions.nearestMultiple?
  text := Functions.text
  literal := Functions.literal
  ofText? := Functions.ofText?

/-- Arithmetic alone: no other function has a value, and series end with an infinity. -/
@[reducible] def arithmetic : Functions where
  rem _ _ := .nan
  pow _ _ := .nan
  exp _ := .nan
  log _ := .nan
  log2 _ := .nan
  log10 _ := .nan
  staleMarker := .infinite true
  isStale x := x == .infinite true
  nearestMultiple? _ _ := none
  text _ := ""
  literal _ := ""
  ofText? _ := none

end Exact

end SeriesQuery
