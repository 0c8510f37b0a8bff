import SeriesQuery.Binary64

/-!
# The fewest decimal digits that read back

The numbers that round to a positive `m * 2 ^ e` form an interval, which contains its ends when
`m` is even. On the grid of multiples of a power of ten, only the two neighbours of the number
itself have to be tried. The coarsest grid with a neighbour in the interval gives the fewest
digits; of two such neighbours the nearer is taken, and of two equally near ones the upper.
-/

namespace SeriesQuery.Binary64

/-- A positive quotient with the interval around it that rounds to the same number; all three
share the denominator. -/
structure RoundingInterval where
  lower : Nat
  value : Nat
  upper : Nat
  den : Nat
  closed : Bool

namespace RoundingInterval

/-- The interval of the positive number `m * 2 ^ e`. Below a power of two the gap to the next
smaller number is half as wide, except at the smallest exponent. -/
def ofSignificand (m : Nat) (e : Int) : RoundingInterval :=
  let scale := Nat.pow 2 e.toNat
  let below := if m = exponentWeight && -1074 < e then 1 else 2
  { lower := (4 * m - below) * scale
    value := 4 * m * scale
    upper := (4 * m + 2) * scale
    den := 4 * Nat.pow 2 (-e).toNat
    closed := m % 2 = 0 }

def contains (i : RoundingInterval) (num : Nat) : Bool :=
  if i.closed then i.lower ≤ num && num ≤ i.upper else i.lower < num && num < i.upper

/-- The multiple of `10 ^ k` nearest to the value among its two neighbours in the interval. -/
def onGrid (i : RoundingInterval) (k : Int) : Option Nat :=
  let unit := i.den * Nat.pow 10 k.toNat
  let scale := Nat.pow 10 (-k).toNat
  let scaled : RoundingInterval :=
    ⟨i.lower * scale, i.value * scale, i.upper * scale, i.den, i.closed⟩
  let below := scaled.value / unit
  let hasLower := scaled.contains (below * unit)
  let hasUpper := scaled.contains ((below + 1) * unit)
  if hasLower && hasUpper then
    some (if 2 * (scaled.value - below * unit) < unit then below else below + 1)
  else if hasLower then some below
  else if hasUpper then some (below + 1)
  else none

def search (i : RoundingInterval) : Nat → Int → Nat × Int
  | 0, k => ((i.onGrid k).getD 0, k)
  | fuel + 1, k =>
    match i.onGrid k with
    | some digits => (digits, k)
    | none => i.search fuel (k - 1)

/-- An exponent of ten above the value. The factor is a little over the logarithm of two. -/
def topExponent (i : RoundingInterval) : Int :=
  ((i.value.log2 : Int) - i.den.log2 + 1) * 30103 / 100000 + 2

end RoundingInterval

/-- Digits `d` and exponent `k` such that `d * 10 ^ k` is the shortest decimal for the positive
number `m * 2 ^ e`. -/
def shortest (m : Nat) (e : Int) : Nat × Int :=
  let i := RoundingInterval.ofSignificand m e
  i.search 24 i.topExponent

end SeriesQuery.Binary64
