import SeriesQuery.Binary64

/-!
# Rounding a quotient to double precision

Every operation on finite numbers computes its exact result as a quotient of integers and rounds
it once, to the nearest number with a tie going to the even significand.
-/

namespace SeriesQuery

/-- The integer nearest to a quotient; halfway between two, the even one. -/
def roundQuotient (num den : Nat) : Nat :=
  let below := num / den
  let rest := num % den
  if 2 * rest < den then below
  else if den < 2 * rest then below + 1
  else if below % 2 = 0 then below else below + 1

def quotientLog2 (num den : Nat) : Int :=
  let d : Int := num.log2 - den.log2
  if den * Nat.pow 2 d.toNat ≤ num * Nat.pow 2 (-d).toNat then d else d - 1

namespace Binary64

/-- The number nearest to the quotient `num / den`, infinite where that is too large. -/
def ofQuotient (negative : Bool) (num den : Nat) : Binary64 :=
  if num = 0 then ofMagnitude negative 0
  else
    let e := max (quotientLog2 num den - 52) (-1074)
    let m := roundQuotient (num * Nat.pow 2 (-e).toNat) (den * Nat.pow 2 e.toNat)
    ofMagnitude negative (min ((e + 1074).toNat * exponentWeight + m) infinityMagnitude)

def ofScaled (negative : Bool) (n : Nat) (e : Int) : Binary64 :=
  ofQuotient negative (n * Nat.pow 2 e.toNat) (Nat.pow 2 (-e).toNat)

def ofInt (n : Int) : Binary64 := ofQuotient (n < 0) n.natAbs 1

/-- The number nearest to `digits * 10 ^ e`. Exponents beyond the range of the format are
settled by counting digits, before any power of ten is computed. -/
def ofDecimal (negative : Bool) (digits : Nat) (e : Int) : Binary64 :=
  if digits = 0 then ofMagnitude negative 0
  else if 400 < e then ofMagnitude negative infinityMagnitude
  else if e + digits.log2 < -400 then ofMagnitude negative 0
  else ofQuotient negative (digits * Nat.pow 10 e.toNat) (Nat.pow 10 (-e).toNat)

end Binary64

end SeriesQuery
