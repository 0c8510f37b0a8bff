import SeriesQuery.Binary64.Rounding
import SeriesQuery.Binary64.Shortest

/-!
# Decimal text of numbers

A finite number is written with the fewest digits that read back, always positionally and never
with an exponent; a whole number has no fraction, and the negative zero keeps its sign. The words
for the numbers that are not finite depend on where the text is used.
-/

namespace SeriesQuery.Binary64

structure Words where
  infinity : String
  negativeInfinity : String

def Words.sample : Words := ⟨"+Inf", "-Inf"⟩

/-- Literals in query texts use lower case and no plus sign. -/
def Words.literal : Words := ⟨"inf", "-inf"⟩

def positional (digits : Nat) (e : Int) : String :=
  let ds := toString digits
  if 0 ≤ e then ds ++ String.ofList (List.replicate e.toNat '0')
  else
    let places := (-e).toNat
    let padded := List.replicate (places + 1 - ds.length) '0' ++ ds.toList
    let whole := padded.take (padded.length - places)
    String.ofList whole ++ "." ++ String.ofList (padded.drop (padded.length - places))

def text (words : Words) (x : Binary64) : String :=
  if x.isNaN then "NaN"
  else if x.isInfinite then if x.isNegative then words.negativeInfinity else words.infinity
  else
    let sign := if x.isNegative then "-" else ""
    if x.isZero then sign ++ "0"
    else
      let (digits, e) := shortest x.significand x.exponent
      sign ++ positional digits e

def digitsValue (cs : List Char) : Nat :=
  cs.foldl (fun n c => 10 * n + (c.toNat - '0'.toNat)) 0

def spanDigits (cs : List Char) : List Char × List Char :=
  (cs.takeWhile Char.isDigit, cs.dropWhile Char.isDigit)

/-- Splits off a leading sign; true stands for minus. -/
def spanSign : List Char → Bool × List Char
  | '-' :: rest => (true, rest)
  | '+' :: rest => (false, rest)
  | cs => (false, cs)

/-- An optional exponent that ends the text: a letter `e`, a sign if any, and digits. -/
def readExponent : List Char → Option Int
  | [] => some 0
  | c :: rest =>
    if c = 'e' || c = 'E' then
      let (negative, rest) := spanSign rest
      let (digits, rest) := spanDigits rest
      if digits.isEmpty || !rest.isEmpty then none
      else some (if negative then -(digitsValue digits : Int) else digitsValue digits)
    else none

/-- A decimal number without sign: digits with at most one point among them, at least one digit,
and an optional exponent. The result is the digits and the exponent of ten. -/
def readUnsigned (cs : List Char) : Option (Nat × Int) := do
  let (whole, rest) := spanDigits cs
  let (fraction, rest) :=
    match rest with
    | '.' :: rest => spanDigits rest
    | _ => ([], rest)
  if whole.isEmpty && fraction.isEmpty then none
  let e ← readExponent rest
  return (digitsValue (whole ++ fraction), e - fraction.length)

/-- Reads a decimal number or a word for infinity or NaN in any case, each with an optional
sign. -/
def ofText? (s : String) : Option Binary64 :=
  let (negative, cs) := spanSign s.toList
  let word := String.ofList (cs.map Char.toLower)
  if word = "inf" || word = "infinity" then some (ofMagnitude negative infinityMagnitude)
  else if word = "nan" then some (if negative then nan.neg else nan)
  else (readUnsigned cs).map fun (digits, e) => ofDecimal negative digits e

end SeriesQuery.Binary64
