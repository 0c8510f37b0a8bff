import SeriesQuery.Time.Frames

/-!
# Frames in machine words

Between a position and its timestamp lie a product, a sum and a quotient. The product and the sum
are formed in one hundred and twenty-eight bits, and the sum is then cut down to sixty-four. Back
from a timestamp, the difference is checked and the quotient is read as an unsigned number.
-/

namespace SeriesQuery

namespace Millis

/-- What a result outside one hundred and twenty-eight bits becomes. -/
def wrapWide (t : Int) : Int := t.bmod 0x100000000000000000000000000000000

def toPosition (t : Int) : Nat := (t % 0x10000000000000000).toNat

end Millis

namespace TimeFrames

variable (f : TimeFrames)

def atWord (i : Nat) : Int :=
  let offset := Millis.wrapWide (f.step * i)
  Millis.wrap (Millis.wrapWide (f.start + offset))

def getWord? (i : Nat) : Option Int := if i < f.len then some (f.atWord i) else none

def lastWord : Int := f.atWord (f.len - 1)

def indexWord? (t : Int) : Option Nat :=
  if f.len = 1 then if t = f.start then some 0 else none
  else do
    let offset ← Millis.checked (t - f.start)
    if offset < 0 ∨ offset.tmod f.step ≠ 0 then none
    else
      let i := Millis.toPosition (offset.tdiv f.step)
      if i < f.len then some i else none

end TimeFrames

end SeriesQuery
