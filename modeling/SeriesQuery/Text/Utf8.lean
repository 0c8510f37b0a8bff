import SeriesQuery.Text.CharSet

/-!
# Sets of characters in bytes

Characters are written as one to four bytes. A set of characters falls into sequences of ranges of
bytes: the characters of a sequence are those whose bytes are in its ranges, in any combination.
-/

namespace SeriesQuery.CharSet

/-- The ranges of characters that take up the same number of bytes. -/
def byLength : List (Nat × Nat) :=
  [(0, 0x7f), (0x80, 0x7ff), (0x800, 0xd7ff), (0xe000, 0xffff), (0x10000, lastCode)]

def common (a b : Nat × Nat) : List (Nat × Nat) :=
  let lo := max a.1 b.1
  let hi := min a.2 b.2
  if hi < lo then [] else [(lo, hi)]

/-- Cuts a range that is in more than one block into an incomplete block at its start, whole blocks
and an incomplete block at its end, as far as there are such. -/
def cutAtBlocks (block : Nat) (r : Nat × Nat) : List (Nat × Nat) :=
  if r.1 / block = r.2 / block then [r]
  else
    let first := (r.1 + block - 1) / block * block
    let last := (r.2 + 1) / block * block
    (if r.1 < first then [(r.1, first - 1)] else []) ++
      (if first < last then [(first, last - 1)] else []) ++
      (if last ≤ r.2 then [(last, r.2)] else [])

def bytes (code : Nat) : List UInt8 := String.utf8EncodeChar (Char.ofNat code)

def byteSequences (s : CharSet) : List (List (UInt8 × UInt8)) :=
  let ranges := s.toList.flatMap fun r => byLength.flatMap (common r)
  let aligned := [64, 4096, 262144].foldl (fun rs block => rs.flatMap (cutAtBlocks block)) ranges
  aligned.map fun r => (bytes r.1).zip (bytes r.2)

end SeriesQuery.CharSet
