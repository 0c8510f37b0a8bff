import SeriesQuery.Fingerprint

/-!
# Hashing a byte stream

The sixty-four-bit xxHash of the stream of all pairs, with seed zero. Stripes of thirty-two bytes
feed four lanes; what is left over is mixed in by words of eight and four bytes and single bytes.
-/

namespace SeriesQuery.Fingerprint.XxHash

def prime₁ : UInt64 := 0x9e3779b185ebca87

def prime₂ : UInt64 := 0xc2b2ae3d27d4eb4f

def prime₃ : UInt64 := 0x165667b19e3779f9

def prime₄ : UInt64 := 0x85ebca77c2b2ae63

def prime₅ : UInt64 := 0x27d4eb2f165667c5

def rotateLeft (x : UInt64) (n : UInt64) : UInt64 := x <<< n ||| x >>> (64 - n)

/-- The integer whose bytes are given, the lowest first. -/
def littleEndian (bytes : List UInt8) : UInt64 :=
  bytes.foldr (fun b n => n <<< 8 ||| b.toUInt64) 0

def round (lane word : UInt64) : UInt64 := rotateLeft (lane + word * prime₂) 31 * prime₁

structure Lanes where
  a : UInt64
  b : UInt64
  c : UInt64
  d : UInt64

def Lanes.start : Lanes := ⟨prime₁ + prime₂, prime₂, 0, 0 - prime₁⟩

def Lanes.absorb (l : Lanes) (stripe : List UInt8) : Lanes :=
  let word (i : Nat) := littleEndian ((stripe.drop (8 * i)).take 8)
  ⟨round l.a (word 0), round l.b (word 1), round l.c (word 2), round l.d (word 3)⟩

/-- Absorbs as many whole stripes as there are and returns the rest of the bytes. -/
def Lanes.absorbAll (l : Lanes) (bytes : List UInt8) : Lanes × List UInt8 :=
  if _h : 32 ≤ bytes.length then (l.absorb (bytes.take 32)).absorbAll (bytes.drop 32)
  else (l, bytes)
termination_by bytes.length
decreasing_by simp; omega

def mergeLane (h lane : UInt64) : UInt64 := (h ^^^ round 0 lane) * prime₁ + prime₄

def Lanes.merge (l : Lanes) : UInt64 :=
  let h := rotateLeft l.a 1 + rotateLeft l.b 7 + rotateLeft l.c 12 + rotateLeft l.d 18
  mergeLane (mergeLane (mergeLane (mergeLane h l.a) l.b) l.c) l.d

def mixWord (h word : UInt64) : UInt64 := rotateLeft (h ^^^ round 0 word) 27 * prime₁ + prime₄

def mixHalfWord (h word : UInt64) : UInt64 := rotateLeft (h ^^^ word * prime₁) 23 * prime₂ + prime₃

def mixByte (h : UInt64) (b : UInt8) : UInt64 := rotateLeft (h ^^^ b.toUInt64 * prime₅) 11 * prime₁

def mixRest (h : UInt64) (bytes : List UInt8) : UInt64 :=
  if _h : 8 ≤ bytes.length then
    mixRest (mixWord h (littleEndian (bytes.take 8))) (bytes.drop 8)
  else if 4 ≤ bytes.length then
    (bytes.drop 4).foldl mixByte (mixHalfWord h (littleEndian (bytes.take 4)))
  else bytes.foldl mixByte h
termination_by bytes.length
decreasing_by simp; omega

/-- The last mixing, after which every input bit can reach every output bit. -/
def avalanche (h : UInt64) : UInt64 :=
  let h := (h ^^^ h >>> 33) * prime₂
  let h := (h ^^^ h >>> 29) * prime₃
  h ^^^ h >>> 32

def hash (bytes : List UInt8) : UInt64 :=
  let (lanes, rest) := Lanes.start.absorbAll bytes
  let start := if bytes.length < 32 then prime₅ else lanes.merge
  avalanche (mixRest (start + UInt64.ofNat bytes.length) rest)

end SeriesQuery.Fingerprint.XxHash

namespace SeriesQuery.Fingerprint

def xxHash : LabelHash := fun pairs => XxHash.hash (stream pairs)

end SeriesQuery.Fingerprint
