/-!
# Fingerprints

A fingerprint is a sixty-four-bit hash of label pairs. The hashed bytes are each name and each
value in UTF-8, closed by a byte that never occurs in UTF-8.
-/

namespace SeriesQuery

abbrev Fingerprint := UInt64

namespace Fingerprint

def separator : UInt8 := 0xff

def utf8 (s : String) : List UInt8 := s.toList.flatMap String.utf8EncodeChar

def pairBytes (pair : String × String) : List UInt8 :=
  utf8 pair.1 ++ separator :: (utf8 pair.2 ++ [separator])

def stream (pairs : List (String × String)) : List UInt8 := pairs.flatMap pairBytes

def hex (f : Fingerprint) : String :=
  let digits := Nat.toDigits 16 f.toNat
  String.ofList (List.replicate (16 - digits.length) '0' ++ digits)

end Fingerprint

abbrev LabelHash := List (String × String) → Fingerprint

namespace Fingerprint

def fnvBasis : UInt64 := 0xcbf29ce484222325

def fnvPrime : UInt64 := 0x100000001b3

def fnvBytes (bytes : List UInt8) : UInt64 :=
  bytes.foldl (fun h b => (h ^^^ b.toUInt64) * fnvPrime) fnvBasis

/-- Each pair is hashed on its own with FNV-1a, so the order of the pairs does not matter. -/
def fnv : LabelHash := fun pairs =>
  pairs.foldl (fun h pair => h ^^^ fnvBytes (pairBytes pair)) fnvBasis

end Fingerprint

end SeriesQuery
