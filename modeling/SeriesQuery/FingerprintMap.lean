import SeriesQuery.SortedMap
import SeriesQuery.Fingerprint

/-!
# Maps keyed by fingerprint

Entries are found by fingerprint first and then by a test on their keys, so entries whose
fingerprints collide stay apart. Entries are listed by fingerprint and, within one fingerprint,
in the order in which they were added. A table is such a map with its entries counted as they are
added.
-/

namespace SeriesQuery

structure FingerprintMap (κ ν : Type) where
  buckets : SortedMap Fingerprint (List (κ × ν))

namespace FingerprintMap

variable {κ ν : Type}

def empty : FingerprintMap κ ν := ⟨.empty⟩

def bucket (m : FingerprintMap κ ν) (fp : Fingerprint) : List (κ × ν) := (m.buckets.get? fp).getD []

def toList (m : FingerprintMap κ ν) : List (κ × ν) := m.buckets.toList.flatMap Prod.snd

def values (m : FingerprintMap κ ν) : List ν := m.toList.map Prod.snd

def size (m : FingerprintMap κ ν) : Nat := m.toList.length

def isEmpty (m : FingerprintMap κ ν) : Bool := m.toList.isEmpty

/-- The first entry with the fingerprint whose key passes the test. -/
def find? (m : FingerprintMap κ ν) (fp : Fingerprint) (isKey : κ → Bool) : Option (κ × ν) :=
  (m.bucket fp).find? fun e => isKey e.1

/-- Changes the value of the first entry whose key passes a test. -/
def modifyFirst (isKey : κ → Bool) (f : ν → ν) : List (κ × ν) → List (κ × ν)
  | [] => []
  | e :: rest => if isKey e.1 then (e.1, f e.2) :: rest else e :: modifyFirst isKey f rest

def modify (m : FingerprintMap κ ν) (fp : Fingerprint) (isKey : κ → Bool) (f : ν → ν) :
    FingerprintMap κ ν :=
  ⟨m.buckets.modify fp (modifyFirst isKey f)⟩

def add (m : FingerprintMap κ ν) (fp : Fingerprint) (k : κ) (v : ν) : FingerprintMap κ ν :=
  ⟨m.buckets.alter fp fun bucket => some (bucket.getD [] ++ [(k, v)])⟩

/-- The value of an entry, which is added if it is missing. The flag tells whether it was. -/
def findOrInsert (m : FingerprintMap κ ν) (fp : Fingerprint) (isKey : κ → Bool) (k : κ) (v : ν) :
    ν × Bool × FingerprintMap κ ν :=
  match m.find? fp isKey with
  | some e => (e.2, false, m)
  | none => (v, true, m.add fp k v)

def upsert (m : FingerprintMap κ ν) (fp : Fingerprint) (isKey : κ → Bool) (k : κ) (v : ν)
    (f : ν → ν) : FingerprintMap κ ν :=
  if (m.find? fp isKey).isSome then m.modify fp isKey f else m.add fp k v

end FingerprintMap

structure FingerprintTable (κ ν : Type) where
  buckets : SortedMap Fingerprint (List (κ × ν))
  size : Nat

namespace FingerprintTable

variable {κ ν : Type}

def empty : FingerprintTable κ ν := ⟨.empty, 0⟩

def isEmpty (t : FingerprintTable κ ν) : Bool := t.size == 0

def toList (t : FingerprintTable κ ν) : List (κ × ν) := t.buckets.toList.flatMap Prod.snd

def values (t : FingerprintTable κ ν) : List ν := t.toList.map Prod.snd

/-- The first entry with the fingerprint whose key passes the test. -/
def find? (t : FingerprintTable κ ν) (fp : Fingerprint) (isKey : κ → Bool) : Option (κ × ν) :=
  (t.buckets.get? fp).bind fun entries => entries.find? fun e => isKey e.1

/-- Changes the value of the first entry whose key passes the test, and returns it. -/
def modify (t : FingerprintTable κ ν) (fp : Fingerprint) (isKey : κ → Bool) (change : ν → ν) :
    Option ν × FingerprintTable κ ν :=
  ((t.find? fp isKey).map fun e => change e.2,
    { t with buckets := t.buckets.modify fp (FingerprintMap.modifyFirst isKey change) })

/-- Changes the value of an entry, which is added if it is missing, and returns it. The flag tells
whether it was added. The bucket is made before the entry is looked for. -/
def findOrInsert (t : FingerprintTable κ ν) (fp : Fingerprint) (isKey : κ → Bool) (k : κ) (v : ν)
    (change : ν → ν) : (ν × Bool) × FingerprintTable κ ν :=
  let buckets := t.buckets.insertIfNew fp []
  let entries := (buckets.get? fp).getD []
  match entries.find? fun e => isKey e.1 with
  | some e =>
    ((change e.2, false),
      ⟨buckets.insert fp (FingerprintMap.modifyFirst isKey change entries), t.size⟩)
  | none => ((change v, true), ⟨buckets.insert fp (entries ++ [(k, change v)]), t.size + 1⟩)

end FingerprintTable

end SeriesQuery
