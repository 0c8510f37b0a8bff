import SeriesQuery.Fingerprint.Algorithm
import SeriesQuery.Labels

/-!
# Hashing as bytes arrive

A hash is fed the name, the separator, the value and the separator again of every label that a
filter admits, and the other labels are passed over. The admitted labels are not gathered before,
nor are their bytes put together.
-/

namespace SeriesQuery

namespace Fingerprint

/-- What a hash is fed of a label, one after the other. -/
def pieces (pair : String × String) : List (List UInt8) :=
  [utf8 pair.1, [separator], utf8 pair.2, [separator]]

def fnvUpdate (h : UInt64) (bytes : List UInt8) : UInt64 :=
  bytes.foldl (fun h b => (h ^^^ b.toUInt64) * fnvPrime) h

namespace XxHash

theorem Lanes.absorbAll_of_lt (l : Lanes) {bytes : List UInt8} (h : bytes.length < 32) :
    l.absorbAll bytes = (l, bytes) := by
  rw [absorbAll, dif_neg (Nat.not_le.2 h)]

theorem Lanes.absorbAll_of_le (l : Lanes) {bytes : List UInt8} (h : 32 ≤ bytes.length) :
    l.absorbAll bytes = (l.absorb (bytes.take 32)).absorbAll (bytes.drop 32) := by
  rw [absorbAll, dif_pos h]

theorem Lanes.length_absorbAll_lt (l : Lanes) (bytes : List UInt8) :
    (l.absorbAll bytes).2.length < 32 := by
  fun_induction absorbAll l bytes with
  | case1 l bytes h ih => exact ih
  | case2 l bytes h => exact Nat.lt_of_not_le h

/-- A hash to which more bytes may be fed: the lanes after all whole stripes, the bytes behind them
and the number of bytes so far. -/
structure State where
  lanes : Lanes
  pending : List UInt8
  length : Nat
  pending_lt : pending.length < 32

namespace State

def start : State := ⟨.start, [], 0, by decide⟩

def update (s : State) (bytes : List UInt8) : State where
  lanes := (s.lanes.absorbAll (s.pending ++ bytes)).1
  pending := (s.lanes.absorbAll (s.pending ++ bytes)).2
  length := s.length + bytes.length
  pending_lt := s.lanes.length_absorbAll_lt _

def digest (s : State) : UInt64 :=
  let start := if s.length < 32 then prime₅ else s.lanes.merge
  avalanche (mixRest (start + UInt64.ofNat s.length) s.pending)

end State

end XxHash

end Fingerprint

/-- Feeds the admitted labels of a row one by one. -/
def LabelFilter.feed {σ : Type} (f : LabelFilter) (take : σ → String × String → σ) :
    σ → List (String × String) → σ
  | s, [] => s
  | s, e :: rest => f.feed take (if f.admits e.1 then take s e else s) rest

namespace HashAlgorithm

open Fingerprint

/-- The fingerprint of the labels that `feed` goes through. -/
def hashEach (a : HashAlgorithm)
    (feed : {σ : Type} → (σ → String × String → σ) → σ → σ) : Fingerprint :=
  match a with
  | fnv => feed (fun h pair => h ^^^ (pieces pair).foldl fnvUpdate fnvBasis) fnvBasis
  | xxHash => (feed (fun s pair => (pieces pair).foldl XxHash.State.update s) .start).digest

def hashPairs (a : HashAlgorithm) (pairs : List (String × String)) : Fingerprint :=
  a.hashEach fun take s => pairs.foldl take s

def fingerprint (a : HashAlgorithm) (labels : Labels) : Fingerprint := a.hashPairs labels.toList

def filteredFingerprint (a : HashAlgorithm) (labels : Labels) (f : LabelFilter) : Fingerprint :=
  a.hashEach fun take s => f.feed take s labels.toList

end HashAlgorithm

end SeriesQuery
