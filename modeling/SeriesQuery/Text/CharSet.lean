/-!
# Sets of characters

A set of characters is a list of ranges of code points in ascending order, both ends included. In
what the operations yield no two ranges overlap or touch, so equal sets have equal ranges.
-/

namespace SeriesQuery

abbrev CharSet := Array (Nat × Nat)

namespace CharSet

def contains (s : CharSet) (c : Char) : Bool := s.any fun r => r.1 ≤ c.toNat && c.toNat ≤ r.2

def ofChar (c : Char) : CharSet := #[(c.toNat, c.toNat)]

def lastCode : Nat := 0x10ffff

def everything : CharSet := #[(0, lastCode)]

/-- Puts a range and ranges that begin no earlier among ranges in ascending order. The function puts
those other ranges among what is left. -/
def mergeCons (r : Nat × Nat) (mergeRest : List (Nat × Nat) → List (Nat × Nat)) :
    List (Nat × Nat) → List (Nat × Nat)
  | [] => r :: mergeRest []
  | x :: b => if r.1 ≤ x.1 then r :: mergeRest (x :: b) else x :: mergeCons r mergeRest b

/-- The ranges of two ascending lists in one ascending list. -/
def merge : List (Nat × Nat) → List (Nat × Nat) → List (Nat × Nat)
  | [], b => b
  | r :: a, b => mergeCons r (merge a) b

/-- Joins a range with those of the following ones that overlap or touch it. -/
def joinFrom (r : Nat × Nat) : List (Nat × Nat) → List (Nat × Nat)
  | [] => [r]
  | x :: rest =>
    if x.1 ≤ r.2 + 1 then joinFrom (r.1, max r.2 x.2) rest else r :: joinFrom x rest

def ofAscending : List (Nat × Nat) → CharSet
  | [] => #[]
  | r :: rest => (joinFrom r rest).toArray

def union (a b : CharSet) : CharSet := ofAscending (merge a.toList b.toList)

def mergePairs : List (List (Nat × Nat)) → List (List (Nat × Nat))
  | a :: b :: rest => merge a b :: mergePairs rest
  | lists => lists

/-- Merges lists in rounds. Each round halves their number. -/
def mergeAll : Nat → List (List (Nat × Nat)) → List (Nat × Nat)
  | _, [] => []
  | _, [a] => a
  | 0, lists => lists.flatten
  | rounds + 1, lists => mergeAll rounds (mergePairs lists)

def unionAll (sets : List CharSet) : CharSet :=
  ofAscending (mergeAll sets.length (sets.map Array.toList))

def ofRanges (ranges : List (Nat × Nat)) : CharSet :=
  ofAscending (mergeAll ranges.length (ranges.map fun r => [r]))

def next (n : Nat) : Nat := if n = 0xd7ff then 0xe000 else n + 1

def previous (n : Nat) : Nat := if n = 0xe000 then 0xd7ff else n - 1

def gapsFrom (first : Nat) : List (Nat × Nat) → List (Nat × Nat)
  | [] => if first ≤ lastCode then [(first, lastCode)] else []
  | r :: rest =>
    if first < r.1 then (first, previous r.1) :: gapsFrom (next r.2) rest
    else gapsFrom (next r.2) rest

def complement (s : CharSet) : CharSet := (gapsFrom 0 s.toList).toArray

def intersection (a b : CharSet) : CharSet := (a.complement.union b.complement).complement

def difference (a b : CharSet) : CharSet := a.intersection b.complement

def symmetricDifference (a b : CharSet) : CharSet :=
  (a.union b).difference (a.intersection b)

def isAscii (s : CharSet) : Bool := s.all (·.2 ≤ 0x7f)

def single? (s : CharSet) : Option Char :=
  match s.toList with
  | [r] => if r.1 = r.2 then some (Char.ofNat r.1) else none
  | _ => none

end CharSet

end SeriesQuery
