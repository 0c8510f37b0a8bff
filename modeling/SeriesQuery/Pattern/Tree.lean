import SeriesQuery.Pattern.Assertion

/-!
# Patterns as trees

A tree says what a pattern matches. Sequences and alternatives are chains of pairs, so that trees
can be compared and taken apart; `concat`, `alternation` and `repetition` put trees together and
simplify on the way. What they yield has no empty part in a sequence, no two literals side by side
and no pair on the left of a pair of its kind.
-/

namespace SeriesQuery.Pattern

inductive Tree
  | empty
  | literal (text : List Char)
  /-- One character of a set. The empty set matches nowhere. -/
  | oneOf (set : CharSet)
  | assertion (a : Assertion)
  /-- A group that remembers what it matched. -/
  | capture (index : Nat) (t : Tree)
  | seq (a b : Tree)
  /-- Alternatives of which the first is preferred. -/
  | alt (a b : Tree)
  /-- Repetitions, of which a greedy one prefers to go on. -/
  | repetition (t : Tree) (least : Nat) (most : Option Nat) (greedy : Bool)
deriving DecidableEq, Repr

namespace Tree

def ofSet (set : CharSet) : Tree :=
  match set.single? with
  | some c => literal [c]
  | none => oneOf set

/-- The least number of characters in a match, if there can be one. -/
def minLength : Tree → Option Nat
  | empty => some 0
  | literal text => some text.length
  | oneOf set => if set.isEmpty then none else some 1
  | assertion _ => some 0
  | capture _ t => t.minLength
  | seq a b => return (← a.minLength) + (← b.minLength)
  | alt a b => return min (← a.minLength) (← b.minLength)
  | repetition t least _ _ => return least * (← t.minLength)

def maxLength : Tree → Option Nat
  | empty => some 0
  | literal text => some text.length
  | oneOf set => if set.isEmpty then none else some 1
  | assertion _ => some 0
  | capture _ t => t.maxLength
  | seq a b => return (← a.maxLength) + (← b.maxLength)
  | alt a b => return max (← a.maxLength) (← b.maxLength)
  | repetition t _ most _ => return (← most) * (← t.maxLength)

def parts : Tree → List Tree
  | empty => []
  | seq a b => a :: b.parts
  | t => [t]

def joinLiterals : List Tree → List Tree
  | [] => []
  | literal a :: rest =>
    match joinLiterals rest with
    | literal b :: rest => literal (a ++ b) :: rest
    | rest => literal a :: rest
  | t :: rest => t :: joinLiterals rest

def ofParts : List Tree → Tree
  | [] => empty
  | [t] => t
  | t :: rest => seq t (ofParts rest)

def concat (ts : List Tree) : Tree := ofParts (joinLiterals (ts.flatMap parts))

def branches : Tree → List Tree
  | alt a b => a :: b.branches
  | t => [t]

def ofBranches : List Tree → Tree
  | [] => oneOf #[]
  | [t] => t
  | t :: rest => alt t (ofBranches rest)

def singleChar? : Tree → Option CharSet
  | literal [c] => some (.ofChar c)
  | _ => none

def set? : Tree → Option CharSet
  | oneOf set => some set
  | _ => none

/-- The set of which every alternative is a part, if all are characters or all are sets. -/
def commonSet? (ts : List Tree) : Option CharSet :=
  ((ts.mapM singleChar?).or (ts.mapM set?)).map .unionAll

def sequence? : Tree → Option (List Tree)
  | seq a b => some (seq a b).parts
  | _ => none

def commonStart : List Tree → List Tree → List Tree
  | a :: as, b :: bs => if a = b then a :: commonStart as bs else []
  | _, _ => []

/-- The sequences that the alternatives are and what all of them begin with, if that is something. -/
def sharedStart? (ts : List Tree) : Option (List Tree × List (List Tree)) := do
  let sequences ← ts.mapM sequence?
  let first :: rest := sequences | none
  let start := rest.foldl commonStart first
  if start.isEmpty then none else some (start, sequences)

def choice (ts : List Tree) : Tree :=
  let ts := ts.flatMap branches
  match ts with
  | [t] => t
  | _ =>
    match commonSet? ts with
    | some set => ofSet set
    | none => ofBranches ts

/-- Alternatives with what all of them begin with put before them. -/
def alternation (ts : List Tree) : Tree :=
  let ts := ts.flatMap branches
  match commonSet? ts, sharedStart? ts with
  | none, some (start, sequences) =>
    concat (start ++ [choice (sequences.map fun s => ofParts (s.drop start.length))])
  | _, _ => choice ts

/-- A repetition. What takes up no text need not come more than once. -/
def repeated (t : Tree) (least : Nat) (most : Option Nat) (greedy : Bool) : Tree :=
  let (least, most) :=
    if t.maxLength = some 0 then (min least 1, some (min (most.getD 1) 1)) else (least, most)
  match least, most with
  | 0, some 0 => empty
  | 1, some 1 => t
  | least, most => repetition t least most greedy

end Tree

end SeriesQuery.Pattern
