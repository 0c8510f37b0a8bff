import Std.Data.TreeSet.Basic
import SeriesQuery.Pattern

/-!
# Matching

A thread is at an instruction and at a place in the text. Threads are tried in order of preference,
and one that comes where an earlier one has been cannot do better. The threads of earlier places in
the text go first, so the first thread that accepts has the leftmost match and, of those, the
preferred one.
-/

namespace SeriesQuery.Pattern

/-- A place in the program and the text, with the positions recorded on the way, the latest first. -/
structure Thread where
  address : Nat
  position : Nat
  marks : List (Nat × Nat)

namespace Thread

def goto (t : Thread) (address : Nat) : Thread := { t with address }

def advance (t : Thread) (address : Nat) : Thread := ⟨address, t.position + 1, t.marks⟩

def mark (t : Thread) (slot address : Nat) : Thread :=
  ⟨address, t.position, (slot, t.position) :: t.marks⟩

/-- The threads to which an instruction leads, in order of preference. -/
def step (text : Array Char) (t : Thread) : Instruction → List Thread
  | .char c next => if text[t.position]? = some c then [t.advance next] else []
  | .oneOf set next => if text[t.position]?.any set.contains then [t.advance next] else []
  | .assertion a next =>
    let before := if t.position = 0 then none else text[t.position - 1]?
    if a.holds before text[t.position]? then [t.goto next] else []
  | .mark slot next => [t.mark slot next]
  | .branch first second => [t.goto first, t.goto second]
  | .accept => []

end Thread

/-- Tries threads until one accepts. The numbers of the places where one has been are `visited`. -/
def search (program : Program) (text : Array Char) :
    Nat → Std.TreeSet Nat → List Thread → Option (List (Nat × Nat))
  | 0, _, _ => none
  | _ + 1, _, [] => none
  | fuel + 1, visited, t :: rest =>
    let place := t.position * program.size + t.address
    if visited.contains place then search program text fuel visited rest
    else
      match program[t.address]? with
      | none => search program text fuel visited rest
      | some .accept => some t.marks
      | some i =>
        search program text fuel (visited.insert place) (t.step text i ++ rest)

/-- What a pattern matched: the text, the positions of the starts and ends of the groups, and the
names of the groups. -/
structure Captures where
  text : Array Char
  marks : List (Nat × Nat)
  groupNames : List (String × Nat)

namespace Captures

def number? (c : Captures) (i : Nat) : Option String := do
  let first ← c.marks.lookup (2 * i)
  let last ← c.marks.lookup (2 * i + 1)
  return String.ofList (c.text.extract first last).toList

def name? (c : Captures) (name : String) : Option String :=
  (c.groupNames.lookup name).bind c.number?

end Captures

/-- The leftmost match. Every place is visited once and leads to two more, which bounds the number
of threads. -/
def captures? (p : Pattern) (s : String) : Option Captures :=
  let text := s.toList.toArray
  let starts := (List.range (text.size + 1)).map fun i => ⟨p.start, i, []⟩
  let fuel := (text.size + 1) * (2 * p.program.size + 1) + 1
  (search p.program text fuel ∅ starts).map fun marks => ⟨text, marks, p.groupNames⟩

def isMatch (p : Pattern) (s : String) : Bool := (p.captures? s).isSome

end SeriesQuery.Pattern
