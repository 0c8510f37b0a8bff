import SeriesQuery.Pattern.Tree

/-!
# Programs of patterns

A tree becomes a list of instructions, each of which says where to go on. Where there are two ways
the first is preferred. Repetitions are written out: one that may come again and again goes back to
an instruction before it.
-/

namespace SeriesQuery.Pattern

inductive Instruction
  | char (c : Char) (next : Nat)
  | oneOf (set : CharSet) (next : Nat)
  | assertion (a : Assertion) (next : Nat)
  /-- Records the position as the start or the end of a group. -/
  | mark (slot : Nat) (next : Nat)
  | branch (first second : Nat)
  | accept
deriving Repr

abbrev Program := Array Instruction

namespace Instruction

def choice (greedy : Bool) (onward exit : Nat) : Instruction :=
  if greedy then branch onward exit else branch exit onward

end Instruction

abbrev Emitter := StateM Program

namespace Emitter

def emit (i : Instruction) : Emitter Nat := modifyGet fun p => (p.size, p.push i)

/-- Adds an instruction that is made from its own address, after what it refers to. -/
def emitLoop (body : Nat → Emitter Nat) (loop : Nat → Instruction) : Emitter (Nat × Nat) := do
  let address ← emit .accept
  let first ← body address
  modify fun p => p.setIfInBounds address (loop first)
  return (address, first)

def emitWord : List Char → Nat → Emitter Nat
  | [], next => pure next
  | c :: cs, next => do emitWord cs (← emit (.char c next))

def emitCopies (body : Nat → Emitter Nat) : Nat → Nat → Emitter Nat
  | 0, next => pure next
  | n + 1, next => do emitCopies body n (← body next)

/-- At most so many copies of something, of which each may be followed by the exit. -/
def emitOptional (body : Nat → Emitter Nat) (greedy : Bool) (exit : Nat) :
    Nat → Nat → Emitter Nat
  | 0, next => pure next
  | n + 1, next => do
    emitOptional body greedy exit n (← emit (.choice greedy (← body next) exit))

/-- A repetition of something that takes up text, or may take up none. In the second case the first
round is a choice of its own, so that an empty round is not preferred to leaving. -/
def emitRepetition (body : Nat → Emitter Nat) (takesText : Bool) (least : Nat) (most : Option Nat)
    (greedy : Bool) (next : Nat) : Emitter Nat := do
  match most, least with
  | some most, least =>
    emitCopies body least (← emitOptional body greedy next (most - least) next)
  | none, least =>
    let (again, first) ← emitLoop body fun first => .choice greedy first next
    match least with
    | 0 => if takesText then return again else emit (.choice greedy first next)
    | least + 1 => emitCopies body least first

end Emitter

open Emitter

/-- The instructions of a tree, which go on at an address. The result is where they begin. -/
def Tree.emit : Tree → Nat → Emitter Nat
  | empty, next => pure next
  | literal text, next => emitWord text.reverse next
  | oneOf set, next => Emitter.emit (.oneOf set next)
  | assertion a, next => Emitter.emit (.assertion a next)
  | capture index t, next => do
    let last ← Emitter.emit (.mark (2 * index + 1) next)
    Emitter.emit (.mark (2 * index) (← t.emit last))
  | seq a b, next => do a.emit (← b.emit next)
  | alt a b, next => do
    let first ← a.emit next
    let second ← b.emit next
    Emitter.emit (.branch first second)
  | repetition t least most greedy, next =>
    emitRepetition t.emit (t.minLength.any (0 < ·)) least most greedy next

/-- The program of a whole pattern: its start, and its instructions with the whole match marked as
group zero. -/
def Tree.program (t : Tree) : Nat × Program :=
  (Tree.emit (.capture 0 t) 0).run #[.accept]

end SeriesQuery.Pattern
