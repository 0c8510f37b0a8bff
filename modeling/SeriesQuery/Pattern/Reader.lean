import SeriesQuery.Pattern.Bracket
import SeriesQuery.Text.Property.Derived

/-!
# Reading patterns

The text of a pattern is read item by item. Flags hold from the place where they are set to the end
of the enclosing group. Every reading step consumes a character, so the length of the text bounds
their number.
-/

namespace SeriesQuery.Pattern

open Reader

/-- A part of a pattern: its tree, how deeply its text is nested, and whether it can be repeated. -/
structure Part where
  tree : Tree
  depth : Nat
  canRepeat : Bool

namespace Part

def ofTree (t : Tree) : Part := ⟨t, 0, true⟩

/-- A change of flags. It matches like an empty text but cannot be repeated. -/
def ofFlags : Part := ⟨.empty, 0, false⟩

def nest (p : Part) (t : Tree) : Part := ⟨t, p.depth + 1, true⟩

def ofClass (k : Operand) : Part := ⟨.ofSet k.set, k.depth, true⟩

def maxDepth (parts : List Part) : Nat := (parts.map depth).foldl max 0

def concat : List Part → Part
  | [] => ofTree .empty
  | [p] => p
  | parts => ⟨.concat (parts.map tree), maxDepth parts + 1, true⟩

def alternation : List Part → Part
  | [p] => p
  | parts => ⟨.alternation (parts.map tree), maxDepth parts + 1, true⟩

end Part

/-- Alternatives read so far and the parts of the one being read, all in reverse. -/
structure Branches where
  closed : List Part
  current : List Part

namespace Branches

def start : Branches := ⟨[], []⟩

def push (b : Branches) (p : Part) : Branches := { b with current := p :: b.current }

def close (b : Branches) : Branches := ⟨.concat b.current.reverse :: b.closed, []⟩

def part (b : Branches) : Part := .alternation b.close.closed.reverse

end Branches

def isNameStart (c : Char) : Bool := c = '_' || CharSet.nameStart.contains c

def isNameChar (c : Char) : Bool := ['_', '.', '[', ']'].contains c || CharSet.nameChar.contains c

def readGroupName : Reader String := do
  let (name, rest) := (← rest).span (· != '>')
  setRest rest
  expect ">"
  match name with
  | c :: cs => if isNameStart c && cs.all isNameChar then return String.ofList name else failure
  | [] => failure

/-- The number of the next group, recorded under its name if it has one. -/
def openGroup (name : Option String) : Reader Nat := do
  let s ← get
  let index := s.groupCount + 1
  match name with
  | none => set { s with groupCount := index }
  | some name =>
    if (s.groupNames.lookup name).isSome then failure
    set { s with groupCount := index, groupNames := (name, index) :: s.groupNames }
  return index

inductive GroupStart
  | flags (flags : Flags)
  | capture (index : Nat)
  | group (flags : Flags)

/-- The start of a group after its opening parenthesis. Groups that look around are refused. -/
def readGroupStart (flags : Flags) : Reader GroupStart := do
  skipBlanks flags
  if ["?=", "?!", "?<=", "?<!"].any (·.toList.isPrefixOf (← rest)) then failure
  if ← accept "?P<" then return .capture (← openGroup (some (← readGroupName)))
  if ← accept "?<" then return .capture (← openGroup (some (← readGroupName)))
  if ← accept "?" then
    let (letters, rest) := (← rest).span fun c => c != ':' && c != ')'
    setRest rest
    let flags ← flags.withLetters? true [] letters
    if ← accept ":" then return .group flags
    expect ")"
    if letters.isEmpty then failure
    return .flags flags
  return .capture (← openGroup none)

def decimalValue (digits : List Char) : Nat :=
  digits.foldl (fun n c => 10 * n + (c.toNat - '0'.toNat)) 0

/-- A decimal number of thirty-two bits, blanks around it allowed. -/
def readDecimal (flags : Flags) : Reader Nat := do
  setRest ((← rest).dropWhile Flags.isBlank)
  let digits ← takeWhile flags Char.isDigit
  setRest ((← rest).dropWhile Flags.isBlank)
  if digits.isEmpty || 0x100000000 ≤ decimalValue digits then failure
  return decimalValue digits

def readBounds (flags : Flags) : Reader (Nat × Option Nat) := do
  skipBlanks flags
  let least ← readDecimal flags
  let bounds ←
    if ← accept "," then
      skipBlanks flags
      if "\x7d".toList.isPrefixOf (← rest) then pure (least, none)
      else
        let most ← readDecimal flags
        if most < least then failure
        pure (least, some most)
    else pure (least, some least)
  expect "\x7d"
  skipBlanks flags
  return bounds

def readRepetition (flags : Flags) (c : Char) : Reader (Nat × Option Nat) :=
  match c with
  | '?' => return (0, some 1)
  | '*' => return (0, none)
  | '+' => return (1, none)
  | _ => readBounds flags

def Branches.repeat? (b : Branches) (bounds : Nat × Option Nat) (greedy : Bool) : Option Branches :=
  match b.current with
  | p :: parts =>
    if p.canRepeat then
      some { b with current := p.nest (.repeated p.tree bounds.1 bounds.2 greedy) :: parts }
    else none
  | [] => none

def treeOf (flags : Flags) : Escape → Tree
  | .literal c => flags.literal c
  | .set s => .ofSet s
  | .assertion a => .assertion a

def character? (flags : Flags) : Char → Option Tree
  | '.' => flags.dot?
  | '^' => some (.assertion flags.caret)
  | '$' => some (.assertion flags.dollar)
  | c => some (flags.literal c)

/-- Reads alternatives up to a closing parenthesis or the end, with so many more groups that may be
open inside. -/
def readBranches : Nat → Nat → Flags → Branches → Reader Part
  | 0, _, _, _ => failure
  | fuel + 1, levels, flags, b => do
    skipBlanks flags
    let c :: cs ← rest | return b.part
    if c = ')' then return b.part
    setRest cs
    match c with
    | '|' => readBranches fuel levels flags b.close
    | '(' =>
      match ← readGroupStart flags, levels with
      | .flags flags, levels => readBranches fuel levels flags (b.push .ofFlags)
      | .capture index, levels + 1 =>
        let p ← readBranches fuel levels flags .start
        expect ")"
        readBranches fuel (levels + 1) flags (b.push (p.nest (.capture index p.tree)))
      | .group inner, levels + 1 =>
        let p ← readBranches fuel levels inner .start
        expect ")"
        readBranches fuel (levels + 1) flags (b.push (p.nest p.tree))
      | _, 0 => failure
    | '[' =>
      let k ← readClass flags fuel levels (← readOpening flags)
      readBranches fuel levels flags (b.push (.ofClass k))
    | '\\' =>
      let e ← readEscape flags
      readBranches fuel levels flags (b.push (.ofTree (treeOf flags e)))
    | '?' | '*' | '+' | '\x7b' =>
      let bounds ← readRepetition flags c
      let isLazy ← accept "?"
      readBranches fuel levels flags (← b.repeat? bounds (isLazy == flags.swapGreed))
    | c => readBranches fuel levels flags (b.push (.ofTree (← character? flags c)))

/-- How deeply the text of a pattern may be nested. -/
def maxDepth : Nat := 250

def readTree? (text : String) : Option (Tree × List (String × Nat)) := do
  let (p, state) ←
    (readBranches (text.length + 1) maxDepth .initial .start).run ⟨text.toList, 0, []⟩
  if !state.rest.isEmpty || maxDepth < p.depth then none else some (p.tree, state.groupNames)

end SeriesQuery.Pattern
