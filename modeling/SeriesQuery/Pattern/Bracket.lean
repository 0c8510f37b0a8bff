import SeriesQuery.Pattern.Escape

/-!
# Classes in brackets

Brackets hold characters, ranges and sets, and classes in brackets of their own. Operators combine
what stands on their two sides, from left to right.
-/

namespace SeriesQuery.Pattern

open Reader

structure Operand where
  set : CharSet
  depth : Nat

namespace Operand

def plain (s : CharSet) : Operand := ⟨s, 0⟩

def union : List Operand → Operand
  | [] => plain #[]
  | [a] => a
  | items => ⟨.unionAll (items.map set), 1 + (items.map depth).foldl max 0⟩

end Operand

inductive SetOperator
  | intersection
  | difference
  | symmetricDifference

namespace SetOperator

def apply (op : SetOperator) (a b : CharSet) : CharSet :=
  match op with
  | intersection => a.intersection b
  | difference => a.difference b
  | symmetricDifference => a.symmetricDifference b

def split? : List Char → Option (SetOperator × List Char)
  | '&' :: '&' :: cs => some (intersection, cs)
  | '-' :: '-' :: cs => some (difference, cs)
  | '~' :: '~' :: cs => some (symmetricDifference, cs)
  | _ => none

end SetOperator

/-- An operator with what stands on its left side. -/
structure Pending where
  op : SetOperator
  left : Operand

/-- Combines what stands to the right of an operator with its left side. -/
def Pending.close (flags : Flags) : Option Pending → Operand → Operand
  | none, right => right
  | some p, right =>
    ⟨p.op.apply (flags.fold p.left.set) (flags.fold right.set),
      1 + max p.left.depth right.depth⟩

/-- What an opening bracket begins: whether the complement is meant, the members that stand at the
start, and the operator with the operands to its left. -/
structure OpenClass where
  negated : Bool
  items : List Operand
  pending : Option Pending

namespace OpenClass

def push (k : OpenClass) (item : Operand) : OpenClass := { k with items := k.items ++ [item] }

def operand (k : OpenClass) (flags : Flags) : Operand :=
  Pending.close flags k.pending (.union k.items)

def pushOperator (k : OpenClass) (flags : Flags) (op : SetOperator) : OpenClass :=
  { k with items := [], pending := some ⟨op, k.operand flags⟩ }

def close? (k : OpenClass) (flags : Flags) : Option Operand :=
  let a := k.operand flags
  (flags.negate? k.negated (flags.fold a.set)).map fun s => ⟨s, 1 + a.depth⟩

end OpenClass

def namedClass? : String → Option CharSet
  | "alnum" => some #[(0x30, 0x39), (0x41, 0x5a), (0x61, 0x7a)]
  | "alpha" => some #[(0x41, 0x5a), (0x61, 0x7a)]
  | "ascii" => some #[(0, 0x7f)]
  | "blank" => some #[(0x09, 0x09), (0x20, 0x20)]
  | "cntrl" => some #[(0, 0x1f), (0x7f, 0x7f)]
  | "digit" => some #[(0x30, 0x39)]
  | "graph" => some #[(0x21, 0x7e)]
  | "lower" => some #[(0x61, 0x7a)]
  | "print" => some #[(0x20, 0x7e)]
  | "punct" => some #[(0x21, 0x2f), (0x3a, 0x40), (0x5b, 0x60), (0x7b, 0x7e)]
  | "space" => some #[(0x09, 0x0d), (0x20, 0x20)]
  | "upper" => some #[(0x41, 0x5a)]
  | "word" => some Assertion.asciiWord
  | "xdigit" => some #[(0x30, 0x39), (0x41, 0x46), (0x61, 0x66)]
  | _ => none

def splitCaret : List Char → Bool × List Char
  | '^' :: cs => (true, cs)
  | cs => (false, cs)

def endNamedClass? (negated : Bool) (name : List Char) :
    List Char → Option (Bool × CharSet × List Char)
  | ':' :: ']' :: cs => (namedClass? (String.ofList name)).map fun s => (negated, s, cs)
  | _ => none

/-- A class written as a name between colons and brackets, after the opening bracket: whether it is
negated, its set and what follows. -/
def splitNamedClass? : List Char → Option (Bool × CharSet × List Char)
  | ':' :: cs =>
    let (negated, cs) := splitCaret cs
    let (name, cs) := cs.span (· != ':')
    endNamedClass? negated name cs
  | _ => none

def readMember (flags : Flags) : Reader (Char ⊕ CharSet) := do
  let c ← peek
  setRest ((← rest).drop 1)
  if c = '\\' then
    match ← readEscape flags with
    | .literal c => return .inl c
    | .set s => return .inr s
    | .assertion _ => failure
  else return .inl c

def rangeSet? (flags : Flags) (lo hi : Char) : Option CharSet :=
  if hi < lo || (!flags.unicode && 0x7f < hi.toNat) then none else some #[(lo.toNat, hi.toNat)]

/-- Whether a hyphen stands for itself: before the closing bracket or another hyphen. In a verbose
pattern blanks between the two count for nothing, nor does the sign of a comment among them. -/
def isHyphenAlone (flags : Flags) (afterHyphen : List Char) : Bool :=
  let next :=
    if flags.verbose then
      match afterHyphen.dropWhile Flags.isBlank with
      | '#' :: cs => cs.dropWhile Flags.isBlank
      | cs => cs
    else afterHyphen
  next.head? = some ']' || next.head? = some '-'

/-- A character, a set or a range of characters inside brackets. -/
def readMembers (flags : Flags) : Reader CharSet := do
  let first ← readMember flags
  skipBlanks flags
  let isRange :=
    match ← rest with
    | '-' :: cs => !isHyphenAlone flags cs
    | _ => false
  if isRange then
    advance flags
    match first, ← readMember flags with
    | .inl lo, .inl hi => rangeSet? flags lo hi
    | _, _ => failure
  else
    match first with
    | .inl c => rangeSet? flags c c
    | .inr s => return s

/-- The class after its opening bracket up to the first item. A caret negates it; hyphens that come
first are members, and so is a closing bracket that comes first. -/
def readOpening (flags : Flags) : Reader OpenClass := do
  skipBlanks flags
  let negated ← accept "^"
  skipBlanks flags
  let hyphens ← takeWhile flags (· = '-')
  let bracket ← if hyphens.isEmpty then accept "]" else pure false
  skipBlanks flags
  let items := (hyphens ++ if bracket then [']'] else []).map fun c => Operand.plain (.ofChar c)
  return ⟨negated, items, none⟩

/-- What stands between an opening bracket and its closing one, of which so many more may be open
inside. -/
def readClass (flags : Flags) : Nat → Nat → OpenClass → Reader Operand
  | 0, _, _ => failure
  | fuel + 1, levels, k => do
    skipBlanks flags
    match ← rest with
    | [] => failure
    | ']' :: cs =>
      setRest cs
      k.close? flags
    | '[' :: cs =>
      setRest cs
      match splitNamedClass? cs with
      | some (negated, s, cs) =>
        setRest cs
        let s ← flags.negate? negated (flags.fold s)
        readClass flags fuel levels (k.push (.plain s))
      | none =>
        match levels with
        | 0 => failure
        | levels + 1 =>
          let inner ← readClass flags fuel levels (← readOpening flags)
          readClass flags fuel (levels + 1) (k.push inner)
    | cs =>
      match SetOperator.split? cs with
      | some (op, cs) =>
        setRest cs
        readClass flags fuel levels (k.pushOperator flags op)
      | none =>
        let s ← readMembers flags
        readClass flags fuel levels (k.push (.plain s))

end SeriesQuery.Pattern
