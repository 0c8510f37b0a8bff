import SeriesQuery.Pattern.Tree
import SeriesQuery.Text.Utf8

/-!
# Sizes of patterns

A pattern whose repetitions would unfold to too much is refused. The size of a tree is the memory of
an automaton over bytes with the repetitions written out: a state takes thirty-two, a way out of a
state with many ways out takes eight, and one of several alternatives takes four. It is taken for
both directions of reading, in which sets and words share different parts.
-/

namespace SeriesQuery.Pattern

inductive Direction
  | forward
  | backward
deriving DecidableEq

def stateSize : Nat := 32

/-- The rests of the sequences after each first range, together by that range. Sequences with the
same first range stand side by side. -/
def tails (sequences : List (List (UInt8 × UInt8))) : List (List (List (UInt8 × UInt8))) :=
  (sequences.splitBy fun a b => a.head? == b.head?).map fun group => group.map (List.drop 1)

/-- What can follow at the states of an automaton that reads one of the sequences, except where
nothing follows. States where the same can follow are one state. -/
def continuations : Nat → List (List (UInt8 × UInt8)) → List (List (List (UInt8 × UInt8)))
  | 0, _ => []
  | length + 1, sequences =>
    if sequences = [[]] then []
    else sequences :: (tails sequences).flatMap (continuations length)

def setSize (direction : Direction) (set : CharSet) : Nat :=
  if set.isAscii then 2 * stateSize + 8 * set.size
  else
    let sequences := set.byteSequences
    match direction with
    | .forward =>
      (continuations 4 sequences).eraseDups.foldl
        (fun size s => size + stateSize + 8 * (tails s).length) stateSize
    | .backward =>
      let starts := sequences.flatMap fun s => (List.range s.length).map fun n => s.take (n + 1)
      2 * stateSize + 4 * sequences.length + stateSize * starts.eraseDups.length

def wordBytes (word : List Char) : List UInt8 := word.flatMap String.utf8EncodeChar

def divide : List (List UInt8) → List (List (List UInt8))
  | [] => [[]]
  | [] :: rest => [] :: divide rest
  | word :: rest =>
    match divide rest with
    | first :: others => (word :: first) :: others
    | [] => [[word]]

def restsAfter (byte : UInt8) (words : List (List UInt8)) : List (List UInt8) :=
  words.filterMap fun
    | b :: rest => if b = byte then some rest else none
    | [] => none

/-- The size of a tree of words without its end, whose words have at most the given length. Words
share what they begin with as far as no word ends in between. -/
def wordTreeSize : Nat → List (List UInt8) → Nat
  | 0, _ => 0
  | length + 1, words =>
    let later := words.dropWhile List.isEmpty
    let sections := divide (if later.length = words.length then words else [] :: later)
    let ways := sections.map fun s => (s.filterMap List.head?).eraseDups
    let below := sections.flatMap fun s =>
      (s.filterMap List.head?).eraseDups.map fun byte => restsAfter byte s
    let filled := ways.filter (!·.isEmpty)
    stateSize + 4 * (filled.length + sections.length - 1) +
      (filled.map fun w => stateSize + if w.length = 1 then 0 else 8 * w.length).sum +
      (below.map fun rests => if rests.all List.isEmpty then 0 else wordTreeSize length rests).sum

def wordsSize (direction : Direction) (words : List (List Char)) : Nat :=
  let words := words.map wordBytes
  let words := match direction with
    | .forward => words
    | .backward => words.map List.reverse
  stateSize + wordTreeSize ((words.map List.length).foldl max 0) words

namespace Tree

def word? : Tree → Option (List Char)
  | literal text => some text
  | _ => none

def isAlt : Tree → Bool
  | alt _ _ => true
  | _ => false

/-- The size of a repetition of something with a size that takes up text or may take up none. -/
def repetitionSize (size : Nat) (takesText : Bool) (least : Nat) : Option Nat → Nat
  | none =>
    if least = 0 && !takesText then size + 112
    else max 1 least * size + 40
  | some most =>
    if least = most then least * size
    else if least = 0 && most = 1 then size + 72
    else (if least = 0 then stateSize else least * size) + stateSize + (most - least) * (size + 40)

/-- The size of a tree. Alternatives of which the first are counted elsewhere, with the state from
which all of them go out, are counted without it. -/
def size (direction : Direction) (continues : Bool) : Tree → Nat
  | empty => stateSize
  | literal text => stateSize * (wordBytes text).length
  | oneOf set => setSize direction set
  | assertion _ => stateSize
  | capture _ t =>
    match direction with
    | .forward => t.size direction false + 2 * stateSize
    | .backward => t.size direction false
  | seq a b => a.size direction false + b.size direction false
  | alt a b =>
    let words? := if continues then none else (alt a b).branches.mapM word?
    match words? with
    | some words => wordsSize direction words
    | none =>
      let others := if b.isAlt then b.size direction true else 4 + b.size direction false
      (if continues then 0 else 2 * stateSize) + 4 + a.size direction false + others
  | repetition t least most _ =>
    repetitionSize (t.size direction false) (t.minLength.any (0 < ·)) least most

/-- Whether a match in a direction has to begin at the end of the text where the direction starts. -/
def isAnchored (direction : Direction) : Tree → Bool
  | assertion .textStart => direction = .forward
  | assertion .textEnd => direction = .backward
  | capture _ t => t.isAnchored direction
  | seq a b =>
    match direction with
    | .forward => a.isAnchored direction || (a.maxLength = some 0 && b.isAnchored direction)
    | .backward => b.isAnchored direction || (b.maxLength = some 0 && a.isAnchored direction)
  | alt a b => a.isAnchored direction && b.isAnchored direction
  | repetition t least _ _ => 0 < least && t.isAnchored direction
  | _ => false

/-- The size of an automaton for a whole pattern. One that is not anchored also reads what comes
before a match, and forward the match itself is marked. -/
def wholeSize (direction : Direction) (t : Tree) : Nat :=
  let before := if t.isAnchored direction then stateSize else 112
  let marks := match direction with
    | .forward => 2 * stateSize
    | .backward => 0
  t.size direction false + before + marks + stateSize

def maxSize : Nat := 10485760

def fits (t : Tree) : Bool := [.forward, .backward].all fun d => t.wholeSize d ≤ maxSize

end Tree

end SeriesQuery.Pattern
