import SeriesQuery.Text.Property.Derived

/-!
# Assertions

An assertion is a condition on the place between two characters. It takes up no text.
-/

namespace SeriesQuery.Pattern

/-- A place by the words on its two sides. -/
inductive Boundary
  | edge
  | noEdge
  | start
  | finish
  /-- Like the two before, but only the side outside the word is looked at. -/
  | startHalf
  | finishHalf
deriving DecidableEq, Repr

/-- Whether the boundary lies between two sides, of which is known if they are word characters. -/
def Boundary.holds (b : Boundary) (before after : Bool) : Bool :=
  match b with
  | edge => before != after
  | noEdge => before == after
  | start => !before && after
  | finish => before && !after
  | startHalf => !before
  | finishHalf => !after

inductive Assertion
  | textStart
  | textEnd
  | lineStart
  | lineEnd
  /-- Like the two before, but a carriage return also ends a line. -/
  | returnLineStart
  | returnLineEnd
  /-- A boundary of words, which may consist of any letters or of ASCII letters alone. -/
  | boundary (b : Boundary) (unicode : Bool)
deriving DecidableEq, Repr

namespace Assertion

def asciiWord : CharSet := #[(0x30, 0x39), (0x41, 0x5a), (0x5f, 0x5f), (0x61, 0x7a)]

def isWord (unicode : Bool) (c : Option Char) : Bool :=
  c.any (if unicode then CharSet.wordChar else asciiWord).contains

/-- Whether the assertion holds between two characters; `none` is an end of the text. -/
def holds (a : Assertion) (before after : Option Char) : Bool :=
  match a with
  | textStart => before.isNone
  | textEnd => after.isNone
  | lineStart => before.isNone || before == some '\n'
  | lineEnd => after.isNone || after == some '\n'
  | returnLineStart =>
    before.isNone || before == some '\n' || (before == some '\r' && after != some '\n')
  | returnLineEnd =>
    after.isNone || after == some '\r' || (after == some '\n' && before != some '\r')
  | boundary b unicode => b.holds (isWord unicode before) (isWord unicode after)

end Assertion

end SeriesQuery.Pattern
