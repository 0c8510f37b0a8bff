import SeriesQuery.Pattern.Flags
import SeriesQuery.Pattern.Property

/-!
# Escapes in patterns

The text of a pattern is read from its start. What is left of it and the groups met so far are the
state of the reader, which has no result where the text is no pattern. A backslash begins an escape,
which stands for a character, a set of characters or an assertion.
-/

namespace SeriesQuery.Pattern

structure ReadState where
  rest : List Char
  groupCount : Nat
  groupNames : List (String × Nat)

abbrev Reader := StateT ReadState Option

namespace Reader

def rest : Reader (List Char) := return (← get).rest

def setRest (cs : List Char) : Reader Unit := modify fun s => { s with rest := cs }

def peek : Reader Char := do
  let c :: _ ← rest | failure
  return c

/-- Goes past the next character and what counts for nothing behind it. -/
def advance (flags : Flags) : Reader Unit := do
  let _ :: cs ← rest | failure
  setRest (flags.skip cs)

def skipBlanks (flags : Flags) : Reader Unit := do setRest (flags.skip (← rest))

/-- Consumes the given text if it comes next. -/
def accept (text : String) : Reader Bool := do
  let cs ← rest
  if text.toList.isPrefixOf cs then
    setRest (cs.drop text.length)
    return true
  return false

def expect (text : String) : Reader Unit := do
  unless ← accept text do failure

def takeWhile (flags : Flags) (keep : Char → Bool) : Reader (List Char) := do
  let (taken, rest) := flags.span keep false (← rest)
  setRest rest
  return taken

end Reader

open Reader

inductive Escape
  | literal (c : Char)
  | set (s : CharSet)
  | assertion (a : Assertion)

def hexDigit? (c : Char) : Option Nat :=
  if c.isDigit then some (c.toNat - '0'.toNat)
  else if 'a' ≤ c ∧ c ≤ 'f' then some (c.toNat - 'a'.toNat + 10)
  else if 'A' ≤ c ∧ c ≤ 'F' then some (c.toNat - 'A'.toNat + 10)
  else none

def ofHex? (digits : List Char) : Option Char := do
  let values ← digits.mapM hexDigit?
  let code := values.foldl (fun n d => 16 * n + d) 0
  if digits.isEmpty || !code.isValidChar then none else some (Char.ofNat code)

/-- The character of so many digits. Two digits are a byte, which without Unicode is a character
only if it is ASCII. -/
def codePoint? (flags : Flags) (digits : List Char) : Option Char := do
  let c ← ofHex? digits
  if !flags.unicode && digits.length = 2 && 0x7f < c.toNat then none else some c

/-- The character after the letter of a code point: so many digits, or any number in braces. -/
def readCodePoint (flags : Flags) (width : Nat) : Reader Char := do
  advance flags
  if (← peek) = '\x7b' then
    advance flags
    let digits ← takeWhile flags (· != '\x7d')
    expect "\x7d"
    skipBlanks flags
    ofHex? digits
  else
    let (digits, rest) ← flags.take? width (← rest)
    setRest rest
    codePoint? flags digits

def namedProperty? (flags : Flags) (isComplement : Bool) (name : List Char) : Option CharSet :=
  if flags.unicode then do flags.negate? isComplement (flags.fold (← ofProperty? name)) else none

/-- The set after the letter of a property: a single letter, or a text in braces. -/
def readProperty (flags : Flags) : Reader CharSet := do
  let isComplement := (← peek) = 'P'
  advance flags
  if (← peek) = '\x7b' then
    advance flags
    let name ← takeWhile flags (· != '\x7d')
    expect "\x7d"
    namedProperty? flags isComplement name
  else
    let c ← peek
    advance flags
    namedProperty? flags isComplement [c]

def boundaryNamed? : String → Option Boundary
  | "start" => some .start
  | "end" => some .finish
  | "start-half" => some .startHalf
  | "end-half" => some .finishHalf
  | _ => none

def isBoundaryChar (c : Char) : Bool := c.isAlpha || c = '-'

def readBoundaryName (flags : Flags) : Reader Boundary := do
  let name ← takeWhile flags isBoundaryChar
  expect "\x7d"
  boundaryNamed? (String.ofList name)

/-- The boundary that is named after a brace. If no name begins there, the brace is read again. -/
def readNamedBoundary (flags : Flags) (atBrace : List Char) : Reader Boundary := do
  skipBlanks flags
  if isBoundaryChar (← peek) then readBoundaryName flags
  else
    setRest atBrace
    return .edge

/-- The word boundary after its letter. Braces behind it name its kind unless they hold no name. -/
def readBoundary (flags : Flags) : Reader Boundary := do
  let cs ← rest
  if ← accept "\x7b" then readNamedBoundary flags cs else return .edge

/-- Punctuation may be escaped whether it has a meaning or not; letters and digits may not. -/
def isEscapable (c : Char) : Bool :=
  c.toNat < 0x80 && !c.isAlphanum && c != '<' && c != '>'

def escape? (flags : Flags) (c : Char) : Option Escape :=
  match c with
  | 'a' => some (.literal '\x07')
  | 'f' => some (.literal '\x0c')
  | 't' => some (.literal '\t')
  | 'n' => some (.literal '\n')
  | 'r' => some (.literal '\r')
  | 'v' => some (.literal '\x0b')
  | 'A' => some (.assertion .textStart)
  | 'z' => some (.assertion .textEnd)
  | 'B' => some (.assertion (flags.boundary .noEdge))
  | '<' => some (.assertion (flags.boundary .start))
  | '>' => some (.assertion (flags.boundary .finish))
  | c => if isEscapable c then some (.literal c) else (flags.shorthand? c).map .set

def readEscape (flags : Flags) : Reader Escape := do
  match ← peek with
  | 'x' => return .literal (← readCodePoint flags 2)
  | 'u' => return .literal (← readCodePoint flags 4)
  | 'U' => return .literal (← readCodePoint flags 8)
  | 'p' | 'P' => return .set (← readProperty flags)
  | 'b' =>
    expect "b"
    return .assertion (flags.boundary (← readBoundary flags))
  | c =>
    setRest ((← rest).drop 1)
    escape? flags c

end SeriesQuery.Pattern
