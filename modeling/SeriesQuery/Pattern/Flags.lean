import SeriesQuery.Pattern.Tree
import SeriesQuery.Text.CaseFolding

/-!
# Flags of patterns

Flags say how the parts of a pattern are to be taken. Without the Unicode flag sets of characters
are sets of ASCII characters, and nothing that would need other characters is a pattern.
-/

namespace SeriesQuery.Pattern

structure Flags where
  ignoreCase : Bool
  multiLine : Bool
  dotMatchesNewline : Bool
  swapGreed : Bool
  carriageReturn : Bool
  verbose : Bool
  unicode : Bool

namespace Flags

def initial : Flags := ⟨false, false, false, false, false, false, true⟩

def set? (flags : Flags) (value : Bool) : Char → Option Flags
  | 'i' => some { flags with ignoreCase := value }
  | 'm' => some { flags with multiLine := value }
  | 's' => some { flags with dotMatchesNewline := value }
  | 'U' => some { flags with swapGreed := value }
  | 'R' => some { flags with carriageReturn := value }
  | 'x' => some { flags with verbose := value }
  | 'u' => some { flags with unicode := value }
  | _ => none

/-- Applies letters, each of which comes at most once. A hyphen switches off the flags behind it; it
comes once and not last. -/
def withLetters? (value : Bool) (used : List Char) (flags : Flags) : List Char → Option Flags
  | [] => if used.head? = some '-' then none else some flags
  | c :: cs =>
    if used.contains c then none
    else if c = '-' then flags.withLetters? false ('-' :: used) cs
    else (flags.set? value c).bind fun flags => flags.withLetters? value (c :: used) cs

/-- A set with what counts as the same when case is ignored. -/
def fold (flags : Flags) (s : CharSet) : CharSet :=
  if !flags.ignoreCase then s else if flags.unicode then s.caseClosure else s.asciiCaseClosure

def negate? (flags : Flags) (negated : Bool) (s : CharSet) : Option CharSet :=
  if !negated then some s else if flags.unicode then some s.complement else none

/-- The set of a letter after a backslash; a capital stands for the complement. -/
def shorthand? (flags : Flags) (letter : Char) : Option CharSet := do
  let s ← match letter.toLower with
    | 'd' => some (if flags.unicode then CharSet.decimalDigit else #[(0x30, 0x39)])
    | 's' => some (if flags.unicode then CharSet.whiteSpace else #[(0x09, 0x0d), (0x20, 0x20)])
    | 'w' => some (if flags.unicode then CharSet.wordChar else Assertion.asciiWord)
    | _ => none
  flags.negate? letter.isUpper s

def literal (flags : Flags) (c : Char) : Tree := .ofSet (flags.fold (.ofChar c))

def notNewline : CharSet := CharSet.complement #[(0x0a, 0x0a)]

def notNewlineOrReturn : CharSet := CharSet.complement #[(0x0a, 0x0a), (0x0d, 0x0d)]

def dot? (flags : Flags) : Option Tree :=
  if !flags.unicode then none
  else if flags.dotMatchesNewline then some (.oneOf .everything)
  else if flags.carriageReturn then some (.oneOf notNewlineOrReturn)
  else some (.oneOf notNewline)

def caret (flags : Flags) : Assertion :=
  if !flags.multiLine then .textStart
  else if flags.carriageReturn then .returnLineStart
  else .lineStart

def dollar (flags : Flags) : Assertion :=
  if !flags.multiLine then .textEnd
  else if flags.carriageReturn then .returnLineEnd
  else .lineEnd

def boundary (flags : Flags) (b : Boundary) : Assertion := .boundary b flags.unicode

def isBlank (c : Char) : Bool := CharSet.whiteSpace.contains c

/-- Drops blanks and comments, which end with the line; `inComment` says whether one has begun. -/
def dropBlanks (inComment : Bool) : List Char → List Char
  | [] => []
  | c :: cs =>
    if inComment then dropBlanks (c != '\n') cs
    else if isBlank c then dropBlanks false cs
    else if c = '#' then dropBlanks true cs
    else c :: cs

/-- Drops what counts for nothing: in a verbose pattern blanks and comments. -/
def skip (flags : Flags) (cs : List Char) : List Char :=
  if flags.verbose then dropBlanks false cs else cs

/-- Splits off the characters that are to be kept, without blanks and comments in a verbose
pattern. -/
def span (flags : Flags) (keep : Char → Bool) (inComment : Bool) :
    List Char → List Char × List Char
  | [] => ([], [])
  | c :: cs =>
    if inComment then flags.span keep (c != '\n') cs
    else if flags.verbose && isBlank c then flags.span keep false cs
    else if flags.verbose && c = '#' then flags.span keep true cs
    else if keep c then
      let (taken, rest) := flags.span keep false cs
      (c :: taken, rest)
    else ([], c :: cs)

/-- Splits off so many characters and what counts for nothing after each. -/
def take? (flags : Flags) : Nat → List Char → Option (List Char × List Char)
  | 0, cs => some ([], cs)
  | _ + 1, [] => none
  | n + 1, c :: cs => do
    let (taken, rest) ← flags.take? n (flags.skip cs)
    return (c :: taken, rest)

end Flags

end SeriesQuery.Pattern
