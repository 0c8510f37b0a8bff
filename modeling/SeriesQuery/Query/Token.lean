/-!
# Tokens of query texts

Braces and brackets have words of their own inside: between braces stand labels, operators and
texts, between brackets durations. Comments run to the end of the line and blanks separate words.
-/

namespace SeriesQuery.Query

inductive Token
  | number (text : String)
  /-- Numbers with units of time. -/
  | duration (text : String)
  | quoted (text : String)
  /-- A word without a colon, which may be a keyword. -/
  | word (text : String)
  /-- A word with a colon. -/
  | metric (text : String)
  | symbol (text : String)
deriving DecidableEq, Repr

namespace Token

def isWordStart (c : Char) : Bool := c.isAlpha || c = '_'

def isWordChar (c : Char) : Bool := c.isAlphanum || c = '_'

def isBlank (c : Char) : Bool := c = ' ' || c = '\t' || c = '\n' || c = '\r' || c = '\x0c'

def isQuote (c : Char) : Bool := c = '"' || c = '\'' || c = '\x60'

def isLineEnd (c : Char) : Bool := c = '\n' || c = '\r'

def endsWord (cs : List Char) : Bool :=
  match cs with
  | [] => true
  | c :: _ => !isWordChar c

def spanOne (cs : List Char) (allowed : String) : List Char × List Char :=
  match cs with
  | c :: rest => if allowed.toList.contains c then ([c], rest) else ([], cs)
  | [] => ([], [])

def isHexDigit (c : Char) : Bool :=
  c.isDigit || ('a' ≤ c && c ≤ 'f') || ('A' ≤ c && c ≤ 'F')

/-- Splits off what looks like a number; whether it is one is found out when it is read. -/
def spanNumber (cs : List Char) : List Char × List Char :=
  let (zero, rest) := spanOne cs "0"
  let (mark, rest) := if zero.isEmpty then ([], rest) else spanOne rest "xX"
  let isDigit := if mark.isEmpty then Char.isDigit else isHexDigit
  let (whole, rest) := rest.span isDigit
  let (point, rest) := spanOne rest "."
  let (fraction, rest) := if point.isEmpty then ([], rest) else rest.span isDigit
  let (e, rest) := spanOne rest "eE"
  let (sign, rest) := if e.isEmpty then ([], rest) else spanOne rest "+-"
  let (exponent, rest) := if e.isEmpty then ([], rest) else rest.span Char.isDigit
  (zero ++ mark ++ whole ++ point ++ fraction ++ e ++ sign ++ exponent, rest)

def spanUnit (units : String) (cs : List Char) : List Char × List Char :=
  let (unit, rest) := spanOne cs units
  let (s, rest) := if unit.isEmpty then ([], rest) else spanOne rest "s"
  (unit ++ s, rest)

/-- Splits off further numbers with units, the first unit being read already. -/
def spanUnits : Nat → List Char → Option (List Char × List Char)
  | 0, _ => none
  | fuel + 1, cs =>
    match cs.span Char.isDigit with
    | ([], _) => if endsWord cs then some ([], cs) else none
    | (digits, rest) =>
      match spanUnit "smhdw" rest with
      | ([], _) => none
      | (unit, rest) =>
        (spanUnits fuel rest).map fun (more, rest) => (digits ++ unit ++ more, rest)

def numberOrDuration (cs : List Char) : Option (Token × List Char) :=
  let (digits, rest) := spanNumber cs
  if endsWord rest then some (number (String.ofList digits), rest)
  else
    match spanUnit "smhdwy" rest with
    | ([], _) => none
    | (unit, rest) =>
      (spanUnits (rest.length + 1) rest).map fun (more, rest) =>
        (duration (String.ofList (digits ++ unit ++ more)), rest)

def isEscapeChar (c : Char) : Bool := "abfnrtv\\01234567xuU".toList.contains c

def spanQuoted (quote : Char) : List Char → Option (List Char × List Char)
  | [] => none
  | '\\' :: c :: rest =>
    if c = quote || isEscapeChar c then
      (spanQuoted quote rest).map fun (text, rest) => ('\\' :: c :: text, rest)
    else none
  | c :: rest =>
    if c = quote then some ([], rest)
    else (spanQuoted quote rest).map fun (text, rest) => (c :: text, rest)

/-- The word that a run of letters stands for; the names of infinity and NaN are numbers. -/
def ofWord (text : String) : Token :=
  if text.toList.contains ':' then metric text
  else if text.toLower = "inf" || text.toLower = "nan" then number text
  else word text

inductive Place
  | outside
  | inBraces
  /-- Between brackets, where one colon may stand. -/
  | inBrackets (colonSeen : Bool)
deriving DecidableEq

def symbolOutside? : List Char → Option (String × List Char)
  | '=' :: '=' :: rest => some ("==", rest)
  | '=' :: '~' :: _ => none
  | '!' :: '=' :: rest => some ("!=", rest)
  | '<' :: '=' :: rest => some ("<=", rest)
  | '>' :: '=' :: rest => some (">=", rest)
  | c :: rest => if "@,*/%+-^=<>()\x7b[".toList.contains c then some (c.toString, rest) else none
  | [] => none

def symbolInBraces? : List Char → Option (String × List Char)
  | '=' :: '~' :: rest => some ("=~", rest)
  | '!' :: '~' :: rest => some ("!~", rest)
  | '!' :: '=' :: rest => some ("!=", rest)
  | c :: rest => if ",=\x7d".toList.contains c then some (c.toString, rest) else none
  | [] => none

def next? (place : Place) (cs : List Char) : Option (Token × List Char × Place) :=
  match cs with
  | [] => none
  | c :: rest =>
    match place with
    | .outside =>
      if isQuote c then
        (spanQuoted c rest).map fun (text, rest) => (quoted (String.ofList text), rest, place)
      else if isWordStart c || c = ':' then
        let (text, rest) := cs.span fun c => isWordChar c || c = ':'
        some (ofWord (String.ofList text), rest, place)
      else if c.isDigit || (c = '.' && rest.head?.any Char.isDigit) then
        (numberOrDuration cs).map fun (t, rest) => (t, rest, place)
      else
        (symbolOutside? cs).map fun (text, rest) =>
          (symbol text, rest,
            if text = "\x7b" then .inBraces else if text = "[" then .inBrackets false else place)
    | .inBraces =>
      if isQuote c then
        (spanQuoted c rest).map fun (text, rest) => (quoted (String.ofList text), rest, place)
      else if isWordStart c then
        let (text, rest) := cs.span isWordChar
        let text := String.ofList text
        if text.toLower = "or" && rest.head? = some ' ' then some (symbol "or", rest, place)
        else some (word text, rest, place)
      else
        (symbolInBraces? cs).map fun (text, rest) =>
          (symbol text, rest, if text = "\x7d" then .outside else place)
    | .inBrackets colonSeen =>
      if c.isDigit then (numberOrDuration cs).map fun (t, rest) => (t, rest, place)
      else if c = ']' then some (symbol "]", rest, .outside)
      else if c = ':' && !colonSeen then some (symbol ":", rest, .inBrackets true)
      else none

/-- The tokens of a text, unless something in it is no token or braces or brackets are left open.
The number of steps is bounded by the length. -/
def readAll : Nat → Place → List Char → Option (List Token)
  | 0, _, _ => none
  | _ + 1, place, [] => if place = .outside then some [] else none
  | fuel + 1, place, c :: rest =>
    if isBlank c then readAll fuel place rest
    else if c = '#' && (place = .outside || place = .inBraces) then
      readAll fuel place (rest.dropWhile (!isLineEnd ·))
    else
      match next? place (c :: rest) with
      | none => none
      | some (t, rest, place) => (readAll fuel place rest).map (t :: ·)

def ofText? (s : String) : Option (List Token) := readAll (s.length + 1) .outside s.toList

end Token

end SeriesQuery.Query
