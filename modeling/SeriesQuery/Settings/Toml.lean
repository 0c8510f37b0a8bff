import SeriesQuery.Binary64.Text
import SeriesQuery.Calendar
import SeriesQuery.Settings

/-!
# Settings in TOML

A document consists of lines that give a value to a key or open a table. A key may have several
parts, which name nested tables. No key is given two values and no table is opened twice.
-/

namespace SeriesQuery.Toml

abbrev Reader := StateT (List Char) Option

namespace Reader

def peek : Reader (Option Char) := return (← get).head?

def accept (text : String) : Reader Bool := do
  if text.toList.isPrefixOf (← get) then
    modify (·.drop text.length)
    return true
  return false

def expect (text : String) : Reader Unit := do
  unless ← accept text do failure

def takeWhile (keep : Char → Bool) : Reader (List Char) := do
  let (taken, rest) := (← get).span keep
  set rest
  return taken

def fuel : Reader Nat := return (← get).length + 1

end Reader

open Reader

def isBlank (c : Char) : Bool := c = ' ' || c = '\t'

/-- Control characters other than the tab must not be written as they are. -/
def isPlain (c : Char) : Bool := c = '\t' || (0x20 ≤ c.toNat && c.toNat ≠ 0x7f)

def skipBlanks : Reader Unit := do
  let _ ← takeWhile isBlank

def skipComment : Reader Unit := do
  if ← accept "#" then
    let _ ← takeWhile isPlain

def acceptNewline : Reader Bool := do
  if ← accept "\n" then return true
  accept "\r\n"

def endLine : Reader Unit := do
  skipBlanks
  skipComment
  unless ← acceptNewline do
    unless (← get).isEmpty do failure

def skipLines : Nat → Reader Unit
  | 0 => failure
  | n + 1 => do
    skipBlanks
    skipComment
    if ← acceptNewline then skipLines n

/-- A text between double quotes on one line, after the opening quote. -/
def basicText : Nat → Reader (List Char)
  | 0 => failure
  | n + 1 => do
    match ← get with
    | '"' :: rest =>
      set rest
      return []
    | '\\' :: rest =>
      let (c, rest) ← liftM (Setting.escape? rest)
      set rest
      return c :: (← basicText n)
    | c :: rest =>
      unless isPlain c do failure
      set rest
      return c :: (← basicText n)
    | [] => failure

/-- Up to two quotes may stand before the three that close a text of several lines. -/
def closingQuotes (quote : Char) : List Char → Option (List Char × List Char)
  | a :: b :: c :: rest =>
    if a = quote ∧ b = quote ∧ c = quote then
      match rest with
      | d :: e :: rest' =>
        if d = quote ∧ e = quote then some ([quote, quote], rest')
        else if d = quote then some ([quote], e :: rest')
        else some ([], rest)
      | [d] => if d = quote then some ([quote], []) else some ([], rest)
      | [] => some ([], [])
    else none
  | _ => none

def isLineChar (c : Char) : Bool := isPlain c || c = '\n'

/-- The rest after a backslash at the end of a line: the blanks and line ends are skipped. -/
def afterLineEnd? (cs : List Char) : Option (List Char) :=
  match cs.dropWhile isBlank with
  | '\n' :: rest => some (rest.dropWhile fun c => isBlank c || c = '\n' || c = '\r')
  | '\r' :: '\n' :: rest => some (rest.dropWhile fun c => isBlank c || c = '\n' || c = '\r')
  | _ => none

/-- A text of several lines, after the opening quotes; only between double quotes are there
escapes. -/
def longText (quote : Char) : Nat → Reader (List Char)
  | 0 => failure
  | n + 1 => do
    let cs ← get
    match closingQuotes quote cs with
    | some (quotes, rest) =>
      set rest
      return quotes
    | none =>
      match cs with
      | '\r' :: '\n' :: rest =>
        set rest
        return '\n' :: (← longText quote n)
      | c :: rest =>
        if c = '\\' ∧ quote = '"' then
          match afterLineEnd? rest with
          | some rest =>
            set rest
            longText quote n
          | none =>
            let (c, rest) ← liftM (Setting.escape? rest)
            set rest
            return c :: (← longText quote n)
        else
          unless isLineChar c do failure
          set rest
          return c :: (← longText quote n)
      | [] => failure

/-- A text between single quotes on one line, after the opening quote. -/
def literalText : Reader (List Char) := do
  let s ← takeWhile fun c => isPlain c && c ≠ '\''
  expect "'"
  return s

def text? : Reader (Option String) := do
  if ← accept "\"\"\"" then
    let _ ← acceptNewline
    return some (String.ofList (← longText '"' (← fuel)))
  else if ← accept "'''" then
    let _ ← acceptNewline
    return some (String.ofList (← longText '\'' (← fuel)))
  else if ← accept "\"" then return some (String.ofList (← basicText (← fuel)))
  else if ← accept "'" then return some (String.ofList (← literalText))
  else return none

def isKeyChar (c : Char) : Bool := c.isAlphanum || c = '_' || c = '-'

def keyPart : Reader String := do
  if ← accept "\"" then return String.ofList (← basicText (← fuel))
  else if ← accept "'" then return String.ofList (← literalText)
  else
    let part ← takeWhile isKeyChar
    if part.isEmpty then failure
    return String.ofList part

/-- Keys have fewer parts, and values are nested less deep. -/
def depthLimit : Nat := 80

/-- Parts with dots between them and blanks around them. -/
def keyParts : Nat → Reader (List String)
  | 0 => failure
  | n + 1 => do
    skipBlanks
    let part ← keyPart
    skipBlanks
    if ← accept "." then return part :: (← keyParts n)
    return [part]

def key : Reader (List String) := do
  let parts ← keyParts (← fuel)
  if depthLimit ≤ parts.length then failure
  return parts

def digits? (isDigit : Char → Bool) (cs : List Char) : Option (List Char) :=
  let parts := cs.splitOn '_'
  if parts.all fun part => !part.isEmpty && part.all isDigit then some parts.flatten else none

def valueOf (base : Nat) (ds : List Char) : Nat :=
  ds.foldl (fun n c => base * n + (Setting.hexValue? c).getD 0) 0

def inRange? (n : Int) : Option Setting :=
  if -0x8000000000000000 ≤ n ∧ n < 0x8000000000000000 then some (.integer n) else none

def isOctal (c : Char) : Bool := '0' ≤ c && c ≤ '7'

def isBinary (c : Char) : Bool := c = '0' || c = '1'

def wholeDigits? (cs : List Char) : Option (List Char) := do
  let ds ← digits? Char.isDigit cs
  if 1 < ds.length && ds.head? = some '0' then none else some ds

def isExponent (cs : List Char) : Bool :=
  match cs with
  | '+' :: ds => (digits? Char.isDigit ds).isSome
  | '-' :: ds => (digits? Char.isDigit ds).isSome
  | ds => (digits? Char.isDigit ds).isSome

/-- Whether a text without sign is a decimal number with a fraction, an exponent or both. -/
def isDecimal (cs : List Char) : Bool :=
  let (mantissa, exponent) := cs.span fun c => c ≠ 'e' && c ≠ 'E'
  let (whole, fraction) := mantissa.span (· ≠ '.')
  (wholeDigits? whole).isSome &&
    (match fraction with
      | [] => !exponent.isEmpty
      | _ :: ds => (digits? Char.isDigit ds).isSome) &&
    (match exponent with
      | [] => true
      | _ :: e => isExponent e)

/-- Whether a decimal number is too large for double precision. -/
def isBeyondRange (cs : List Char) : Bool :=
  (Binary64.ofText? (String.ofList (cs.filter (· ≠ '_')))).any Binary64.isInfinite

/-- A number. One that is too large and has no minus sign is refused. -/
def number? (cs : List Char) : Option Setting :=
  let (negative, unsigned) := match cs with
    | '-' :: cs => (true, cs)
    | '+' :: cs => (false, cs)
    | cs => (false, cs)
  let signed := unsigned.length < cs.length
  let whole : Option Nat := match unsigned with
    | '0' :: 'x' :: ds =>
      if signed then none else (digits? (Setting.hexValue? · |>.isSome) ds).map (valueOf 16)
    | '0' :: 'o' :: ds => if signed then none else (digits? isOctal ds).map (valueOf 8)
    | '0' :: 'b' :: ds => if signed then none else (digits? isBinary ds).map (valueOf 2)
    | ds => (wholeDigits? ds).map (valueOf 10)
  match whole with
  | some n => inRange? (if negative then -n else n)
  | none =>
    let s := String.ofList unsigned
    if s = "inf" ∨ s = "nan" ∨ (isDecimal unsigned ∧ (negative ∨ !isBeyondRange unsigned)) then
      some (.decimal (String.ofList cs))
    else none

/-- Whether a text has the given shape, in which 0 stands for any digit. -/
def hasShape (shape : String) (cs : List Char) : Bool :=
  shape.length = cs.length &&
    (shape.toList.zip cs).all fun (s, c) => if s = '0' then c.isDigit else s = c

def isDate (cs : List Char) : Bool :=
  hasShape "0000-00-00" cs &&
    (let month := valueOf 10 ((cs.drop 5).take 2)
     let day := valueOf 10 (cs.drop 8)
     1 ≤ month && month ≤ 12 && 1 ≤ day &&
       day ≤ Calendar.daysInMonth (valueOf 10 (cs.take 4)) month)

def isHourAndMinute (cs : List Char) : Bool :=
  hasShape "00:00" cs && valueOf 10 (cs.take 2) < 24 && valueOf 10 (cs.drop 3) < 60

def isTime (cs : List Char) : Bool :=
  let (time, fraction) := cs.span (· ≠ '.')
  hasShape "00:00:00" time && isHourAndMinute (time.take 5) && valueOf 10 (time.drop 6) ≤ 60 &&
    (match fraction with
      | [] => true
      | _ :: ds => !ds.isEmpty && ds.all Char.isDigit)

def withoutOffset (cs : List Char) : List Char :=
  match cs.reverse with
  | 'Z' :: rest => rest.reverse
  | 'z' :: rest => rest.reverse
  | _ =>
    match cs.drop (cs.length - 6) with
    | sign :: time =>
      if (sign = '+' || sign = '-') && isHourAndMinute time then cs.take (cs.length - 6) else cs
    | [] => cs

/-- Whether a text is a date, a time of day or both. -/
def isMoment (cs : List Char) : Bool :=
  isDate cs || isTime cs ||
    (isDate (cs.take 10) && ['T', 't', ' '].contains ((cs.drop 10).headD '0') &&
      isTime (withoutOffset (cs.drop 11)))

def isWordChar (c : Char) : Bool :=
  c.isAlphanum || c = '_' || c = '+' || c = '-' || c = '.' || c = ':'

/-- A date or a time of day is a table with one entry, in which it is written. -/
def ofMoment (s : String) : Setting := .table [("moment", .text s)]

/-- A truth value, a number or a date. A single blank may stand between a date and a time. -/
def word : Reader Setting := do
  let first ← takeWhile isWordChar
  let cs ← match ← get with
    | ' ' :: c :: rest =>
      if isDate first ∧ c.isDigit then
        set (c :: rest)
        pure (first ++ ' ' :: (← takeWhile isWordChar))
      else pure first
    | _ => pure first
  let s := String.ofList cs
  if s = "true" then return .flag true
  else if s = "false" then return .flag false
  else if isMoment cs then return ofMoment s
  else liftM (number? cs)

inductive Origin
  /-- It contains a table that has been opened. -/
  | implied
  /-- It has been opened by a line of its own. -/
  | opened
  /-- It was named in a key. -/
  | dotted
deriving DecidableEq

inductive Node
  | value (v : Setting)
  | table (origin : Origin) (entries : List (String × Node))
  /-- Tables of one name, the newest first. -/
  | tables (items : List (List (String × Node)))

namespace Node

abbrev Entries := List (String × Node)

def find? (entries : Entries) (name : String) : Option Node :=
  (entries.find? (·.1 = name)).map Prod.snd

def put (entries : Entries) (name : String) (v : Node) : Entries :=
  match entries with
  | [] => [(name, v)]
  | e :: rest => if e.1 = name then (name, v) :: rest else e :: put rest name v

def inTable (f : Entries → Option Entries) : List String → Entries → Option Entries
  | [], entries => f entries
  | name :: path, entries =>
    match find? entries name with
    | none => do return put entries name (table .implied (← inTable f path []))
    | some (table origin inner) => do
      return put entries name (table origin (← inTable f path inner))
    | some (tables (newest :: older)) => do
      return put entries name (tables ((← inTable f path newest) :: older))
    | _ => none

/-- Gives a value to a key, none of whose tables has been opened by itself. The table in which the
value lies is named in keys alone. -/
def define (v : Setting) : List String → Entries → Option Entries
  | [], _ => none
  | [name], entries =>
    if (find? entries name).isSome then none else some (put entries name (value v))
  | name :: path, entries =>
    match find? entries name with
    | none => do return put entries name (table .dotted (← define v path []))
    | some (table .dotted inner) => do
      return put entries name (table .dotted (← define v path inner))
    | some (table .implied inner) => do
      if path.length = 1 then none
      else return put entries name (table .implied (← define v path inner))
    | some (tables (newest :: older)) => do
      if path.length = 1 then none
      else return put entries name (tables ((← define v path newest) :: older))
    | _ => none

def openTable (name : String) (entries : Entries) : Option Entries :=
  match find? entries name with
  | none => some (put entries name (table .opened []))
  | some (table .implied inner) => some (put entries name (table .opened inner))
  | _ => none

def addTable (name : String) (entries : Entries) : Option Entries :=
  match find? entries name with
  | none => some (put entries name (tables [[]]))
  | some (tables items) => some (put entries name (tables ([] :: items)))
  | _ => none

mutual

def toSetting : Node → Setting
  | value v => v
  | table _ entries => .table (entriesToSettings entries)
  | tables items => .list (itemsToSettings items).reverse

def entriesToSettings : List (String × Node) → List (String × Setting)
  | [] => []
  | (name, v) :: rest => (name, v.toSetting) :: entriesToSettings rest

def itemsToSettings : List (List (String × Node)) → List Setting
  | [] => []
  | entries :: rest => .table (entriesToSettings entries) :: itemsToSettings rest

end

end Node

mutual

/-- A value inside as many lists and tables as the depth says. -/
def value : Nat → Nat → Reader Setting
  | 0, _ => failure
  | n + 1, depth => do
    match ← text? with
    | some s => return .text s
    | none =>
      if ← accept "[" then
        if depthLimit ≤ depth + 1 then failure
        return .list (← items n (depth + 1))
      else if ← accept "\x7b" then
        if depthLimit ≤ depth + 1 then failure
        skipBlanks
        if ← accept "\x7d" then return .table []
        else return (Node.table .opened (← entries n (depth + 1) [])).toSetting
      else word

/-- The items of a list up to its end. A comma may follow the last. -/
def items : Nat → Nat → Reader (List Setting)
  | 0, _ => failure
  | n + 1, depth => do
    skipLines (← fuel)
    if ← accept "]" then return []
    let v ← value n depth
    skipLines (← fuel)
    if ← accept "," then return v :: (← items n depth)
    expect "]"
    return [v]

def entries : Nat → Nat → Node.Entries → Reader Node.Entries
  | 0, _, _ => failure
  | n + 1, depth, found => do
    let path ← key
    expect "="
    skipBlanks
    let found ← liftM (Node.define (← value n depth) path found)
    skipBlanks
    if ← accept "," then entries n depth found
    else
      expect "\x7d"
      return found

end

/-- The tables read so far and the path of the one that is open. -/
structure Document where
  root : Node.Entries
  path : List String

def Document.openPath (d : Document) (openLast : String → Node.Entries → Option Node.Entries)
    (path : List String) : Option Document := do
  let last ← path.getLast?
  return ⟨← Node.inTable (openLast last) path.dropLast d.root, path⟩

def line (d : Document) : Reader Document := do
  skipBlanks
  if ← accept "[[" then
    let path ← key
    expect "]]"
    endLine
    liftM (d.openPath Node.addTable path)
  else if ← accept "[" then
    let path ← key
    expect "]"
    endLine
    liftM (d.openPath Node.openTable path)
  else
    match ← peek with
    | none | some '#' | some '\n' | some '\r' =>
      endLine
      return d
    | _ =>
      let path ← key
      expect "="
      skipBlanks
      let v ← value (2 * (← fuel)) 0
      endLine
      let root ← liftM (Node.inTable (Node.define v path) d.path d.root)
      return { d with root }

def lines : Nat → Document → Reader Document
  | 0, d => return d
  | n + 1, d => do
    if (← get).isEmpty then return d
    lines n (← line d)

/-- The characters of a document, without the byte order mark that may stand in front of them. -/
def characters (s : String) : List Char :=
  match s.toList with
  | '\ufeff' :: rest => rest
  | cs => cs

def read (s : String) : Option Setting := do
  let (d, rest) ← (lines (s.length + 1) ⟨[], []⟩).run (characters s)
  if rest.isEmpty then some (Node.table .opened d.root).toSetting else none

end SeriesQuery.Toml
