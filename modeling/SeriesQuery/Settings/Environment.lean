import SeriesQuery.Binary64.Text
import SeriesQuery.Settings
import SeriesQuery.Text.Property.Listed

/-!
# Settings from the environment

A variable whose name begins with a prefix gives one setting. The names of the tables it lies in
are separated by two underscores, and upper and lower case do not differ. A value is read as a
truth value, a number, a quoted text, a list or a table if it has that form, and else as a text.
In a list and in a table the closing bracket stands right behind the opening one or a comma, or
behind an item.
-/

namespace SeriesQuery.Setting

def isSpace (c : Char) : Bool := c = ' ' || c = '\t' || c = '\n' || c = '\r' || c = '\x0c'

def isSeparator (c : Char) : Bool := [',', '\x7b', '\x7d', '[', ']'].contains c

def isKeyChar (c : Char) : Bool := c.isAlphanum || c = '_' || c = '-'

def trim (cs : List Char) : List Char :=
  let white := CharSet.whiteSpace.contains
  ((cs.dropWhile white).reverse.dropWhile white).reverse

def integer? (s : String) : Option Int :=
  let (negative, digits) := match s.toList with
    | '-' :: cs => (true, cs)
    | '+' :: cs => (false, cs)
    | cs => (false, cs)
  if digits.isEmpty || !digits.all Char.isDigit then none
  else
    let n : Int := digits.foldl (fun n c => 10 * n + (c.toNat - '0'.toNat)) 0
    let n := if negative then -n else n
    if -0x8000000000000000 ≤ n ∧ n < 0x10000000000000000 then some n else none

def ofWord (s : String) : Setting :=
  if s.toList.contains '.' && (Binary64.ofText? s).isSome then decimal s
  else
    match integer? s with
    | some n => integer n
    | none => text s

def after? (start : String) (cs : List Char) : Option (List Char) :=
  if start.toList.isPrefixOf cs then some (cs.drop start.length) else none

/-- Control characters other than the tab must not stand between quotes. -/
def isPlain (c : Char) : Bool := c = '\t' || (0x20 ≤ c.toNat && c.toNat ≠ 0x7f)

def spanQuoted : List Char → Option (List Char × List Char)
  | [] => none
  | '"' :: rest => some ([], rest)
  | '\\' :: c :: rest => (spanQuoted rest).map fun (s, rest) => ('\\' :: c :: s, rest)
  | c :: rest => (spanQuoted rest).map fun (s, rest) => (c :: s, rest)

/-- The text up to the closing quote with its escapes replaced, and what follows. -/
def spanString (cs : List Char) : Option (List Char × List Char) := do
  let (s, rest) ← spanQuoted cs
  if s.all isPlain then return (← unescape (s.length + 1) s, rest) else none

/-- The name of an entry of a table, in quotes or not, and what follows. -/
def spanKey : List Char → Option (List Char × List Char)
  | '"' :: rest => spanString rest
  | cs =>
    let (name, rest) := cs.span isKeyChar
    if name.isEmpty then none else some (name, rest)

mutual

def readValue : Nat → List Char → Option (Setting × List Char)
  | 0, _ => none
  | fuel + 1, cs => do
    let (v, rest) ← match cs.dropWhile isSpace with
      | '"' :: rest => (spanString rest).map fun (s, rest) => (text (String.ofList s), rest)
      | '\'' :: c :: '\'' :: rest => some (text c.toString, rest)
      | '\'' :: _ => none
      | '[' :: rest => (readItems fuel rest).map fun (items, rest) => (list items, rest)
      | '\x7b' :: rest =>
        (readEntries fuel [] rest).map fun (entries, rest) => (table entries, rest)
      | cs =>
        match after? "true" cs, after? "false" cs with
        | some rest, _ => some (flag true, rest)
        | none, some rest => some (flag false, rest)
        | none, none =>
          let (word, rest) := cs.span (!isSeparator ·)
          some (ofWord (String.ofList (trim word)), rest)
    return (v, rest.dropWhile isSpace)

def readItems : Nat → List Char → Option (List Setting × List Char)
  | 0, _ => none
  | fuel + 1, cs =>
    match cs with
    | ']' :: rest => some ([], rest)
    | cs => do
      let (v, rest) ← readValue fuel cs
      match rest with
      | ',' :: rest =>
        let (items, rest) ← readItems fuel rest
        return (v :: items, rest)
      | ']' :: rest => return ([v], rest)
      | _ => none

/-- Reads the entries of a table up to its end and adds them to those found before. Of two values
of a name the later counts. -/
def readEntries : Nat → List (String × Setting) → List Char →
    Option (List (String × Setting) × List Char)
  | 0, _, _ => none
  | fuel + 1, found, cs =>
    match cs with
    | '\x7d' :: rest => some (found, rest)
    | cs => do
      let (name, rest) ← spanKey (cs.dropWhile isSpace)
      match rest.dropWhile isSpace with
      | '=' :: rest =>
        let (v, rest) ← readValue fuel rest
        let found := put found (String.ofList name) v
        match rest with
        | ',' :: rest => readEntries fuel found rest
        | '\x7d' :: rest => return (found, rest)
        | _ => none
      | _ => none

end

/-- The value that a variable gives. What has none of the forms is a text as it stands. -/
def ofVariable (value : String) : Setting :=
  let cs := value.toList
  match readValue (2 * cs.length + 2) cs with
  | some (v, []) => v
  | _ => text value

def splitName : Nat → List Char → List Char → List (List Char)
  | 0, part, _ => [part.reverse]
  | _ + 1, part, [] => [part.reverse]
  | fuel + 1, part, '_' :: '_' :: rest => part.reverse :: splitName fuel [] rest
  | fuel + 1, part, c :: rest => splitName fuel (c :: part) rest

/-- The names of the tables, and of the setting in them, that a variable with the prefix stands
for. A variable with an empty part in its name stands for none. -/
def path? (prefixName given : String) : Option (List String) :=
  let cs := (String.ofList (trim given.toList)).toLower.toList
  let start := prefixName.toLower.toList
  if start.isPrefixOf cs then
    let parts := splitName cs.length [] (trim (cs.drop start.length))
    let parts := parts.flatMap fun part => part.splitOn '.'
    if parts.any List.isEmpty then none else some (parts.map String.ofList)
  else none

/-- The settings that variables give, later ones replacing earlier ones. -/
def ofEnvironment (prefixName : String) (environment : List (String × String)) : Setting :=
  environment.foldl (fun settings (name, value) =>
    match path? prefixName name with
    | some path => merge settings (nest path (ofVariable value))
    | none => settings) (table [])

end SeriesQuery.Setting
