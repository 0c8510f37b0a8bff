/-!
# Settings as data

Settings are nested tables of values by name. Where two sources give settings, tables are merged
and any other value of the later source replaces that of the earlier one. In a text a backslash
introduces a control character by a letter, a quote, a backslash, or a character by four or eight
hexadecimal digits.
-/

namespace SeriesQuery

inductive Setting
  /-- A setting that may be left open. -/
  | missing
  | text (s : String)
  | flag (b : Bool)
  | integer (n : Int)
  /-- A number that is not whole, as it is written. -/
  | decimal (s : String)
  | list (items : List Setting)
  | table (entries : List (String × Setting))
deriving Repr

namespace Setting

def find? (entries : List (String × Setting)) (name : String) : Option Setting :=
  (entries.find? (·.1 = name)).map Prod.snd

/-- Puts a value in the place of the one that a name has, or behind all others. -/
def put (entries : List (String × Setting)) (name : String) (v : Setting) :
    List (String × Setting) :=
  match entries with
  | [] => [(name, v)]
  | e :: rest => if e.1 = name then (name, v) :: rest else e :: put rest name v

mutual

/-- Settings of two sources, of which the second counts more. -/
def merge : Setting → Setting → Setting
  | table a, table b => table (mergeEntries a b)
  | _, b => b

def mergeEntries (a : List (String × Setting)) : List (String × Setting) → List (String × Setting)
  | [] => a
  | (name, v) :: rest =>
    mergeEntries (put a name (match find? a name with
      | some old => merge old v
      | none => v)) rest

end

/-- A value inside tables of the given names. -/
def nest : List String → Setting → Setting
  | [], v => v
  | name :: rest, v => table [(name, nest rest v)]

def text? : Setting → Option String
  | text s => some s
  | _ => none

def hexValue? (c : Char) : Option Nat :=
  if c.isDigit then some (c.toNat - '0'.toNat)
  else if 'a' ≤ c ∧ c ≤ 'f' then some (c.toNat - 'a'.toNat + 10)
  else if 'A' ≤ c ∧ c ≤ 'F' then some (c.toNat - 'A'.toNat + 10)
  else none

def charOfHex? (digits : List Char) : Option Char := do
  let n ← digits.foldlM (fun n c => (hexValue? c).map (16 * n + ·)) 0
  if n.isValidChar then some (Char.ofNat n) else none

def escape? : List Char → Option (Char × List Char)
  | 'b' :: rest => some ('\x08', rest)
  | 't' :: rest => some ('\t', rest)
  | 'n' :: rest => some ('\n', rest)
  | 'f' :: rest => some ('\x0c', rest)
  | 'r' :: rest => some ('\r', rest)
  | '"' :: rest => some ('"', rest)
  | '\\' :: rest => some ('\\', rest)
  | 'u' :: rest =>
    if rest.length < 4 then none else (charOfHex? (rest.take 4)).map (·, rest.drop 4)
  | 'U' :: rest =>
    if rest.length < 8 then none else (charOfHex? (rest.take 8)).map (·, rest.drop 8)
  | _ => none

/-- A text with its escapes replaced; the number of steps is bounded by the length. -/
def unescape : Nat → List Char → Option (List Char)
  | 0, _ => none
  | _ + 1, [] => some []
  | fuel + 1, '\\' :: rest => do
    let (c, rest) ← escape? rest
    return c :: (← unescape fuel rest)
  | fuel + 1, c :: rest => (unescape fuel rest).map (c :: ·)

end Setting

end SeriesQuery
