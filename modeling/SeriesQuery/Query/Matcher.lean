import SeriesQuery.Matcher

/-!
# Matchers in query texts

The language puts a regular expression between anchors as it stands, and where that cannot be read
it takes a brace literally that begins no repetition. What is evaluated is the matcher as it is
written.
-/

namespace SeriesQuery.Query

/-- Splits off what follows an opening brace up to where it is clear whether a repetition is
meant: a digit, further digits with at most one comma and a closing brace. -/
def spanRepetition (atStart commaSeen : Bool) : List Char → Bool × List Char × List Char
  | [] => (false, [], [])
  | c :: rest =>
    if c.isDigit || (c = ',' && !atStart && !commaSeen) then
      let (isRepetition, taken, rest) := spanRepetition false (commaSeen || c = ',') rest
      (isRepetition, c :: taken, rest)
    else (c = '\x7d' && !atStart, [c], rest)

def escapeBraces : Nat → List Char → List Char
  | 0, cs => cs
  | _ + 1, [] => []
  | fuel + 1, '\\' :: c :: rest => '\\' :: c :: escapeBraces fuel rest
  | fuel + 1, c :: rest =>
    if c = '\x7b' then
      let (isRepetition, taken, rest) := spanRepetition true false rest
      (if isRepetition then [c] else ['\\', c]) ++ taken ++ escapeBraces fuel rest
    else c :: escapeBraces fuel rest

def pattern? (text : String) : Option Pattern :=
  let anchored := "^" ++ text ++ "$"
  (Pattern.ofString? anchored).or
    (Pattern.ofString? (String.ofList (escapeBraces anchored.length anchored.toList)))

/-- A matcher with the pattern that the language takes its regular expression for. -/
structure Constraint where
  name : String
  op : MatchOp
  value : String
  pattern : Option Pattern

namespace Constraint

def of? (name : String) (op : MatchOp) (value : String) : Option Constraint :=
  if op.isRegex then (pattern? value).map fun p => ⟨name, op, value, some p⟩
  else some ⟨name, op, value, none⟩

def admitsMissing (c : Constraint) : Bool :=
  match c.op with
  | .equal => c.value.isEmpty
  | .notEqual => !c.value.isEmpty
  | .regex => c.pattern.any (·.isMatch "")
  | .notRegex => c.pattern.all (!·.isMatch "")

end Constraint

end SeriesQuery.Query
