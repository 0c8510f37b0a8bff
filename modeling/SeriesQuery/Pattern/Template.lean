import SeriesQuery.Pattern.Match

/-!
# Replacement templates

A template refers to the groups of a match by number or name after a dollar sign, in braces where
the name would run into what follows. A group that is missing stands for nothing, two dollar signs
for one, and any other dollar sign for itself.
-/

namespace SeriesQuery.Pattern

inductive TemplatePart
  | char (c : Char)
  | group (reference : String)
deriving Repr, DecidableEq

namespace TemplatePart

def isReferenceChar (c : Char) : Bool := c.isAlphanum || c = '_'

def read : Nat → List Char → List TemplatePart
  | 0, cs => cs.map char
  | _ + 1, [] => []
  | fuel + 1, '$' :: '$' :: rest => char '$' :: read fuel rest
  | fuel + 1, '$' :: '\x7b' :: rest =>
    match rest.span (· != '\x7d') with
    | (name, _ :: rest) => group (String.ofList name) :: read fuel rest
    | (_, []) => char '$' :: read fuel ('\x7b' :: rest)
  | fuel + 1, '$' :: rest =>
    match rest.span isReferenceChar with
    | ([], _) => char '$' :: read fuel rest
    | (name, rest) => group (String.ofList name) :: read fuel rest
  | fuel + 1, c :: rest => char c :: read fuel rest

/-- The number that a reference names, if it consists of digits and perhaps a plus sign. -/
def number? (reference : String) : Option Nat :=
  let digits := match reference.toList with
    | '+' :: digits => digits
    | digits => digits
  if digits.isEmpty || !digits.all Char.isDigit then none
  else some (digits.foldl (fun n c => 10 * n + (c.toNat - '0'.toNat)) 0)

def expand (c : Captures) : TemplatePart → String
  | char x => x.toString
  | group reference =>
    let text := match number? reference with
      | some i => c.number? i
      | none => c.name? reference
    text.getD ""

end TemplatePart

def Captures.expand (c : Captures) (template : String) : String :=
  String.join ((TemplatePart.read template.length template.toList).map (·.expand c))

end SeriesQuery.Pattern
