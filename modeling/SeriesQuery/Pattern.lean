import SeriesQuery.Pattern.Program
import SeriesQuery.Pattern.Reader
import SeriesQuery.Pattern.Size

/-!
# Regular expressions

A pattern is read from its text and made into a program. A text that is not well formed is no
pattern, nor is one that would become too large.
-/

namespace SeriesQuery

/-- A program with the address where it begins, and the names of the groups. -/
structure Pattern where
  program : Pattern.Program
  start : Nat
  groupNames : List (String × Nat)
deriving Repr

def Pattern.ofString? (text : String) : Option Pattern := do
  let (tree, groupNames) ← Pattern.readTree? text
  if tree.fits then
    let (start, program) := tree.program
    some ⟨program, start, groupNames⟩
  else none

end SeriesQuery
