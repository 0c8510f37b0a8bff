import SeriesQuery.Text.Age
import SeriesQuery.Text.Break
import SeriesQuery.Text.Property

/-!
# Character properties in patterns

A class may be named by a property, a general category or a script, or by the value of a property
that has many. In names case, blanks, underscores and hyphens do not count, and a leading `is` may
be added.
-/

namespace SeriesQuery.Pattern

def propertyKey (name : List Char) : String :=
  let isAdded := match name with
    | i :: s :: _ => (i = 'i' || i = 'I') && (s = 's' || s = 'S')
    | _ => false
  let key := ((if isAdded then name.drop 2 else name).filter fun c =>
    c.toNat < 0x80 && c != ' ' && c != '_' && c != '-').map Char.toLower
  if isAdded && key = ['c'] then "isc" else String.ofList key

/-- Names of categories that are also the names of properties without a set. -/
def categoryNames : List String := ["cf", "sc", "lc"]

def ofSingleName? (name : List Char) : Option CharSet :=
  let key := propertyKey name
  (if categoryNames.contains key then none else CharSet.ofProperty? key).or
    ((CharSet.ofCategory? key).or (CharSet.ofScript? key))

def ofPropertyValue? (property value : List Char) : Option CharSet :=
  let value := propertyKey value
  match propertyKey property with
  | "generalcategory" | "gc" => CharSet.ofCategory? value
  | "script" | "sc" => CharSet.ofScript? value
  | "scriptextensions" | "scx" => CharSet.ofScriptExtension? value
  | "age" => CharSet.ofEdition? value
  | "graphemeclusterbreak" | "gcb" => CharSet.named? CharSet.graphemeBreaks value
  | "wordbreak" | "wb" => CharSet.named? CharSet.wordBreaks value
  | "sentencebreak" | "sb" => CharSet.named? CharSet.sentenceBreaks value
  | _ => none

/-- Splits a text at the first place where it goes on with another. -/
def splitAt? (separator : List Char) : List Char → Option (List Char × List Char)
  | [] => none
  | c :: cs =>
    if separator.isPrefixOf (c :: cs) then some ([], (c :: cs).drop separator.length)
    else (splitAt? separator cs).map fun (before, after) => (c :: before, after)

/-- The set that a text in braces names: a property and its value between a separator, or a single
name. -/
def ofProperty? (text : List Char) : Option CharSet :=
  match ["!=", ":", "="].findSome? fun separator => splitAt? separator.toList text with
  | some (property, value) => ofPropertyValue? property value
  | none => ofSingleName? text

end SeriesQuery.Pattern
