import SeriesQuery.Text.Glyphless

/-!
# Quoted text

Text between double quotes. The quote and the backslash are escaped, tabs, line ends and the null
character have letters of their own, and any other character without a glyph is written as its
code point in hexadecimal.
-/

namespace SeriesQuery.Text

/-- Lower case hexadecimal digits without leading zeros. -/
def hexDigits (n : Nat) : List Char := Nat.toDigits 16 n

def escape (c : Char) : List Char :=
  if c = '\x00' then ['\\', '0']
  else if c = '\t' then ['\\', 't']
  else if c = '\r' then ['\\', 'r']
  else if c = '\n' then ['\\', 'n']
  else if c = '"' then ['\\', '"']
  else if c = '\\' then ['\\', '\\']
  else if CharSet.glyphless.contains c then
    ['\\', 'u', '\x7b'] ++ hexDigits c.toNat ++ ['\x7d']
  else [c]

def quote (s : String) : String := String.ofList ('"' :: s.toList.flatMap escape ++ ['"'])

end SeriesQuery.Text
