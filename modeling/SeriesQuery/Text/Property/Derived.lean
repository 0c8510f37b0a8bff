import SeriesQuery.Text.Category
import SeriesQuery.Text.Property.Listed

/-!
# Properties put together from others

Sets of characters that follow from categories and from what is given character by character.
-/

namespace SeriesQuery.CharSet

-- Marks that extend the character before them, the characters that stand for themselves, and those
-- that nobody sees.

def graphemeExtend : CharSet := unionAll [nonspacingMark, enclosingMark, otherGraphemeExtend]

def graphemeBase : CharSet :=
  complement (unionAll [other, lineSeparator, paragraphSeparator, graphemeExtend])

/-- Format characters that are seen. -/
def visibleFormat : CharSet :=
  unionAll [whiteSpace, prependedConcatenationMark, #[(0xfff9, 0xfffb), (0x13430, 0x1343f)]]

def defaultIgnorable : CharSet :=
  (unionAll [otherDefaultIgnorable, format, variationSelector]).difference visibleFormat

-- Letters by use: alphabetic, small, capital and mathematical ones, and those of which identifiers
-- consist.

def alphabetic : CharSet := unionAll [letter, letterNumber, otherAlphabetic]

def lowercase : CharSet := lowercaseLetter.union otherLowercase

def uppercase : CharSet := uppercaseLetter.union otherUppercase

def cased : CharSet := unionAll [lowercase, uppercase, titlecaseLetter]

def math : CharSet := mathSymbol.union otherMath

/-- Letters, marks, decimal digits, connecting punctuation and joiners. -/
def wordChar : CharSet :=
  unionAll [alphabetic, mark, decimalDigit, connectorPunctuation, joinControl]

def patternChar : CharSet := patternSyntax.union patternWhiteSpace

def idStart : CharSet := (unionAll [letter, letterNumber, otherIdStart]).difference patternChar

def idContinue : CharSet :=
  (unionAll [idStart, nonspacingMark, spacingMark, decimalDigit, connectorPunctuation,
    otherIdContinue]).difference patternChar

/-- Characters whose compatible forms break an identifier in which they are not first. -/
def unstableContinue : CharSet := #[
  (0x37a, 0x37a), (0x309b, 0x309c), (0xfc5e, 0xfc63), (0xfdfa, 0xfdfb), (0xfe70, 0xfe70),
  (0xfe72, 0xfe72), (0xfe74, 0xfe74), (0xfe76, 0xfe76), (0xfe78, 0xfe78), (0xfe7a, 0xfe7a),
  (0xfe7c, 0xfe7c), (0xfe7e, 0xfe7e)]

/-- Characters whose compatible forms break an identifier that they begin. -/
def unstableStart : CharSet :=
  unstableContinue.union #[(0xe33, 0xe33), (0xeb3, 0xeb3), (0xff9e, 0xff9f)]

def xidStart : CharSet := idStart.difference unstableStart

def xidContinue : CharSet := idContinue.difference unstableContinue

-- The latest edition of the standard has letters and numbers that classes of characters do not have.
-- They may be used in names.

def recentAlphabetic : CharSet := #[
  (0x88f, 0x88f), (0xc5c, 0xc5c), (0xcdc, 0xcdc), (0xa7ce, 0xa7cf), (0xa7d2, 0xa7d2),
  (0xa7d4, 0xa7d4), (0xa7f1, 0xa7f1), (0x10940, 0x10959), (0x10ec5, 0x10ec7), (0x10efa, 0x10efb),
  (0x11b60, 0x11b67), (0x11db0, 0x11ddb), (0x16ea0, 0x16eb8), (0x16ebb, 0x16ed3),
  (0x16ff2, 0x16ff6), (0x187f8, 0x187ff), (0x18d09, 0x18d1e), (0x18d80, 0x18df2),
  (0x1e6c0, 0x1e6de), (0x1e6e0, 0x1e6f5), (0x1e6fe, 0x1e6ff), (0x2b73a, 0x2b73f),
  (0x2cea2, 0x2cead), (0x323b0, 0x33479)]

def recentNumber : CharSet := #[(0x11de0, 0x11de9), (0x16ff4, 0x16ff6)]

def nameStart : CharSet := unionAll [alphabetic, recentAlphabetic]

def nameChar : CharSet := unionAll [nameStart, number, recentNumber]

end SeriesQuery.CharSet
