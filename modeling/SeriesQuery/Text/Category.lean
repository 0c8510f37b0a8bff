import SeriesQuery.Text.Category.Letter
import SeriesQuery.Text.Category.Other

/-!
# General categories

Every code point has one general category. Categories of a kind are put together under the first
letter of their names, and the code points without a character make a category too.
-/

namespace SeriesQuery.CharSet

def casedLetter : CharSet := unionAll [uppercaseLetter, lowercaseLetter, titlecaseLetter]

def letter : CharSet := unionAll [casedLetter, modifierLetter, otherLetter]

def mark : CharSet := unionAll [nonspacingMark, spacingMark, enclosingMark]

def number : CharSet := unionAll [decimalDigit, letterNumber, otherNumber]

def punctuation : CharSet :=
  unionAll [connectorPunctuation, dashPunctuation, openPunctuation, closePunctuation,
    initialPunctuation, finalPunctuation, otherPunctuation]

def symbol : CharSet := unionAll [mathSymbol, currencySymbol, modifierSymbol, otherSymbol]

def separator : CharSet := unionAll [spaceSeparator, lineSeparator, paragraphSeparator]

def unassigned : CharSet :=
  complement (unionAll [letter, mark, number, punctuation, symbol, separator, control, format,
    surrogate, privateUse])

def assigned : CharSet := unassigned.complement

def other : CharSet := unionAll [control, format, surrogate, privateUse, unassigned]

/-- The general categories under their names, in small letters and without blanks. -/
def categories : List (List String × CharSet) :=
  [(["any"], everything), (["ascii"], #[(0, 0x7f)]), (["assigned"], assigned),
    (["l", "letter"], letter), (["lc", "casedletter"], casedLetter),
    (["lu", "uppercaseletter"], uppercaseLetter), (["ll", "lowercaseletter"], lowercaseLetter),
    (["lt", "titlecaseletter"], titlecaseLetter), (["lm", "modifierletter"], modifierLetter),
    (["lo", "otherletter"], otherLetter), (["m", "mark", "combiningmark"], mark),
    (["mn", "nonspacingmark"], nonspacingMark), (["mc", "spacingmark"], spacingMark),
    (["me", "enclosingmark"], enclosingMark), (["n", "number"], number),
    (["nd", "decimalnumber", "digit"], decimalDigit), (["nl", "letternumber"], letterNumber),
    (["no", "othernumber"], otherNumber), (["p", "punctuation", "punct"], punctuation),
    (["pc", "connectorpunctuation"], connectorPunctuation),
    (["pd", "dashpunctuation"], dashPunctuation), (["ps", "openpunctuation"], openPunctuation),
    (["pe", "closepunctuation"], closePunctuation),
    (["pi", "initialpunctuation"], initialPunctuation),
    (["pf", "finalpunctuation"], finalPunctuation), (["po", "otherpunctuation"], otherPunctuation),
    (["s", "symbol"], symbol), (["sm", "mathsymbol"], mathSymbol),
    (["sc", "currencysymbol"], currencySymbol), (["sk", "modifiersymbol"], modifierSymbol),
    (["so", "othersymbol"], otherSymbol), (["z", "separator"], separator),
    (["zs", "spaceseparator"], spaceSeparator), (["zl", "lineseparator"], lineSeparator),
    (["zp", "paragraphseparator"], paragraphSeparator), (["c", "other"], other),
    (["cc", "control", "cntrl"], control), (["cf", "format"], format),
    (["co", "privateuse"], privateUse), (["cn", "unassigned"], unassigned)]

def named? (sets : List (List String × CharSet)) (name : String) : Option CharSet :=
  (sets.find? (·.1.contains name)).map Prod.snd

def ofCategory? (name : String) : Option CharSet := named? categories name

end SeriesQuery.CharSet
