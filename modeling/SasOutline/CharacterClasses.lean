import SasOutline.CharacterRanges

/-!
# Character classes of program text

Two notions of a word live side by side in the scanner.  A statement keyword
must not touch a letter, a number or an underscore; a word boundary inside a
searched pattern looks at a class that also holds marks, connecting punctuation
and the join controls.  The keyword rule follows Unicode 17 and the pattern rule
Unicode 16, so a letter that is new in Unicode 17 stops a keyword but leaves a
word boundary.  On ASCII text the two notions agree.
-/

namespace SasOutline

def isWhiteSpace (ch : Char) : Bool :=
  inRanges ch.toNat whiteSpaceRanges

def isAlphabetic (ch : Char) : Bool :=
  inRanges ch.toNat alphabeticRanges

def isDecimalDigit (ch : Char) : Bool :=
  inRanges ch.toNat decimalDigitRanges

/-- Letters and numbers of every script. -/
def isAlphanumeric (ch : Char) : Bool :=
  isAlphabetic ch || isDecimalDigit ch || inRanges ch.toNat otherNumberRanges

/-- Characters that glue a keyword to its neighbour. -/
def isKeywordGlue (ch : Char) : Bool :=
  isAlphanumeric ch || ch == '_'

/-- Characters that count as part of a word where a pattern asks for a word
boundary: the word characters of Unicode 16, which are those of Unicode 17
without its additions. -/
def isWordCharacter (ch : Char) : Bool :=
  (isAlphabetic ch || isDecimalDigit ch || inRanges ch.toNat markRanges ||
    inRanges ch.toNat connectorRanges || inRanges ch.toNat joinControlRanges) &&
    !inRanges ch.toNat newestWordRanges

def trimEnd (text : List Char) : List Char :=
  (text.reverse.dropWhile isWhiteSpace).reverse

/-- The ASCII letter that `ch` equals up to simple case folding, in lower case.
The long s and the kelvin sign are the only characters outside ASCII that fold
onto an ASCII letter. -/
def foldedLetter (ch : Char) : Char :=
  if ch = '\u017F' then 's'
  else if ch = '\u212A' then 'k'
  else ch.toLower

end SasOutline
