import SasOutline.CharacterRanges
import SasOutline.CaseTables

/-!
# Upper and lower case of a text

Case mapping follows the full Unicode mappings: one character may become
several, and a capital sigma at the end of a word becomes the final form of the
small letter.  All other characters are mapped without looking at their
neighbours.
-/

namespace SasOutline

def upperImage (ch : Char) : List Char :=
  match upperExpansions.lookup ch.toNat with
  | some image => image.map Char.ofNat
  | none => [((CaseRun.image? ch.toNat upperRuns).map Char.ofNat).getD ch]

def lowerImage (ch : Char) : List Char :=
  match lowerExpansions.lookup ch.toNat with
  | some image => image.map Char.ofNat
  | none => [((CaseRun.image? ch.toNat lowerRuns).map Char.ofNat).getD ch]

def isCased (ch : Char) : Bool :=
  inRanges ch.toNat casedRanges

def isCaseIgnorable (ch : Char) : Bool :=
  inRanges ch.toNat caseIgnorableRanges

/-- The first character that case mapping does not ignore is a letter with
case. -/
def opensWithCased (text : List Char) : Bool :=
  match text.dropWhile isCaseIgnorable with
  | [] => false
  | ch :: _ => isCased ch

/-- A capital sigma ends a word when a cased letter precedes it and none
follows.  `before` lists the preceding characters, nearest first. -/
def smallSigma (before after : List Char) : Char :=
  if opensWithCased before && !opensWithCased after then 'ς' else 'σ'

def lowerCharacters (before : List Char) : List Char → List Char
  | [] => []
  | ch :: after =>
      (if ch = 'Σ' then [smallSigma before after] else lowerImage ch) ++
        lowerCharacters (ch :: before) after

def upperCase (text : String) : String :=
  String.ofList (text.toList.flatMap upperImage)

def lowerCase (text : String) : String :=
  String.ofList (lowerCharacters [] text.toList)

/-- Equality up to the case of ASCII letters. -/
def equalIgnoringCase (left right : String) : Bool :=
  left.toList.map Char.toLower == right.toList.map Char.toLower

end SasOutline
