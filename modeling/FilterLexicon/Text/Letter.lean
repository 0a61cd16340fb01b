import FilterLexicon.Text.Case
import FilterLexicon.Text.LetterTable

/-!
Classes of characters that names and blanks are made of.
-/

namespace FilterLexicon.Text

def isLetter (c : Char) : Bool :=
  if isAscii c then c.isAlpha else inRanges alphabeticRanges c.toNat

def isNumeral (c : Char) : Bool :=
  if isAscii c then c.isDigit else inRanges numeralRanges c.toNat

/-- The characters with the property White_Space. -/
def isSpace (c : Char) : Bool :=
  inRanges [(9, 13), (32, 32), (133, 133), (160, 160), (5760, 5760), (8192, 8202), (8232, 8233),
    (8239, 8239), (8287, 8287), (12288, 12288)] c.toNat

end FilterLexicon.Text
