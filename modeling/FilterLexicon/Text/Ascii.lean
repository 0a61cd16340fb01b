/-!
Letter case of ASCII. Attribute names are compared after writing the letters a to z in upper case;
every other character, accented letters included, keeps its spelling.
-/

namespace FilterLexicon.Text

/-- A text with its letters a to z written in upper case. -/
def upperAscii (s : String) : String := String.ofList (s.toList.map Char.toUpper)

theorem toList_upperAscii (s : String) : (upperAscii s).toList = s.toList.map Char.toUpper := by
  simp [upperAscii]

end FilterLexicon.Text
