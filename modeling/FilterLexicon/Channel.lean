import FilterLexicon.Text.Case

/-!
Channels: the names under which handlers are addressed. The channel of a type does not depend on the
letter case of the type's name.
-/

namespace FilterLexicon.Channel

/-- The channel of the filters. -/
def filters : String := "Grammar_FilterGrammar"

/-- The channel of a type: its name in lower case, with the first letter in upper case, behind a
fixed beginning. -/
def ofType (name : String) : String :=
  "Grammar_Attributes_Type_" ++ Text.capitalize (Text.lower name)

end FilterLexicon.Channel
