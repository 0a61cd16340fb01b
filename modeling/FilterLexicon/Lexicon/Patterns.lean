import FilterLexicon.Failure
import FilterLexicon.Lexicon
import FilterLexicon.Pattern.Regex

/-!
The check of a lexicon's patterns. Operands of binary operators and values of the language that stand
between slashes have to be regular expressions; all other tokens stand for themselves.
-/

namespace FilterLexicon.Lexicon

/-- The tokens that may be patterns: operands in the order of their operators, then values. -/
def literals (lexicon : Lexicon) : List String :=
  lexicon.binary.toList.flatMap Prod.snd ++ lexicon.values

/-- Whether a token is a pattern whose body is not accepted. -/
def isRejected (accepts : String → Bool) (token : String) : Bool :=
  Token.isPattern token && !accepts (Token.body token)

/-- Fails with the first rejected pattern. -/
def checkPatternsWith (accepts : String → Bool) (lexicon : Lexicon) : Except Failure Unit :=
  match lexicon.literals.find? (isRejected accepts) with
  | some pattern => .error (.invalidPattern pattern)
  | none => .ok ()

/-- Fails with the first pattern that is no regular expression. -/
def checkPatterns (lexicon : Lexicon) : Except Failure Unit :=
  lexicon.checkPatternsWith Pattern.accepts

end FilterLexicon.Lexicon
