/-!
The words of the filter language: operators, punctuation, connectives and the patterns of literals.
A pattern is written between two slashes; a token without them stands for itself.
-/

namespace FilterLexicon

/-- The operators of one attribute, in order. -/
abbrev Operators := List String

namespace Token

def greater : String := ">"
def greaterOrEqual : String := ">="
def less : String := "<"
def lessOrEqual : String := "<="
def equal : String := "="
def notEqual : String := "!="
def like : String := "~"
def notLike : String := "!~"
def isIn : String := "IN"

def isTrue : String := "ISTRUE"
def isFalse : String := "ISFALSE"
def isNull : String := "ISNULL"

def hasImage : String := "HASIMAGE"
def hasNoImage : String := "HASNOIMAGE"
def isMain : String := "ISMAIN"
def hasProperties : String := "HASPROPERTIES"
def hasConfigurator : String := "HASCONFIGURATOR"
def hasBlockPrice : String := "HASBLOCKPRICE"

def openParen : String := "("
def closeParen : String := ")"

def and : String := "AND"
def or : String := "OR"

/-- A number to the right of a comparison. -/
def numberOperand : String := "/(^-\x7b0,1\x7d[0-9.]+$)/"

/-- A text between double quotes. -/
def quotedText : String := "/\"(.*?)\"/"

/-- A number among the values of the language. -/
def numberValue : String := "/^-\x7b0,1\x7d[0-9.]+$/"

/-- Every token that is not a pattern: comparisons, tests of an attribute, tests of the whole
record, punctuation and connectives. -/
def words : List String :=
  [greater, greaterOrEqual, less, lessOrEqual, equal, notEqual, like, notLike, isIn,
    isTrue, isFalse, isNull,
    hasImage, hasNoImage, isMain, hasProperties, hasConfigurator, hasBlockPrice,
    openParen, closeParen, and, or]

/-- The patterns of literals. -/
def patterns : List String := [numberOperand, quotedText, numberValue]

/-- The operators of numbers. -/
def numeric : Operators :=
  [greater, greaterOrEqual, less, lessOrEqual, equal, notEqual, isNull]

/-- The operators of texts. -/
def textual : Operators := [equal, like, notLike, isIn, notEqual, isNull]

/-- The operators of truth values. -/
def truth : Operators := [isTrue, isFalse, isNull]

/-- The operators of dates; a date is never compared for being different. -/
def temporal : Operators := [greater, greaterOrEqual, less, lessOrEqual, equal, isNull]

/-- What stands between the slashes of a pattern, if it has both. -/
def body? (pattern : String) : Option (List Char) :=
  match pattern.toList with
  | '/' :: rest => if rest.getLast? = some '/' then some rest.dropLast else none
  | _ => none

/-- A pattern without its slashes; a token that lacks one of them is left as it is. -/
def body (pattern : String) : String := ((body? pattern).map String.ofList).getD pattern

/-- Whether a token is a pattern, which shows in its body having fewer bytes. -/
def isPattern (token : String) : Bool := (body token).utf8ByteSize != token.utf8ByteSize

end Token
end FilterLexicon
