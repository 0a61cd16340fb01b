import FilterLexicon.Entries
import FilterLexicon.Text.Ascii
import FilterLexicon.Token

/-!
The lexicon of a filter language: which tokens are legal, what may follow them, and which operators
each attribute takes. The structural part is fixed; the attributes depend on the entities.
-/

namespace FilterLexicon

structure Lexicon where
  /-- Operators that test the record itself, each with an empty placeholder. -/
  nullary : Entries String := {}
  /-- Operators that test an attribute alone, each with an empty placeholder. -/
  unary : Entries String := {}
  /-- Operators that compare an attribute, each with the operands it takes. -/
  binary : Entries Operators := {}
  grouping : List String := []
  connectives : List String := []
  /-- The literals of the language. -/
  values : List String := []
  attributes : Entries Operators := {}
  deriving DecidableEq

namespace Lexicon

/-- Tokens with empty placeholders. -/
def placeholders (tokens : List String) : Entries String := ⟨tokens.map (·, "")⟩

/-- The fixed part of every lexicon, without attributes. -/
def structural : Lexicon :=
  let comparable := [Token.numberOperand, Token.quotedText]
  { nullary := placeholders [Token.hasImage, Token.hasNoImage, Token.isMain, Token.hasProperties,
      Token.hasConfigurator, Token.hasBlockPrice]
    unary := placeholders [Token.isTrue, Token.isFalse, Token.isNull]
    binary := ⟨[(Token.isIn, [Token.openParen]), (Token.greaterOrEqual, comparable),
      (Token.equal, comparable), (Token.notEqual, comparable), (Token.notLike, [Token.quotedText]),
      (Token.like, [Token.quotedText]), (Token.greater, comparable),
      (Token.lessOrEqual, comparable), (Token.less, comparable)]⟩
    grouping := [Token.openParen, Token.closeParen]
    connectives := [Token.and, Token.or]
    values := [Token.quotedText, Token.numberValue] }

/-- The operators of an attribute, whose name may be given in any ASCII case. -/
def operatorsFor (lexicon : Lexicon) (name : String) : Option Operators :=
  lexicon.attributes.get? (Text.upperAscii name)

/-- Whether two lexicons agree, tables without regard to order and lists with regard to it. -/
def sameAs (a b : Lexicon) : Bool :=
  a.nullary.sameAs b.nullary && a.unary.sameAs b.unary && a.binary.sameAs b.binary &&
    a.grouping == b.grouping && a.connectives == b.connectives && a.values == b.values &&
    a.attributes.sameAs b.attributes

end Lexicon
end FilterLexicon
