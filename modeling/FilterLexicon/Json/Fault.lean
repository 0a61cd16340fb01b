import FilterLexicon.Text.Utf8
import FilterLexicon.Text.Quoted

/-!
Why a JSON text is refused, and where. While reading, a fault remembers how many bytes of the text
lie behind its place; once the whole text is known this becomes a line and a column.
-/

namespace FilterLexicon.Json

open Text (size Place placeAt)

/-- The kind of a value that stands where another kind is wanted. -/
inductive Found where
  | null
  | boolean (value : Bool)
  | integer (value : Int)
  | floating (text : String)
  | string (value : String)
  | sequence
  | map
  deriving DecidableEq

def Found.text : Found → String
  | null => "null"
  | boolean value => s!"boolean `{value}`"
  | integer value => s!"integer `{value}`"
  | floating text => s!"floating point `{text}`"
  | string value => s!"string {Text.quoted value}"
  | sequence => "sequence"
  | map => "map"

inductive Cause where
  | endInList
  | endInObject
  | endInString
  | endInValue
  | expectedColon
  | expectedListComma
  | expectedObjectComma
  | expectedWord
  | expectedValue
  | invalidEscape
  | invalidNumber
  | numberOutOfRange
  | controlCharacter
  | keyNotString
  | loneSurrogate
  | endOfEscape
  | trailingComma
  | trailingCharacters
  | invalidType (found : Found) (wanted : String)
  | missingField (name : String)
  | duplicateField (name : String)
  | invalidLength (length : Nat) (record : String) (fields : Nat)
  deriving DecidableEq

def Cause.text : Cause → String
  | endInList => "EOF while parsing a list"
  | endInObject => "EOF while parsing an object"
  | endInString => "EOF while parsing a string"
  | endInValue => "EOF while parsing a value"
  | expectedColon => "expected `:`"
  | expectedListComma => "expected `,` or `]`"
  | expectedObjectComma => "expected `,` or `\x7d`"
  | expectedWord => "expected ident"
  | expectedValue => "expected value"
  | invalidEscape => "invalid escape"
  | invalidNumber => "invalid number"
  | numberOutOfRange => "number out of range"
  | controlCharacter => "control character (\\u0000-\\u001F) found while parsing a string"
  | keyNotString => "key must be a string"
  | loneSurrogate => "lone leading surrogate in hex escape"
  | endOfEscape => "unexpected end of hex escape"
  | trailingComma => "trailing comma"
  | trailingCharacters => "trailing characters"
  | invalidType found wanted => s!"invalid type: {found.text}, expected {wanted}"
  | missingField name => s!"missing field `{name}`"
  | duplicateField name => s!"duplicate field `{name}`"
  | invalidLength length record fields =>
    s!"invalid length {length}, expected struct {record} with {fields} elements"

/-- A cause and the number of bytes behind its place. -/
structure Fault where
  cause : Cause
  left : Nat
  deriving DecidableEq

/-- A fault placed before the rest of the text. -/
def Fault.before (cause : Cause) (rest : List Char) : Fault := ⟨cause, size rest⟩

/-- A fault placed behind the first byte of the rest of the text, if there is one. -/
def Fault.behind (cause : Cause) (rest : List Char) : Fault := ⟨cause, size rest - 1⟩

/-- A refused text: the cause, and its line and column. -/
structure Error where
  cause : Cause
  place : Place
  deriving DecidableEq

def Error.message (e : Error) : String :=
  s!"{e.cause.text} at line {e.place.line} column {e.place.column}"

/-- The place of a fault in the whole text. -/
def Fault.inText (f : Fault) (text : String) : Error :=
  ⟨f.cause, placeAt text ((Text.utf8 text).length - f.left)⟩

end FilterLexicon.Json
