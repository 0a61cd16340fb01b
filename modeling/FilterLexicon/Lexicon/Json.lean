import FilterLexicon.Json.Record
import FilterLexicon.Json.Value
import FilterLexicon.Lexicon

/-!
The JSON form of a lexicon, which the lexer of the language reads: an object with seven members, all
of them required, in which tables are objects in their own order.
-/

namespace FilterLexicon.Lexicon

open Json (Field Format Reader Value)

def textsJson (d : Entries String) : Value := .object (d.toList.map fun e => (e.1, .string e.2))

def operatorsJson (d : Entries Operators) : Value :=
  .object (d.toList.map fun e => (e.1, .strings e.2))

def toJson (lexicon : Lexicon) : Value :=
  .object
    [("nullaryOperators", textsJson lexicon.nullary),
      ("unaryOperators", textsJson lexicon.unary),
      ("binaryOperators", operatorsJson lexicon.binary),
      ("subOperators", .strings lexicon.grouping),
      ("boolOperators", .strings lexicon.connectives),
      ("values", .strings lexicon.values),
      ("attributes", operatorsJson lexicon.attributes)]

/-- The parts of a lexicon that have been read. -/
structure Draft where
  nullary : Option (Entries String) := none
  unary : Option (Entries String) := none
  binary : Option (Entries Operators) := none
  grouping : Option (List String) := none
  connectives : Option (List String) := none
  values : Option (List String) := none
  attributes : Option (Entries Operators) := none

def textsReader : Reader (Entries String) := (Reader.object Reader.string).map Entries.ofList

def listReader : Reader (List String) := Reader.list Reader.string

def operatorsReader : Reader (Entries Operators) := (Reader.object listReader).map Entries.ofList

/-- A part, or the name of the member that is missing. -/
def require {α : Type} (name : String) : Option α → Except String α
  | some a => .ok a
  | none => .error name

def Draft.finish (d : Draft) : Except String Lexicon := do
  return {
    nullary := ← require "nullaryOperators" d.nullary
    unary := ← require "unaryOperators" d.unary
    binary := ← require "binaryOperators" d.binary
    grouping := ← require "subOperators" d.grouping
    connectives := ← require "boolOperators" d.connectives
    values := ← require "values" d.values
    attributes := ← require "attributes" d.attributes }

/-- How a lexicon is read. -/
def format : Format Draft Lexicon where
  name := "GrammarDescriptor"
  blank := {}
  fields :=
    [{ name := "nullaryOperators", given := (·.nullary.isSome),
       read := textsReader.map fun x d => { d with nullary := some x } },
     { name := "unaryOperators", given := (·.unary.isSome),
       read := textsReader.map fun x d => { d with unary := some x } },
     { name := "binaryOperators", given := (·.binary.isSome),
       read := operatorsReader.map fun x d => { d with binary := some x } },
     { name := "subOperators", given := (·.grouping.isSome),
       read := listReader.map fun x d => { d with grouping := some x } },
     { name := "boolOperators", given := (·.connectives.isSome),
       read := listReader.map fun x d => { d with connectives := some x } },
     { name := "values", given := (·.values.isSome),
       read := listReader.map fun x d => { d with values := some x } },
     { name := "attributes", given := (·.attributes.isSome),
       read := operatorsReader.map fun x d => { d with attributes := some x } }]
  finish := Draft.finish

def ofJson (text : String) : Except Json.Error Lexicon := format.reader.parse text

end FilterLexicon.Lexicon
