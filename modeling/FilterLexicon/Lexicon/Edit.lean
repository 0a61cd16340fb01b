import FilterLexicon.Lexicon.Json

/-!
Edits of a lexicon: small changes that are applied in order. An edit may replace the whole lexicon by
one read from JSON, or refuse to go on; then the edits as a whole fail.
-/

namespace FilterLexicon.Lexicon

inductive Edit where
  | insertNullary (key value : String)
  | insertUnary (key value : String)
  | insertBinary (key : String) (value : Operators)
  | insertAttribute (key : String) (value : Operators)
  | removeNullary (key : String)
  | removeUnary (key : String)
  | removeBinary (key : String)
  | removeAttribute (key : String)
  | clearAttributes
  | pushGrouping (token : String)
  | pushConnective (token : String)
  | pushValue (token : String)
  | dropGrouping (token : String)
  | dropConnective (token : String)
  | dropValue (token : String)
  /-- Replaces the lexicon by one read from JSON. -/
  | replace (text : String)
  /-- Refuses with a message. -/
  | refuse (message : String)

namespace Edit

/-- The changed lexicon, or an error message. -/
def apply (edit : Edit) (l : Lexicon) : Except String Lexicon :=
  match edit with
  | insertNullary k v => .ok { l with nullary := l.nullary.insert k v }
  | insertUnary k v => .ok { l with unary := l.unary.insert k v }
  | insertBinary k v => .ok { l with binary := l.binary.insert k v }
  | insertAttribute k v => .ok { l with attributes := l.attributes.insert k v }
  | removeNullary k => .ok { l with nullary := l.nullary.erase k }
  | removeUnary k => .ok { l with unary := l.unary.erase k }
  | removeBinary k => .ok { l with binary := l.binary.erase k }
  | removeAttribute k => .ok { l with attributes := l.attributes.erase k }
  | clearAttributes => .ok { l with attributes := {} }
  | pushGrouping t => .ok { l with grouping := l.grouping ++ [t] }
  | pushConnective t => .ok { l with connectives := l.connectives ++ [t] }
  | pushValue t => .ok { l with values := l.values ++ [t] }
  | dropGrouping t => .ok { l with grouping := l.grouping.filter (· ≠ t) }
  | dropConnective t => .ok { l with connectives := l.connectives.filter (· ≠ t) }
  | dropValue t => .ok { l with values := l.values.filter (· ≠ t) }
  | replace text => (Lexicon.ofJson text).mapError Json.Error.message
  | refuse message => .error message

/-- Applies edits in order. -/
def applyAll : List Edit → Lexicon → Except String Lexicon
  | [], l => .ok l
  | edit :: rest, l =>
    match edit.apply l with
    | .ok l => applyAll rest l
    | .error message => .error message

end Edit
end FilterLexicon.Lexicon
