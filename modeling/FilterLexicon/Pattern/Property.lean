import FilterLexicon.Pattern.PropertyTable

/-!
Which names of character properties a pattern may use. Names are compared loosely: letter case,
blanks, underscores, hyphens and a leading `is` do not count.
-/

namespace FilterLexicon.Pattern

/-- The letters of a name that count, behind its leading `is`. -/
def looseTail (name : List Char) : List Char :=
  (name.filter fun c => c ≠ ' ' && c ≠ '_' && c ≠ '-' && c.toNat < 128).map Char.toLower

/-- A name in the form in which the tables hold it. `isc` names a property of its own, and not the
category `c`. -/
def looseName (name : List Char) : String :=
  String.ofList <|
    match name with
    | i :: s :: rest =>
      if i.toLower = 'i' && s.toLower = 's' then
        if looseTail rest = ['c'] then ['i', 's', 'c'] else looseTail rest
      else looseTail name
    | _ => looseTail name

/-- Whether a name stands for a class of characters by itself. -/
def isClassName (name : List Char) : Bool :=
  let name := looseName name
  binaryProperties.contains name || generalCategories.contains name || scripts.contains name

/-- Whether a property has a value. -/
def isPropertyValue (property value : List Char) : Bool :=
  let value := looseName value
  match looseName property with
  | "gc" | "generalcategory" => generalCategories.contains value
  | "sc" | "script" | "scx" | "scriptextensions" => scripts.contains value
  | "age" => ages.contains value
  | "gcb" | "graphemeclusterbreak" => clusterBreaks.contains value
  | "wb" | "wordbreak" => wordBreaks.contains value
  | "sb" | "sentencebreak" => sentenceBreaks.contains value
  | _ => false

/-- The parts of a text around the first occurrence of a separator. -/
def splitAtFirst (separator : List Char) : List Char → Option (List Char × List Char)
  | [] => none
  | c :: rest =>
    if separator.isPrefixOf (c :: rest) then some ([], (c :: rest).drop separator.length)
    else (splitAtFirst separator rest).map fun p => (c :: p.1, p.2)

/-- Whether the text between the braces of a property escape names a class of characters. -/
def isPropertyName (text : List Char) : Bool :=
  match [['!', '='], [':'], ['=']].findSome? (splitAtFirst · text) with
  | some (property, value) => isPropertyValue property value
  | none => isClassName text

end FilterLexicon.Pattern
