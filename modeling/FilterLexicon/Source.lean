import FilterLexicon.Text.Ascii
import FilterLexicon.StorageType

/-!
Where attributes come from. A source is an entity together with the qualifier under which its fields
are exposed: the field `id` of an entity with qualifier `article` is the attribute `ARTICLE.ID`.
-/

namespace FilterLexicon

/-- An entity and the qualifier of its attributes. -/
structure Source where
  entity : String
  qualifier : String
  deriving DecidableEq

/-- The attribute name of one of the entity's fields. -/
def Source.attributeName (source : Source) (field : String) : String :=
  Text.upperAscii (source.qualifier ++ "." ++ field)

/-- A field together with where it comes from, all in their own spelling. -/
structure Column where
  entity : String
  qualifier : String
  field : String
  type : StorageType
  deriving DecidableEq

/-- The column that a field of a source becomes. -/
def Source.column (source : Source) (field : String) (type : StorageType) : Column :=
  { entity := source.entity, qualifier := source.qualifier, field, type }

end FilterLexicon
