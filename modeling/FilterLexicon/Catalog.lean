import FilterLexicon.Entries
import FilterLexicon.Index
import FilterLexicon.StorageType
import FilterLexicon.Json.Reader
import FilterLexicon.Json.Value

/-!
The catalog of entities: for each entity its fields with their types, in the order in which they were
declared. A lookup is anything that answers for an entity with its fields or with an error message;
a catalog gives one.
-/

namespace FilterLexicon

/-- The fields of an entity. -/
abbrev Fields := Entries StorageType

/-- Finds the fields of an entity, or says why it cannot. -/
abbrev Lookup := String → Except String Fields

/-- The fields of rows of names and type names; a repeated field keeps its first place and takes its
last type. -/
def fieldsOf (rows : List (String × String)) : Fields :=
  Entries.ofList (rows.map fun row => (row.1, StorageType.ofName row.2))

/-- Entities with their fields, in the order of their names' bytes. -/
structure Catalog where
  entities : Index Fields := {}
  deriving DecidableEq

namespace Catalog

/-- Sets the fields of an entity, in place of those it had. -/
def insert (catalog : Catalog) (entity : String) (rows : List (String × String)) : Catalog :=
  ⟨catalog.entities.insert entity (fieldsOf rows)⟩

/-- The catalog of a table of entities and rows; later rows of an entity replace earlier ones. -/
def ofTable (table : List (String × List (String × String))) : Catalog :=
  ⟨Index.ofList (table.map fun row => (row.1, fieldsOf row.2))⟩

def entityNames (catalog : Catalog) : List String := catalog.entities.keys

def lookup (catalog : Catalog) : Lookup := fun entity =>
  match catalog.entities.get? entity with
  | some fields => .ok fields
  | none => .error s!"no field metadata for entity {entity}"

/-- Whether two catalogs have the same entities with the same fields, the fields in any order. -/
def sameAs (a b : Catalog) : Bool := a.entities.sameBy Entries.sameAs b.entities

/-- The fields of an entity as a JSON object. -/
def fieldsJson (fields : Fields) : Json.Value :=
  .object (fields.toList.map fun f => (f.1, .string f.2.name))

def toJson (catalog : Catalog) : Json.Value :=
  .object (catalog.entities.toList.map fun e => (e.1, fieldsJson e.2))

/-- Reads the type of a field. -/
def typeReader : Json.Reader StorageType := Json.Reader.string.map StorageType.ofName

/-- Reads an object of entities, each an object of fields. -/
def reader : Json.Reader Catalog :=
  (Json.Reader.object ((Json.Reader.object typeReader).map Entries.ofList)).map
    fun members => ⟨Index.ofList members⟩

def ofJson (text : String) : Except Json.Error Catalog := reader.parse text

end Catalog
end FilterLexicon
