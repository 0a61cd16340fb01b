import FilterLexicon.Json.Record
import FilterLexicon.Settings

/-!
The JSON form of settings, and why settings cannot be loaded. Sources and requests are required
members; the others have defaults.
-/

namespace FilterLexicon

open Json (Field Format Reader Value)

namespace Source

def toJson (source : Source) : Value :=
  .object [("entity", .string source.entity), ("prefix", .string source.qualifier)]

/-- The parts of a source that have been read. -/
structure Draft where
  entity : Option String := none
  qualifier : Option String := none

def Draft.finish (d : Draft) : Except String Source :=
  match d.entity, d.qualifier with
  | none, _ => .error "entity"
  | some _, none => .error "prefix"
  | some entity, some qualifier => .ok { entity, qualifier }

/-- How a source is read. -/
def format : Format Draft Source where
  name := "EntitySource"
  blank := {}
  fields :=
    [{ name := "entity", given := (·.entity.isSome),
       read := Reader.string.map fun x d => { d with entity := some x } },
     { name := "prefix", given := (·.qualifier.isSome),
       read := Reader.string.map fun x d => { d with qualifier := some x } }]
  finish := Draft.finish

end Source

namespace Settings

def toJson (settings : Settings) : Value :=
  .object
    [("entities", .list (settings.sources.map Source.toJson)),
      ("attributes", .strings settings.requests),
      ("strictCollisions", .boolean settings.strict),
      ("customTypes", .object (settings.customTypes.toList.map fun e => (e.1, .strings e.2))),
      ("fields", settings.catalog.toJson)]

/-- The parts of settings that have been read. -/
structure Draft where
  sources : Option (List Source) := none
  requests : Option (List String) := none
  strict : Option Bool := none
  customTypes : Option (Index Operators) := none
  catalog : Option Catalog := none

def Draft.finish (d : Draft) : Except String Settings :=
  match d.sources, d.requests with
  | none, _ => .error "entities"
  | some _, none => .error "attributes"
  | some sources, some requests =>
    .ok {
      sources, requests
      strict := d.strict.getD false
      customTypes := d.customTypes.getD {}
      catalog := d.catalog.getD {} }

/-- How settings are read. -/
def format : Format Draft Settings where
  name := "GrammarConfig"
  blank := {}
  fields :=
    [{ name := "entities", given := (·.sources.isSome),
       read := (Reader.list Source.format.reader).map fun x d => { d with sources := some x } },
     { name := "attributes", given := (·.requests.isSome),
       read := (Reader.list Reader.string).map fun x d => { d with requests := some x } },
     { name := "strictCollisions", given := (·.strict.isSome),
       read := Reader.boolean.map fun x d => { d with strict := some x } },
     { name := "customTypes", given := (·.customTypes.isSome),
       read := (Reader.object (Reader.list Reader.string)).map
         fun x d => { d with customTypes := some (Index.ofList x) } },
     { name := "fields", given := (·.catalog.isSome),
       read := Catalog.reader.map fun x d => { d with catalog := some x } }]
  finish := Draft.finish

end Settings

/-- Why settings cannot be loaded. -/
inductive LoadError where
  | missing (path : String)
  | unreadable (path reason : String)
  /-- A text that is not the JSON form of settings, with the path of its file. -/
  | refused (path : Option String) (error : Json.Error)
  deriving DecidableEq

def LoadError.message : LoadError → String
  | missing path => s!"config error: config file does not exist: {path}"
  | unreadable path reason => s!"config error: cannot read config file {path}: {reason}"
  | refused none error => s!"config error: cannot parse JSON config: {error.message}"
  | refused (some path) error =>
    s!"config error: {path}: cannot parse JSON config: {error.message}"

namespace Settings

def ofJson (text : String) : Except LoadError Settings :=
  (format.reader.parse text).mapError (LoadError.refused none)

end Settings
end FilterLexicon
