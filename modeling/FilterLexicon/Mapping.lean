import FilterLexicon.Catalog
import FilterLexicon.Handlers

/-!
The mapping from attributes to operators. The columns of all sources are collected under their
attribute names; a requested attribute then takes the operators of its column's type, which come from
the resolvers if the type has none of its own.
-/

namespace FilterLexicon

/-- What happens when two columns share an attribute name. -/
inductive Collisions where
  /-- The later column counts. -/
  | lastWins
  /-- No two columns may share a name. -/
  | strict
  deriving DecidableEq

/-- Attribute names with their columns. -/
abbrev Columns := Entries Column

namespace Columns

/-- Adds a column under its attribute name. -/
def add (collisions : Collisions) (columns : Columns) (name : String) (column : Column) :
    Run Columns :=
  match columns.get? name, collisions with
  | some earlier, .strict => Run.fail (.collision name earlier.entity column.entity)
  | some earlier, .lastWins => do
    Run.note (.replaced name earlier.entity column.entity)
    return columns.insert name column
  | none, _ => pure (columns.insert name column)

/-- Adds the fields of a source, in order. -/
def addFields (collisions : Collisions) (source : Source) (columns : Columns) :
    List (String × StorageType) → Run Columns
  | [] => pure columns
  | (field, type) :: rest => do
    let columns ← columns.add collisions (source.attributeName field) (source.column field type)
    addFields collisions source columns rest

/-- Adds the sources in order, each with the fields that a lookup finds for its entity. -/
def addSources (lookup : Lookup) (collisions : Collisions) (columns : Columns) :
    List Source → Run Columns
  | [] => pure columns
  | source :: rest => do
    let fields ← Run.ask [.lookup source.entity] (.lookup source.entity) (lookup source.entity)
    Run.note (.merging source.entity source.qualifier fields.size)
    let columns ← columns.addFields collisions source fields.toList
    addSources lookup collisions columns rest

/-- The columns of all sources. -/
def collect (lookup : Lookup) (collisions : Collisions) (sources : List Source) : Run Columns :=
  addSources lookup collisions {} sources

end Columns

namespace Handlers

/-- The operators of a column that is exposed under an attribute name. -/
def operatorsOf (handlers : Handlers) (name : String) (column : Column) : Run Operators :=
  match column.type.operators? with
  | some operators => pure operators
  | none => do
    match ← handlers.resolve { subject := name, column } with
    | some operators => return operators
    | none => Run.fail (.unresolvedType column.type.name)

/-- Adds the requested attributes in order, each with the operators of its column. -/
def addRequests (handlers : Handlers) (columns : Columns) (attributes : Entries Operators) :
    List String → Run (Entries Operators)
  | [] => pure attributes
  | request :: rest => do
    let name := Text.upperAscii request
    match columns.get? name with
    | none => Run.fail (.unknownAttribute name)
    | some column =>
      let operators ← handlers.operatorsOf name column
      addRequests handlers columns (attributes.insert name operators) rest

end Handlers

/-- What a lexicon is made of: the sources of its attributes, the attributes requested, and what to
do about shared names. -/
structure Plan where
  sources : List Source
  requests : List String
  collisions : Collisions := .lastWins

namespace Plan

/-- The requested attributes with their operators. -/
def attributes (plan : Plan) (lookup : Lookup) (handlers : Handlers) : Run (Entries Operators) := do
  let columns ← Columns.collect lookup plan.collisions plan.sources
  handlers.addRequests columns {} plan.requests

/-- The lexicon with the structural rules and the requested attributes, before any filter. -/
def unfiltered (plan : Plan) (lookup : Lookup) (handlers : Handlers) : Run Lexicon := do
  let attributes ← plan.attributes lookup handlers
  Run.note (.assembled attributes.size handlers.filters.length)
  return { Lexicon.structural with attributes }

/-- The lexicon of a plan. -/
def assemble (plan : Plan) (lookup : Lookup) (handlers : Handlers) : Run Lexicon := do
  let lexicon ← plan.unfiltered lookup handlers
  handlers.filter lexicon

end Plan
end FilterLexicon
