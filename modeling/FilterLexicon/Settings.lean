import FilterLexicon.Mapping

/-!
The settings of a filter language: which entities take part, which attributes are requested, the
operators of custom types, and a catalog of the entities' fields. From them a lexicon is assembled
without any outside party.
-/

namespace FilterLexicon

structure Settings where
  sources : List Source
  requests : List String
  /-- Whether no two columns may share an attribute name. -/
  strict : Bool := false
  /-- The operators of custom types. -/
  customTypes : Index Operators := {}
  catalog : Catalog := {}
  deriving DecidableEq

namespace Settings

def collisions (settings : Settings) : Collisions :=
  if settings.strict then .strict else .lastWins

def plan (settings : Settings) : Plan :=
  { sources := settings.sources
    requests := settings.requests
    collisions := settings.collisions }

/-- One resolver for each custom type, in the order of the names' bytes. -/
def handlers (settings : Settings) : Handlers :=
  { resolvers := settings.customTypes.toList.map fun entry =>
      Resolver.fixed (some (Channel.ofType entry.1)) entry.2 }

/-- Assembles the lexicon with given handlers in place of the custom types. -/
def assembleWith (settings : Settings) (handlers : Handlers) : Run Lexicon :=
  settings.plan.assemble settings.catalog.lookup handlers

def assemble (settings : Settings) : Run Lexicon := settings.assembleWith settings.handlers

/-- Whether two settings agree, the fields of each entity without regard to their order. -/
def sameAs (a b : Settings) : Bool :=
  a.sources == b.sources && a.requests == b.requests && a.strict == b.strict &&
    a.customTypes == b.customTypes && a.catalog.sameAs b.catalog

/-- The settings that are used when none can be loaded: four entities of a product database. -/
def standard : Settings :=
  { sources := [⟨"Product", "article"⟩, ⟨"Detail", "detail"⟩, ⟨"Supplier", "supplier"⟩,
      ⟨"Price", "price"⟩]
    requests := ["ARTICLE.ID", "ARTICLE.NAME", "ARTICLE.DESCRIPTION", "ARTICLE.ACTIVE",
      "ARTICLE.ADDED", "ARTICLE.CHANGED", "DETAIL.NUMBER", "DETAIL.INSTOCK", "DETAIL.WEIGHT",
      "DETAIL.ACTIVE", "SUPPLIER.NAME", "PRICE.PRICE"]
    catalog := Catalog.ofTable
      [("Product", [("id", "integer"), ("name", "string"), ("description", "text"),
          ("active", "boolean"), ("added", "date"), ("changed", "datetime")]),
        ("Detail", [("number", "string"), ("inStock", "integer"), ("weight", "decimal"),
          ("active", "boolean")]),
        ("Supplier", [("name", "string")]),
        ("Price", [("price", "float")])] }

end Settings
end FilterLexicon
