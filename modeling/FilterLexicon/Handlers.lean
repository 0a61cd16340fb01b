import FilterLexicon.Channel
import FilterLexicon.Lexicon
import FilterLexicon.Run
import FilterLexicon.Source

/-!
Handlers: outside parties that extend the lexicon. Resolvers are asked, in order of registration, for
the operators of types that have none of their own, and the first answer counts. Filters are applied,
in order of registration, to the assembled lexicon, each to the result of the one before.
-/

namespace FilterLexicon

/-- What a resolver is asked: the operators of an attribute, which is a column of a certain type. -/
structure TypeQuery where
  subject : String
  column : Column

namespace TypeQuery

def typeName (query : TypeQuery) : String := query.column.type.name

/-- The channel on which a query is put. -/
def channel (query : TypeQuery) : String := Channel.ofType query.typeName

end TypeQuery

structure Resolver where
  /-- The name under which the resolver's calls are recorded; a resolver without one is part of the
  configuration. -/
  label : Option String
  /-- The channel listened on; a resolver without one listens on every channel of a type. -/
  channel : Option String
  /-- The operators for a query, no answer, or an error message. -/
  answer : TypeQuery → Except String (Option Operators)

structure Filter where
  /-- The name under which the filter's calls are recorded. -/
  label : String
  /-- The changed lexicon, or an error message. -/
  apply : Lexicon → Except String Lexicon

/-- The registered resolvers and filters, oldest first. -/
structure Handlers where
  resolvers : List Resolver := []
  filters : List Filter := []

namespace Resolver

def listens (resolver : Resolver) (channel : String) : Bool :=
  match resolver.channel with
  | some c => c = channel
  | none => true

/-- Always answers with the same operators. -/
def fixed (channel : Option String) (operators : Operators) : Resolver :=
  { label := none, channel, answer := fun _ => .ok (some operators) }

def ask (resolver : Resolver) (query : TypeQuery) : Run (Option Operators) :=
  Run.ask (resolver.label.toList.map .resolve) (.handler query.channel) (resolver.answer query)

end Resolver

def Filter.run (filter : Filter) (lexicon : Lexicon) : Run Lexicon :=
  Run.ask [.filter filter.label] (.handler Channel.filters) (filter.apply lexicon)

namespace Handlers

def addResolver (handlers : Handlers) (resolver : Resolver) : Handlers :=
  { handlers with resolvers := handlers.resolvers ++ [resolver] }

def addFilter (handlers : Handlers) (filter : Filter) : Handlers :=
  { handlers with filters := handlers.filters ++ [filter] }

def listening (handlers : Handlers) (channel : String) : List Resolver :=
  handlers.resolvers.filter (·.listens channel)

/-- Asks resolvers in order until one answers. -/
def firstAnswer (query : TypeQuery) : List Resolver → Run (Option Operators)
  | [] => do
    Run.note (.unanswered query.channel)
    return none
  | resolver :: rest => do
    match ← resolver.ask query with
    | some operators =>
      Run.note (.resolved query.subject query.channel operators)
      return some operators
    | none => firstAnswer query rest

/-- The operators of a type, if a resolver that listens on its channel answers. -/
def resolve (handlers : Handlers) (query : TypeQuery) : Run (Option Operators) :=
  firstAnswer query (handlers.listening query.channel)

/-- Applies filters in order, counting from `index`. -/
def applyFilters (index : Nat) : List Filter → Lexicon → Run Lexicon
  | [], lexicon => pure lexicon
  | filter :: rest, lexicon => do
    Run.note (.filtering index)
    let filtered ← filter.run lexicon
    applyFilters (index + 1) rest filtered

def filter (handlers : Handlers) (lexicon : Lexicon) : Run Lexicon :=
  applyFilters 0 handlers.filters lexicon

/-- The counts of handlers on one line. -/
def summary (handlers : Handlers) : String :=
  s!"ExtensionRegistry \x7b resolvers: {handlers.resolvers.length}, " ++
    s!"filters: {handlers.filters.length} \x7d"

/-- The counts of handlers, each on a line of its own. -/
def summaryLines (handlers : Handlers) : String :=
  s!"ExtensionRegistry \x7b\n    resolvers: {handlers.resolvers.length},\n" ++
    s!"    filters: {handlers.filters.length},\n\x7d"

end Handlers
end FilterLexicon
