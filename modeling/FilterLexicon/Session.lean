import FilterLexicon.Lexicon.Patterns
import FilterLexicon.Script
import FilterLexicon.Settings.Json

/-!
Sessions: a workbench on which catalogs, handlers and lexicons are made and tried out step by step. A
step that fails leaves the workbench as it was.
-/

namespace FilterLexicon

/-- What a session works on. -/
structure Session where
  catalog : Catalog := {}
  /-- Entities whose lookup fails, with the message. -/
  outages : Entries String := {}
  handlers : Handlers := {}
  /-- The lexicon that was made last. -/
  lexicon : Lexicon := {}

namespace Session

/-- One step of a session. -/
inductive Step where
  | insertEntity (entity : String) (rows : List (String × String))
  /-- Reads a catalog from JSON. -/
  | readCatalog (text : String)
  | makeCatalog (table : List (String × List (String × String)))
  /-- Makes the lookup of an entity fail from now on. -/
  | failEntity (entity message : String)
  | lookUp (entity : String)
  /-- Registers a resolver with a fixed answer, for one type or for all. -/
  | addFixed (type : Option String) (operators : Operators)
  /-- Registers a scripted resolver, for one type or for all. -/
  | addScripted (label : String) (type : Option String) (reply : Reply)
  | addFilter (label : String) (edits : List Lexicon.Edit)
  | clearHandlers
  /-- Describes the handlers. -/
  | describe
  | resolve (subject : String) (column : Column)
  | columns (sources : List Source) (collisions : Collisions)
  | attributes (plan : Plan)
  | assemble (plan : Plan)
  /-- Takes the handlers of settings. -/
  | readHandlers (text : String)
  /-- Assembles the lexicon of settings with the session's handlers. -/
  | assembleSettings (text : String)
  | useStructural
  | useBlank
  /-- Reads a lexicon from JSON. -/
  | readLexicon (text : String)
  | edit (edits : List Lexicon.Edit)
  | filter
  | operatorsFor (name : String)
  | checkPatterns
  | isStructural
  /-- Writes the lexicon with line breaks. -/
  | print

/-- What a step yields. -/
inductive Answer where
  | done
  | names (names : List String)
  | catalog (catalog : Catalog)
  | fields (fields : Fields)
  /-- The numbers of resolvers and filters. -/
  | counts (resolvers filters : Nat)
  | texts (texts : List String)
  | resolution (channel : String) (operators : Option Operators)
  | columns (columns : Columns)
  | attributes (attributes : Entries Operators)
  | lexicon (lexicon : Lexicon)
  | operators (operators : Option Operators)
  | valid
  | truth (value : Bool)
  | text (text : String)

/-- Why a step fails. -/
inductive Problem where
  | failure (failure : Failure)
  | load (error : LoadError)
  | json (error : Json.Error)
  | refused (message : String)
  deriving DecidableEq

/-- The result of a step, with the calls and events on the way. -/
structure Report where
  result : Except Problem Answer
  calls : List Call := []
  events : List Event := []

/-- The session's lookup: its catalog, apart from the entities whose lookup fails. -/
def lookup (session : Session) : Lookup := fun entity =>
  match session.outages.get? entity with
  | some message => .error message
  | none => session.catalog.lookup entity

/-- A step that changes nothing. -/
def look (session : Session) (result : Except Problem Answer) : Session × Report :=
  (session, { result })

/-- A step that leads to a session, and reports on it. -/
def go (session : Session) (answer : Session → Answer) : Session × Report :=
  (session, { result := .ok (answer session) })

/-- A step that carries out a run and, if it succeeds, takes over its result. -/
def carry {α : Type} (session : Session) (run : Run α) (answer : α → Answer)
    (take : α → Session) : Session × Report :=
  match run.outcome with
  | .ok a => (take a, { result := .ok (answer a), calls := run.calls, events := run.events })
  | .error f =>
    (session, { result := .error (.failure f), calls := run.calls, events := run.events })

/-- A step that takes over what was read, if it could be read. -/
def read {α ε : Type} (session : Session) (outcome : Except ε α) (problem : ε → Problem)
    (next : α → Session × Report) : Session × Report :=
  match outcome with
  | .ok a => next a
  | .error e => session.look (.error (problem e))

def countsOf (session : Session) : Answer :=
  .counts session.handlers.resolvers.length session.handlers.filters.length

def namesOf (session : Session) : Answer := .names session.catalog.entityNames

def lexiconOf (session : Session) : Answer := .lexicon session.lexicon

/-- Carries out a step. -/
def step (session : Session) : Step → Session × Report
  | .insertEntity entity rows =>
    go { session with catalog := session.catalog.insert entity rows } namesOf
  | .readCatalog text =>
    session.read (Catalog.ofJson text) .json fun catalog =>
      go { session with catalog } fun s => .catalog s.catalog
  | .makeCatalog table => go { session with catalog := Catalog.ofTable table } namesOf
  | .failEntity entity message =>
    go { session with outages := session.outages.insert entity message } fun _ => .done
  | .lookUp entity =>
    let result := (session.lookup entity).map Answer.fields |>.mapError Problem.refused
    (session, { result, calls := [.lookup entity] })
  | .addFixed type operators =>
    let resolver := Resolver.fixed (type.map Channel.ofType) operators
    go { session with handlers := session.handlers.addResolver resolver } countsOf
  | .addScripted label type reply =>
    let resolver := Resolver.scripted label (type.map Channel.ofType) reply
    go { session with handlers := session.handlers.addResolver resolver } countsOf
  | .addFilter label edits =>
    let filter := Filter.scripted label edits
    go { session with handlers := session.handlers.addFilter filter } countsOf
  | .clearHandlers => go { session with handlers := {} } countsOf
  | .describe =>
    session.look (.ok (.texts [session.handlers.summary, session.handlers.summaryLines]))
  | .resolve subject column =>
    let query : TypeQuery := { subject, column }
    session.carry (session.handlers.resolve query) (.resolution query.channel) fun _ => session
  | .columns sources collisions =>
    session.carry (Columns.collect session.lookup collisions sources) .columns fun _ => session
  | .attributes plan =>
    session.carry (plan.attributes session.lookup session.handlers) .attributes fun _ => session
  | .assemble plan =>
    session.carry (plan.assemble session.lookup session.handlers) .lexicon
      fun lexicon => { session with lexicon }
  | .readHandlers text =>
    session.read (Settings.ofJson text) .load fun settings =>
      go { session with handlers := settings.handlers } countsOf
  | .assembleSettings text =>
    session.read (Settings.ofJson text) .load fun settings =>
      let run := settings.assembleWith session.handlers
      -- The settings' own catalog is no outside party.
      session.carry { run with calls := run.calls.filter (!·.isLookup) } .lexicon
        fun lexicon => { session with lexicon }
  | .useStructural => go { session with lexicon := Lexicon.structural } lexiconOf
  | .useBlank => go { session with lexicon := {} } lexiconOf
  | .readLexicon text =>
    session.read (Lexicon.ofJson text) .json fun lexicon =>
      go { session with lexicon } lexiconOf
  | .edit edits =>
    session.read (Lexicon.Edit.applyAll edits session.lexicon) .refused fun lexicon =>
      go { session with lexicon } lexiconOf
  | .filter =>
    session.carry (session.handlers.filter session.lexicon) .lexicon
      fun lexicon => { session with lexicon }
  | .operatorsFor name => session.look (.ok (.operators (session.lexicon.operatorsFor name)))
  | .checkPatterns =>
    session.look
      ((session.lexicon.checkPatterns.map fun _ => Answer.valid).mapError Problem.failure)
  | .isStructural => session.look (.ok (.truth (session.lexicon.sameAs Lexicon.structural)))
  | .print => session.look (.ok (.text session.lexicon.toJson.toPretty))

/-- Carries out steps in order, and collects their reports. -/
def run (session : Session) : List Step → Session × List Report
  | [] => (session, [])
  | step :: rest =>
    let (session, report) := session.step step
    let (session, reports) := run session rest
    (session, report :: reports)

end Session
end FilterLexicon
