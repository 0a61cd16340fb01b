import FilterLexicon.Proofs.Answering
import FilterLexicon.Proofs.SettingsColumns
import FilterLexicon.Proofs.SettingsJson
import FilterLexicon.Proofs.SettingsTypes
import FilterLexicon.Proofs.Stages

/-! What settings are assembled to, said without running the assembly. It succeeds exactly when all
entities, names and types are there. Otherwise its failure is the first among the sources or, if the
columns are collected, the first among the requests. -/

namespace FilterLexicon.Settings

open Text (upperAscii)

variable (settings : Settings)

/-- Everything that the requests need is there. -/
structure Complete : Prop extends settings.Collects where
  known : ∀ request ∈ settings.requests, upperAscii request ∈ settings.names
  provided : ∀ request ∈ settings.requests, ∀ column,
    settings.Wins (upperAscii request) column → settings.Provided column.type

/-- The name of a request has a column whose type has operators. -/
def Answered (request : String) : Prop :=
  ∃ column, settings.Wins (upperAscii request) column ∧ settings.Provided column.type

/-- What fails first among the requests: one behind requests that are all answered. -/
inductive RequestFailure : Failure → Prop where
  | unknownAttribute {earlier : List String} {request : String} {later : List String}
      (hsplit : settings.requests = earlier ++ request :: later)
      (hearlier : ∀ r ∈ earlier, settings.Answered r)
      (hunknown : upperAscii request ∉ settings.names) :
      RequestFailure (.unknownAttribute (upperAscii request))
  | unresolvedType {earlier : List String} {request : String} {later : List String}
      {column : Column} (hsplit : settings.requests = earlier ++ request :: later)
      (hearlier : ∀ r ∈ earlier, settings.Answered r)
      (hwins : settings.Wins (upperAscii request) column)
      (hmissing : ¬settings.Provided column.type) :
      RequestFailure (.unresolvedType column.type.name)

/-- No request is looked at before all sources are gone through. -/
def FirstFailure (f : Failure) : Prop :=
  settings.SourceFailure f ∨ settings.Collects ∧ settings.RequestFailure f

variable {settings}

/-! ### The requests -/

theorem answer_eq_ok_iff (h : settings.customTypes.Sorted) {request : String}
    {operators : Operators} :
    settings.handlers.answer settings.table request = .ok operators ↔
      ∃ column, settings.Wins (upperAscii request) column ∧
        settings.Gives column.type operators := by
  simp only [← table_get?_eq_some_iff]
  unfold Handlers.answer
  cases settings.table.get? (upperAscii request) with
  | none => simp
  | some column =>
      simp only [Option.some.injEq, exists_eq_left']
      exact operatorsOf_eq_ok_iff h

theorem answer_eq_error_iff {request : String} {f : Failure} :
    settings.handlers.answer settings.table request = .error f ↔
      (upperAscii request ∉ settings.names ∧ f = .unknownAttribute (upperAscii request)) ∨
        ∃ column, settings.Wins (upperAscii request) column ∧ ¬settings.Provided column.type ∧
          f = .unresolvedType column.type.name := by
  simp only [← table_get?_eq_some_iff, ← table_get?_eq_none_iff]
  unfold Handlers.answer
  cases settings.table.get? (upperAscii request) with
  | none => simp [eq_comm]
  | some column =>
      simp only [reduceCtorEq, false_and, false_or, Option.some.injEq, exists_eq_left']
      exact operatorsOf_eq_error_iff

theorem answered_iff (h : settings.customTypes.Sorted) {request : String} :
    settings.Answered request ↔
      ∃ operators, settings.handlers.answer settings.table request = .ok operators := by
  simp only [Answered, answer_eq_ok_iff h, provided_iff h]
  constructor
  · rintro ⟨column, hwins, operators, hgives⟩
    exact ⟨operators, column, hwins, hgives⟩
  · rintro ⟨operators, column, hwins, hgives⟩
    exact ⟨column, hwins, operators, hgives⟩

/-! ### The assembly -/

/-- The attributes of the lexicon. -/
def attributes (settings : Settings) : Except Failure (Entries Operators) :=
  (settings.plan.attributes settings.catalog.lookup settings.handlers).outcome

/-- Without filters, the assembly adds the attributes to the structural part and does nothing else. -/
theorem assemble_outcome (settings : Settings) :
    settings.assemble.outcome =
      settings.attributes.map
        fun attributes => { Lexicon.structural with attributes } := by
  unfold assemble assembleWith Plan.assemble
  cases hattributes : settings.attributes with
  | ok attributes =>
      have hunfiltered : (settings.plan.unfiltered settings.catalog.lookup
          settings.handlers).outcome = .ok { Lexicon.structural with attributes } := by
        rw [Plan.unfiltered, Run.bind_of_ok hattributes]
        rfl
      rw [Run.bind_of_ok hunfiltered]
      rfl
  | error f =>
      have hunfiltered : (settings.plan.unfiltered settings.catalog.lookup
          settings.handlers).outcome = .error f := by
        rw [Plan.unfiltered, Run.bind_of_error hattributes]
      rw [Run.bind_of_error hunfiltered]
      rfl

theorem assemble_eq_ok_iff {g : Lexicon} :
    settings.assemble.outcome = .ok g ↔ ∃ attributes,
      settings.attributes = .ok attributes ∧ g = { Lexicon.structural with attributes } := by
  rw [assemble_outcome]
  cases settings.attributes <;> simp [Except.map, eq_comm]

theorem assemble_eq_error_iff {f : Failure} :
    settings.assemble.outcome = .error f ↔ settings.attributes = .error f := by
  rw [assemble_outcome]
  cases settings.attributes <;> simp [Except.map]

/-- The attributes are those of the requests, answered from the table of all columns. -/
theorem attributes_eq_ok_iff {attributes : Entries Operators} :
    settings.attributes = .ok attributes ↔
      settings.Collects ∧
        (settings.handlers.addRequests settings.table {} settings.requests).outcome =
          .ok attributes := by
  unfold Settings.attributes Plan.attributes
  rw [Run.bind_outcome_eq_ok_iff]
  exact exists_collected_iff

theorem attributes_eq_error_iff {f : Failure} :
    settings.attributes = .error f ↔
      settings.SourceFailure f ∨ settings.Collects ∧
        (settings.handlers.addRequests settings.table {} settings.requests).outcome =
          .error f := by
  unfold Settings.attributes Plan.attributes
  rw [Run.bind_outcome_eq_error_iff]
  exact or_congr collected_eq_error_iff exists_collected_iff

theorem requestFailure_iff (h : settings.customTypes.Sorted) {f : Failure} :
    (settings.handlers.addRequests settings.table {} settings.requests).outcome = .error f ↔
      settings.RequestFailure f := by
  rw [Handlers.addRequests_eq_error_iff]
  simp only [← answered_iff h, answer_eq_error_iff]
  constructor
  · rintro ⟨earlier, request, later, hsplit, hearlier, hrefused⟩
    rcases hrefused with ⟨hunknown, rfl⟩ | ⟨column, hwins, hmissing, rfl⟩
    · exact .unknownAttribute hsplit hearlier hunknown
    · exact .unresolvedType hsplit hearlier hwins hmissing
  · intro hfailure
    cases hfailure with
    | unknownAttribute hsplit hearlier hunknown =>
        exact ⟨_, _, _, hsplit, hearlier, Or.inl ⟨hunknown, rfl⟩⟩
    | unresolvedType hsplit hearlier hwins hmissing =>
        exact ⟨_, _, _, hsplit, hearlier, Or.inr ⟨_, hwins, hmissing, rfl⟩⟩

theorem complete_iff (h : settings.customTypes.Sorted) :
    settings.Complete ↔ settings.Collects ∧ ∀ request ∈ settings.requests,
      ∃ operators, settings.handlers.answer settings.table request = .ok operators := by
  simp only [← answered_iff h]
  constructor
  · intro hcomplete
    refine ⟨hcomplete.toCollects, ?_⟩
    intro request hrequest
    obtain ⟨column, hwins⟩ := exists_wins (hcomplete.known request hrequest)
    exact ⟨column, hwins, hcomplete.provided request hrequest column hwins⟩
  · rintro ⟨hcollects, hanswered⟩
    refine ⟨hcollects, ?_, ?_⟩
    · intro request hrequest
      obtain ⟨column, hwins, _⟩ := hanswered request hrequest
      exact hwins.mem_names
    · intro request hrequest column hwins
      obtain ⟨winner, hwinner, hprovided⟩ := hanswered request hrequest
      rwa [hwins.unique hwinner]

theorem assemble_isOk_iff (h : settings.customTypes.Sorted) :
    (∃ g, settings.assemble.outcome = .ok g) ↔ settings.Complete := by
  rw [complete_iff h]
  constructor
  · rintro ⟨g, hg⟩
    obtain ⟨attributes, hattributes, -⟩ := assemble_eq_ok_iff.mp hg
    obtain ⟨hcollects, hrequests⟩ := attributes_eq_ok_iff.mp hattributes
    exact ⟨hcollects, (Handlers.addRequests_eq_ok_iff.mp hrequests).1⟩
  · rintro ⟨hcollects, hanswered⟩
    have hrequests := Handlers.addRequests_eq_ok_iff.mpr ⟨hanswered, rfl⟩
    have hattributes := attributes_eq_ok_iff.mpr ⟨hcollects, hrequests⟩
    exact ⟨_, assemble_eq_ok_iff.mpr ⟨_, hattributes, rfl⟩⟩

theorem firstFailure_iff (h : settings.customTypes.Sorted) {f : Failure} :
    settings.assemble.outcome = .error f ↔ settings.FirstFailure f := by
  rw [assemble_eq_error_iff, attributes_eq_error_iff, requestFailure_iff h]
  rfl

/-! ### The draft -/

theorem supply?_eq (settings : Settings) (name : String) (column : Column) :
    settings.handlers.supply? { subject := name, column } = settings.operators? column.type := by
  rw [← Handlers.operatorsOf_toOption, operatorsOf_outcome]
  cases settings.operators? column.type <;> rfl

/-- A request is given the operators of the type of the last column of its name. -/
theorem supplied?_eq (settings : Settings) (columns : List (String × Column)) (request : String) :
    settings.handlers.supplied? columns request =
      (columns.reverse.lookup (upperAscii request)).bind fun column =>
        settings.operators? column.type := by
  rw [Handlers.supplied?, query?, Option.bind_map]
  congr 1
  funext column
  exact supply?_eq settings (upperAscii request) column

/-- Settings have a lexicon exactly when their columns are collected and all requests are given
operators, and then it is the draft. -/
theorem assemble_eq_draft_iff {g : Lexicon} :
    settings.assemble.outcome = .ok g ↔ settings.Collects ∧
      settings.handlers.Supplied (settings.columnsOf settings.sources) settings.requests ∧
        g = settings.handlers.draft (settings.columnsOf settings.sources) settings.requests := by
  rw [assemble_eq_ok_iff]
  simp only [attributes_eq_ok_iff, table, Handlers.addRequests_ofList_eq_ok_iff]
  constructor
  · rintro ⟨attributes, ⟨hcollects, hsupplied, hdraft⟩, rfl⟩
    exact ⟨hcollects, hsupplied, hdraft⟩
  · rintro ⟨hcollects, hsupplied, rfl⟩
    exact ⟨_, ⟨hcollects, hsupplied, rfl⟩, rfl⟩

/-- An attribute has the operators of the type of the column that counts for its name. -/
theorem get?_attributes {g : Lexicon} (hg : settings.assemble.outcome = .ok g) {name : String}
    (hname : name ∈ g.attributes.keys) {column : Column} (hwins : settings.Wins name column) :
    g.attributes.get? name = settings.operators? column.type := by
  obtain ⟨_, hsupplied, rfl⟩ := assemble_eq_draft_iff.mp hg
  rw [Handlers.keys_draft hsupplied, List.mem_eraseDups] at hname
  obtain ⟨request, hrequest, rfl⟩ := List.mem_map.mp hname
  have hfound : (settings.columnsOf settings.sources).reverse.lookup (upperAscii request) =
      some column := by
    rw [← Entries.get?_ofList]
    exact table_get?_eq_some_iff.mpr hwins
  rw [Handlers.get?_draft hsupplied hrequest, supplied?_eq, hfound]
  rfl

/-! ### Settings that were read -/

theorem Faithful.wellFormed (h : settings.Faithful) : settings.WellFormed where
  customTypes := h.customTypes
  entities := h.catalog.sorted
  fields e he := (h.catalog.fields e he).distinct

/-- Settings that were read from a text are well-formed. -/
theorem wellFormed_of_ofJson {text : String} (h : ofJson text = .ok settings) :
    settings.WellFormed := (faithful_of_ofJson h).wellFormed

/-- Settings read from a text have a lexicon exactly when they are complete. It holds the structural
part and, for each request in upper case, the operators of the type of the last column of that name.
If they have none, the failure is the first one. -/
theorem assemble_exact {text : String} {settings : Settings}
    (hread : ofJson text = .ok settings) :
    ((∃ g, settings.assemble.outcome = .ok g) ↔ settings.Complete) ∧
    (∀ g, settings.assemble.outcome = .ok g →
      g = { Lexicon.structural with attributes := g.attributes } ∧
      g.attributes.keys = (settings.requests.map upperAscii).eraseDups ∧
      ∀ request ∈ settings.requests, ∃ column operators,
        settings.Wins (upperAscii request) column ∧ settings.Gives column.type operators ∧
        g.attributes.get? (upperAscii request) = some operators) ∧
    ∀ f, settings.assemble.outcome = .error f ↔ settings.FirstFailure f := by
  have hsorted := (faithful_of_ofJson hread).customTypes
  refine ⟨assemble_isOk_iff hsorted, ?_, fun f => firstFailure_iff hsorted⟩
  intro g hg
  obtain ⟨attributes, hattributes, rfl⟩ := assemble_eq_ok_iff.mp hg
  have hrequests := (attributes_eq_ok_iff.mp hattributes).2
  refine ⟨rfl, Handlers.keys_of_addRequests hrequests, ?_⟩
  intro request hrequest
  obtain ⟨operators, hanswer⟩ := (Handlers.addRequests_eq_ok_iff.mp hrequests).1 request hrequest
  obtain ⟨column, hwins, hgives⟩ := (answer_eq_ok_iff hsorted).mp hanswer
  exact ⟨column, operators, hwins, hgives, Handlers.get?_of_addRequests hrequests hrequest hanswer⟩

/-- Two sources with one attribute name, requested in two spellings, whose later column has a type
that two custom types share the channel of. -/
def overlapping : String :=
  "\x7b\"entities\":[[\"a\",\"p\"],[\"b\",\"P\"]],\"attributes\":[\"p.x\",\"P.X\"],"
    ++ "\"customTypes\":\x7b\"m\":[\"1\"],\"M\":[\"2\"]\x7d,"
    ++ "\"fields\":\x7b\"a\":\x7b\"x\":\"text\"\x7d,\"b\":\x7b\"X\":\"m\"\x7d\x7d\x7d"

def overlapped : Settings :=
  { sources := [⟨"a", "p"⟩, ⟨"b", "P"⟩]
    requests := ["p.x", "P.X"]
    customTypes := ⟨[("M", ["2"]), ("m", ["1"])]⟩
    catalog := ⟨⟨[("a", ⟨[("x", .text)]⟩), ("b", ⟨[("X", .custom "m")]⟩)]⟩⟩ }

theorem ofJson_overlapping : ofJson overlapping = .ok overlapped :=
  eq_ok_of_toOption (by decide +kernel)

theorem assemble_overlapping : overlapped.assemble.outcome =
    .ok { Lexicon.structural with attributes := ⟨[("P.X", ["2"])]⟩ } :=
  eq_ok_of_toOption (by decide +kernel)

theorem assemble_exact_overlapping :
    ofJson overlapping = .ok overlapped ∧ overlapped.Complete ∧
      (∃ g, overlapped.assemble.outcome = .ok g ∧
        g = { Lexicon.structural with attributes := g.attributes } ∧
        g.attributes = ⟨[("P.X", ["2"])]⟩) ∧
      ∀ f, ¬overlapped.FirstFailure f := by
  obtain ⟨hcomplete, hparts, hfails⟩ := assemble_exact ofJson_overlapping
  have hok := assemble_overlapping
  refine ⟨ofJson_overlapping, hcomplete.mp ⟨_, hok⟩, ⟨_, hok, (hparts _ hok).1, rfl⟩, ?_⟩
  intro f hfirst
  have herror := (hfails f).mpr hfirst
  rw [hok] at herror
  cases herror

end FilterLexicon.Settings
