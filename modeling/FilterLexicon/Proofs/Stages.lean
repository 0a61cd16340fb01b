import FilterLexicon.Proofs.Answering
import FilterLexicon.Proofs.Handling
import FilterLexicon.Proofs.Merging
import Mathlib.Data.List.Basic

/-! The stages of an assembly. It goes on from the sources to the requests only if the sources are
merged, and from the requests to the filters only if every request is given operators, so that its
success and its lexicon can be said in terms of the columns, without any of its runs. -/

namespace FilterLexicon

open Text (upperAscii)

/-- The query that a request comes to: about the last column of its name, if there is one. -/
def query? (columns : List (String × Column)) (request : String) : Option TypeQuery :=
  (columns.reverse.lookup (upperAscii request)).map fun column =>
    { subject := upperAscii request, column }

namespace Handlers

variable (handlers : Handlers) (columns : List (String × Column))

/-- The operators that a request is given. -/
def supplied? (request : String) : Option Operators :=
  (query? columns request).bind handlers.supply?

/-- Every request is given operators. -/
def Supplied (requests : List String) : Prop :=
  ∀ request ∈ requests, (handlers.supplied? columns request).isSome

/-- The lexicon with the operators of the requests, as it is before any filter. -/
def draft (requests : List String) : Lexicon :=
  { Lexicon.structural with
    attributes := Entries.ofList (requests.filterMap fun request =>
      (handlers.supplied? columns request).map fun operators => (upperAscii request, operators)) }

variable {handlers columns}

theorem answer_toOption (request : String) :
    (handlers.answer (Entries.ofList columns) request).toOption =
      handlers.supplied? columns request := by
  unfold answer supplied? query?
  rw [Entries.get?_ofList]
  cases columns.reverse.lookup (upperAscii request) with
  | none => rfl
  | some column => exact operatorsOf_toOption handlers (upperAscii request) column

theorem addition?_ofList :
    handlers.addition? (Entries.ofList columns) = fun request =>
      (handlers.supplied? columns request).map fun operators => (upperAscii request, operators) := by
  funext request
  rw [← answer_toOption, addition?]
  cases handlers.answer (Entries.ofList columns) request <;> rfl

theorem answered_iff {request : String} :
    (∃ operators, handlers.answer (Entries.ofList columns) request = .ok operators) ↔
      (handlers.supplied? columns request).isSome := by
  rw [← answer_toOption]
  cases handlers.answer (Entries.ofList columns) request <;> simp [Except.toOption]

/-- The answering succeeds exactly when every request is given operators. -/
theorem addRequests_ofList_eq_ok_iff {requests : List String} {attributes : Entries Operators} :
    (handlers.addRequests (Entries.ofList columns) {} requests).outcome = .ok attributes ↔
      handlers.Supplied columns requests ∧
        { Lexicon.structural with attributes } = handlers.draft columns requests := by
  rw [addRequests_eq_ok_iff, addition?_ofList]
  simp only [answered_iff, draft, Supplied, Lexicon.mk.injEq, true_and]

variable {other : List (String × Column)} {requests : List String}

theorem addRequests_draft (h : handlers.Supplied columns requests) :
    (handlers.addRequests (Entries.ofList columns) {} requests).outcome =
      .ok (handlers.draft columns requests).attributes :=
  addRequests_ofList_eq_ok_iff.mpr ⟨h, rfl⟩

theorem keys_draft (h : handlers.Supplied columns requests) :
    (handlers.draft columns requests).attributes.keys = (requests.map upperAscii).eraseDups :=
  keys_of_addRequests (addRequests_draft h)

theorem get?_draft (h : handlers.Supplied columns requests) {request : String}
    (hrequest : request ∈ requests) :
    (handlers.draft columns requests).attributes.get? (upperAscii request) =
      handlers.supplied? columns request := by
  obtain ⟨operators, hanswer⟩ := answered_iff.mpr (h request hrequest)
  rw [get?_of_addRequests (addRequests_draft h) hrequest hanswer, ← answer_toOption, hanswer]
  rfl

/-- Only what the requests themselves are given matters. -/
theorem supplied_congr
    (h : ∀ request ∈ requests, handlers.supplied? columns request = handlers.supplied? other request) :
    handlers.Supplied columns requests ↔ handlers.Supplied other requests :=
  forall₂_congr fun request hrequest => by rw [h request hrequest]

theorem draft_congr
    (h : ∀ request ∈ requests, handlers.supplied? columns request = handlers.supplied? other request) :
    handlers.draft columns requests = handlers.draft other requests := by
  rw [draft, draft, List.filterMap_congr fun request hrequest => by rw [h request hrequest]]

end Handlers

namespace Plan

/-- The columns of the sources of a plan. -/
def columns (plan : Plan) (lookup : Lookup) : List (String × Column) :=
  Columns.reached lookup plan.sources

variable {plan : Plan} {lookup : Lookup} {handlers : Handlers}

/-- An assembly goes through three stages: it collects columns, answers requests and applies filters. -/
theorem assemble_eq_bind (plan : Plan) (lookup : Lookup) (handlers : Handlers) :
    plan.assemble lookup handlers =
      Columns.collect lookup plan.collisions plan.sources >>= fun columns =>
        handlers.addRequests columns {} plan.requests >>= fun attributes =>
          Run.note (.assembled attributes.size handlers.filters.length) >>= fun _ =>
            handlers.filter { Lexicon.structural with attributes } := by
  simp only [assemble, unfiltered, attributes, bind_assoc, pure_bind]

/-- Once the attributes are mapped, the structural lexicon with them is filtered. -/
theorem assemble_of_mapped {attributes : Entries Operators}
    (h : (plan.attributes lookup handlers).outcome = .ok attributes) :
    plan.assemble lookup handlers =
      { outcome := (handlers.filter { Lexicon.structural with attributes }).outcome
        calls := (plan.attributes lookup handlers).calls ++
          (handlers.filter { Lexicon.structural with attributes }).calls
        events := (plan.attributes lookup handlers).events ++
          .assembled attributes.size handlers.filters.length ::
            (handlers.filter { Lexicon.structural with attributes }).events } := by
  have hnote : (Run.note (.assembled attributes.size handlers.filters.length)).outcome = .ok () := rfl
  simp only [assemble, unfiltered, bind_assoc, pure_bind]
  rw [Run.bind_of_ok h, Run.bind_of_ok hnote]
  rfl

theorem assemble_of_unmapped {failure : Failure}
    (h : (plan.attributes lookup handlers).outcome = .error failure) :
    plan.assemble lookup handlers =
      { outcome := .error failure
        calls := (plan.attributes lookup handlers).calls
        events := (plan.attributes lookup handlers).events } := by
  simp only [assemble, unfiltered, bind_assoc, pure_bind]
  exact Run.bind_of_error h _

/-- The requests are answered exactly when the sources are merged and all requests are given operators,
and the attributes are those of the draft. -/
theorem attributes_eq_ok_iff {attributes : Entries Operators} :
    (plan.attributes lookup handlers).outcome = .ok attributes ↔
      Columns.Merged lookup plan.collisions plan.sources ∧
        handlers.Supplied (plan.columns lookup) plan.requests ∧
          attributes = (handlers.draft (plan.columns lookup) plan.requests).attributes := by
  rw [Plan.attributes, Run.bind_outcome_eq_ok_iff]
  constructor
  · rintro ⟨columns, hcollect, hrest⟩
    obtain ⟨hmerged, rfl⟩ := Columns.collect_eq_ok_iff.mp hcollect
    obtain ⟨hsupplied, hdraft⟩ := Handlers.addRequests_ofList_eq_ok_iff.mp hrest
    exact ⟨hmerged, hsupplied, congrArg Lexicon.attributes hdraft⟩
  · rintro ⟨hmerged, hsupplied, rfl⟩
    exact ⟨_, Columns.collect_eq_ok_iff.mpr ⟨hmerged, rfl⟩, Handlers.addRequests_draft hsupplied⟩

/-- An assembly succeeds exactly when the sources are merged, all requests are given operators and the
filters pass, and its lexicon is what the filters make of the draft. -/
theorem assemble_eq_ok_iff {g : Lexicon} :
    (plan.assemble lookup handlers).outcome = .ok g ↔
      Columns.Merged lookup plan.collisions plan.sources ∧
        handlers.Supplied (plan.columns lookup) plan.requests ∧
          Handlers.chain handlers.filters
            (handlers.draft (plan.columns lookup) plan.requests) = .ok g := by
  have hfilter (lexicon : Lexicon) : (handlers.filter lexicon).outcome = .ok g ↔
      Handlers.chain handlers.filters lexicon = .ok g := by
    rw [Handlers.filter, Handlers.applyFilters_outcome]
    cases Handlers.chain handlers.filters lexicon <;> simp [Except.mapError]
  have hnote {attributes : Entries Operators} :
      (Run.note (.assembled attributes.size handlers.filters.length)).outcome = .ok () := rfl
  rw [assemble_eq_bind, Run.bind_outcome_eq_ok_iff]
  constructor
  · rintro ⟨columns, hcollect, hrest⟩
    obtain ⟨hmerged, rfl⟩ := Columns.collect_eq_ok_iff.mp hcollect
    obtain ⟨attributes, hattributes, hfilters⟩ := Run.bind_outcome_eq_ok_iff.mp hrest
    obtain ⟨hsupplied, hdraft⟩ := Handlers.addRequests_ofList_eq_ok_iff.mp hattributes
    rw [Run.bind_of_ok hnote] at hfilters
    exact ⟨hmerged, hsupplied, hdraft ▸ (hfilter _).mp hfilters⟩
  · rintro ⟨hmerged, hsupplied, hchain⟩
    refine ⟨_, Columns.collect_eq_ok_iff.mpr ⟨hmerged, rfl⟩, ?_⟩
    rw [Run.bind_outcome_eq_ok_iff]
    refine ⟨_, Handlers.addRequests_ofList_eq_ok_iff.mpr ⟨hsupplied, rfl⟩, ?_⟩
    rw [Run.bind_of_ok hnote]
    exact (hfilter _).mpr hchain

/-- Without filters, the lexicon is the structural one with the answered requests as attributes. -/
theorem assemble_unfiltered_eq_ok_iff (h : handlers.filters = []) {g : Lexicon} :
    (plan.assemble lookup handlers).outcome = .ok g ↔
      ∃ columns attributes,
        (Columns.collect lookup plan.collisions plan.sources).outcome = .ok columns ∧
          (handlers.addRequests columns {} plan.requests).outcome = .ok attributes ∧
            g = { Lexicon.structural with attributes } := by
  simp only [assemble_eq_bind, Run.bind_outcome_eq_ok_iff, Handlers.filter, h]
  constructor
  · rintro ⟨columns, hcolumns, attributes, hattributes, _, _, hg⟩
    exact ⟨columns, attributes, hcolumns, hattributes, (Except.ok.inj hg).symm⟩
  · rintro ⟨columns, attributes, hcolumns, hattributes, rfl⟩
    exact ⟨columns, hcolumns, attributes, hattributes, (), rfl, rfl⟩

/-- Then each attribute is a request in upper case, with operators that its column provides. -/
theorem provides_of_assemble (h : handlers.filters = []) {g : Lexicon}
    (hg : (plan.assemble lookup handlers).outcome = .ok g) :
    ∃ columns, (Columns.collect lookup plan.collisions plan.sources).outcome = .ok columns ∧
      ∀ e ∈ g.attributes.toList, ∃ column, columns.get? e.1 = some column ∧
        handlers.Provides e.1 column e.2 := by
  obtain ⟨columns, attributes, hcolumns, hattributes, rfl⟩ :=
    (assemble_unfiltered_eq_ok_iff h).mp hg
  refine ⟨columns, hcolumns, fun e he => ?_⟩
  obtain ⟨request, _, hname, hanswer⟩ := Handlers.mem_of_addRequests hattributes he
  obtain ⟨column, hcolumn, hprovides⟩ := Handlers.answer_eq_ok_iff_provides.mp hanswer
  rw [← hname] at hcolumn hprovides
  exact ⟨column, hcolumn, hprovides⟩

end Plan
end FilterLexicon
