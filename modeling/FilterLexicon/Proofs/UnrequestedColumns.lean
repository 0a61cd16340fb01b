import FilterLexicon.Proofs.Agreement
import FilterLexicon.Proofs.Listening
import FilterLexicon.Proofs.RequestOrder

/-! Columns that no request asks for. Of the collected columns, an assembly reads those under the names
of its requests and no others. So two assemblies come to the same, by the same calls of resolvers and
filters, if their collections fail alike or agree under these names, whatever other columns there are,
of whatever types, and wherever their sources stand. -/

namespace FilterLexicon

open Text (upperAscii)

/-! ### Runs that differ in lookups only -/

namespace Run

variable {α β : Type}

/-- The runs come to the same and make the same calls of resolvers and filters. -/
structure SameButLookups (run other : Run α) : Prop where
  outcome : run.outcome = other.outcome
  calls : run.calls.filter (!·.isLookup) = other.calls.filter (!·.isLookup)

/-- Two runs that call nothing but lookups, and either fail alike or go on alike behind what they come
to. -/
theorem sameButLookups_bind {R : α → α → Prop} {run other : Run α} {next following : α → Run β}
    (h : SameOutcome R run.outcome other.outcome)
    (hrun : run.calls.filter (!·.isLookup) = []) (hother : other.calls.filter (!·.isLookup) = [])
    (hnext : ∀ a b, R a b → next a = following b) :
    (run >>= next).SameButLookups (other >>= following) := by
  rcases h.error_or_ok with ⟨f, hx, hy⟩ | ⟨a, b, hx, hy, hrelated⟩
  · rw [bind_of_error hx, bind_of_error hy]
    exact ⟨rfl, hrun.trans hother.symm⟩
  · rw [bind_of_ok hx, bind_of_ok hy, hnext a b hrelated]
    refine ⟨rfl, ?_⟩
    rw [List.filter_append, List.filter_append, hrun, hother]

end Run

/-! ### Requested fields -/

namespace Source

/-- The attribute names of a source. -/
def names (lookup : Lookup) (source : Source) : List String :=
  (source.fields lookup).map fun f => source.attributeName f.1

/-- The fields of a source whose attribute names are requested. -/
def requested (source : Source) (requests : List String) (fields : Fields) :
    List (String × StorageType) :=
  fields.toList.filter fun f => source.attributeName f.1 ∈ requests.map upperAscii

/-- Two lookups find the same requested fields for a source, or fail with the same message. -/
def SameRequested (requests : List String) (lookup other : Lookup) (source : Source) : Prop :=
  SameOutcome (fun fields others => source.requested requests fields = source.requested requests others)
    (lookup source.entity) (other source.entity)

variable {source : Source} {requests : List String} {lookup other : Lookup}

/-- Under a requested name, the requested fields have the column that all fields have. -/
theorem lookup_requested {request : String} (h : request ∈ requests) (fields : Fields) :
    (source.columns (source.requested requests fields)).reverse.lookup (upperAscii request) =
      (source.columns fields.toList).reverse.lookup (upperAscii request) := by
  have hname : upperAscii request ∈ requests.map upperAscii := List.mem_map_of_mem h
  have hcolumns : source.columns (source.requested requests fields) =
      (source.columns fields.toList).filter fun c => c.1 ∈ requests.map upperAscii := by
    rw [columns, columns, List.filter_map]
    rfl
  rw [hcolumns, ← List.filter_reverse]
  exact Entries.lookup_filter (· ∈ requests.map upperAscii) (decide_eq_true hname) _

theorem SameRequested.lookupFailure?_eq (h : source.SameRequested requests lookup other) :
    Columns.lookupFailure? lookup source = Columns.lookupFailure? other source := by
  unfold Columns.lookupFailure?
  rcases h.error_or_ok with ⟨reason, hx, hy⟩ | ⟨_, _, hx, hy, _⟩
  · rw [hx, hy]
  · rw [hx, hy]

end Source

/-! ### Collections -/

namespace Columns

/-- The tables have the same columns under the names of the requests. -/
def AgreeOn (requests : List String) (columns other : Columns) : Prop :=
  ∀ request ∈ requests, columns.get? (upperAscii request) = other.get? (upperAscii request)

variable {lookup other : Lookup} {source : Source} {sources others : List Source}
  {requests : List String}

theorem get?_table_cons_of_ok {fields : Fields} (h : lookup source.entity = .ok fields)
    (rest : List Source) (name : String) :
    (table lookup (source :: rest)).get? name =
      ((table lookup rest).get? name).or ((source.columns fields.toList).reverse.lookup name) := by
  rw [table, table, Entries.get?_ofList, Entries.get?_ofList, reached, h]
  simp only
  rw [List.reverse_append, List.lookup_append]

theorem get?_table_cons_of_error {reason : String} (h : lookup source.entity = .error reason)
    (rest : List Source) (name : String) : (table lookup (source :: rest)).get? name = none := by
  rw [table, reached, h]
  rfl

/-- Collections that stop at the same failing lookup, if at any, and have tables that agree. -/
theorem collect_agreeOn
    (hstop : sources.findSome? (lookupFailure? lookup) = others.findSome? (lookupFailure? other))
    (htables : (table lookup sources).AgreeOn requests (table other others)) :
    SameOutcome (AgreeOn requests) (collect lookup .lastWins sources).outcome
      (collect other .lastWins others).outcome := by
  rw [collect_outcome, collect_outcome, stop?, stop?, hstop]
  cases others.findSome? (lookupFailure? other) with
  | some failure => exact .error failure
  | none => exact .ok htables

theorem collect_calls_lookup (lookup : Lookup) (collisions : Collisions) (sources : List Source) :
    (collect lookup collisions sources).calls.filter (!·.isLookup) = [] := by
  have hcalls : (collect lookup collisions sources).calls =
      Plan.lookups ⟨sources, [], collisions⟩ lookup :=
    @Plan.collect_calls ⟨sources, [], collisions⟩ lookup
  rw [hcalls, Plan.lookups, List.filter_map]
  exact List.map_eq_nil_iff.mpr (List.filter_eq_nil_iff.mpr fun _ _ => Bool.false_ne_true)

/-! #### One source more -/

theorem findSome?_inserted (h : ∃ fields, lookup source.entity = .ok fields)
    (earlier later : List Source) :
    (earlier ++ source :: later).findSome? (lookupFailure? lookup) =
      (earlier ++ later).findSome? (lookupFailure? lookup) := by
  rw [List.findSome?_append, List.findSome?_append, List.findSome?_cons,
    lookupFailure?_eq_none_iff.mpr h]

/-- A source more makes a difference under its own names at most. -/
theorem get?_table_inserted (h : ∃ fields, lookup source.entity = .ok fields) {name : String}
    (hname : name ∉ source.names lookup) (earlier later : List Source) :
    (table lookup (earlier ++ source :: later)).get? name =
      (table lookup (earlier ++ later)).get? name := by
  induction earlier with
  | nil =>
      obtain ⟨fields, hfields⟩ := h
      have hnone : (source.columns fields.toList).reverse.lookup name = none := by
        rw [← Entries.get?_ofList, Entries.get?_ofList_eq_none_iff, Source.columns, List.map_map]
        rwa [Source.names, Source.fields, hfields] at hname
      rw [List.nil_append, List.nil_append, get?_table_cons_of_ok hfields, hnone, Option.or_none]
  | cons s earlier ih =>
      -- A source at the front counts only for names that nothing behind it has.
      rw [List.cons_append, List.cons_append]
      cases hs : lookup s.entity with
      | error reason => rw [get?_table_cons_of_error hs, get?_table_cons_of_error hs]
      | ok fields => rw [get?_table_cons_of_ok hs, get?_table_cons_of_ok hs, ih]

theorem collect_inserted (h : ∃ fields, lookup source.entity = .ok fields)
    (hnames : ∀ request ∈ requests, upperAscii request ∉ source.names lookup)
    (earlier later : List Source) :
    SameOutcome (AgreeOn requests) (collect lookup .lastWins (earlier ++ source :: later)).outcome
      (collect lookup .lastWins (earlier ++ later)).outcome := by
  apply collect_agreeOn (findSome?_inserted h earlier later)
  intro request hrequest
  exact get?_table_inserted h (hnames request hrequest) earlier later

/-! #### Other fields -/

/-- The same requested fields make tables that agree. -/
theorem table_agreeOn (h : ∀ source ∈ sources, source.SameRequested requests lookup other) :
    (table lookup sources).AgreeOn requests (table other sources) := by
  intro request hrequest
  induction sources with
  | nil => rfl
  | cons source rest ih =>
      have hrest := ih fun s hs => h s (List.mem_cons_of_mem _ hs)
      rcases (h source List.mem_cons_self).error_or_ok with
        ⟨reason, hx, hy⟩ | ⟨fields, others, hx, hy, hfields⟩
      · rw [get?_table_cons_of_error hx, get?_table_cons_of_error hy]
      · rw [get?_table_cons_of_ok hx, get?_table_cons_of_ok hy, hrest,
          ← Source.lookup_requested hrequest, hfields, Source.lookup_requested hrequest]

theorem collect_of_sameRequested
    (h : ∀ source ∈ sources, source.SameRequested requests lookup other) :
    SameOutcome (AgreeOn requests) (collect lookup .lastWins sources).outcome
      (collect other .lastWins sources).outcome := by
  have hstop : sources.findSome? (lookupFailure? lookup) =
      sources.findSome? (lookupFailure? other) := by
    rw [← List.head?_filterMap, ← List.head?_filterMap,
      List.filterMap_congr fun source hsource => (h source hsource).lookupFailure?_eq]
  exact collect_agreeOn hstop (table_agreeOn h)

end Columns

/-! ### Behind the collection -/

theorem StorageType.eq_custom {type : StorageType} (h : type.operators? = none) :
    type = .custom type.name := by
  cases type with
  | custom name => rfl
  | _ => cases h

namespace Handlers

variable {handlers : Handlers} {columns other : Columns} {requests : List String}

theorem addRequests_of_agreeOn (h : columns.AgreeOn requests other) (attributes : Entries Operators) :
    handlers.addRequests columns attributes requests =
      handlers.addRequests other attributes requests := by
  apply addRequests_of_answering
  intro request hrequest
  rw [answering, answering, h request hrequest]

/-- What a request is given depends on the column of its name. -/
theorem supplied?_of_get? {columns others : List (String × Column)} {request : String}
    (h : (Entries.ofList columns).get? (upperAscii request) =
      (Entries.ofList others).get? (upperAscii request)) :
    handlers.supplied? columns request = handlers.supplied? others request := by
  rw [Entries.get?_ofList, Entries.get?_ofList] at h
  rw [supplied?, supplied?, query?, query?, h]

/-- A type is found unresolved if it is a custom one, and no resolver says anything to the query. -/
theorem unresolved_of_operatorsOf {query : TypeQuery} {type : String}
    (h : (handlers.operatorsOf query.subject query.column).outcome = .error (.unresolvedType type)) :
    query.column.type = .custom type ∧ Silent query (handlers.listening query.channel) := by
  cases hown : query.column.type.operators? with
  | some operators =>
      rw [operatorsOf_eq_ok_iff_provides.mpr (.own hown)] at h
      cases h
  | none =>
      rw [handlers.operatorsOf_of_custom query hown] at h
      cases hreply : firstReply? query (handlers.listening query.channel) with
      | some reply =>
          rw [hreply] at h
          cases reply <;> cases h
      | none =>
          rw [hreply] at h
          cases h
          exact ⟨StorageType.eq_custom hown, List.findSome?_eq_none_iff.mp hreply⟩

theorem unresolved_of_answer {request type : String}
    (h : handlers.answer columns request = .error (.unresolvedType type)) :
    ∃ column, columns.get? (upperAscii request) = some column ∧ column.type = .custom type ∧
      Silent ⟨upperAscii request, column⟩ (handlers.listening (Channel.ofType type)) := by
  unfold answer at h
  cases hcolumn : columns.get? (upperAscii request) with
  | none =>
      rw [hcolumn] at h
      cases h
  | some column =>
      rw [hcolumn] at h
      obtain ⟨htype, hsilent⟩ := @unresolved_of_operatorsOf _ ⟨upperAscii request, column⟩ _ h
      simp only [TypeQuery.channel, TypeQuery.typeName] at hsilent
      rw [htype] at hsilent
      exact ⟨column, rfl, htype, hsilent⟩

end Handlers

/-! ### The whole assembly -/

namespace Plan

variable {lookup other : Lookup} {handlers : Handlers} {sources others : List Source}
  {requests : List String}

/-- Behind collections that agree under the requested names, an assembly goes on alike. -/
theorem assemble_of_agreeOn
    (h : SameOutcome (Columns.AgreeOn requests) (Columns.collect lookup .lastWins sources).outcome
      (Columns.collect other .lastWins others).outcome) :
    (assemble ⟨sources, requests, .lastWins⟩ lookup handlers).SameButLookups
      (assemble ⟨others, requests, .lastWins⟩ other handlers) := by
  rw [assemble_eq_bind, assemble_eq_bind]
  apply Run.sameButLookups_bind h
  · exact Columns.collect_calls_lookup _ _ _
  · exact Columns.collect_calls_lookup _ _ _
  · intro columns otherColumns hagree
    rw [Handlers.addRequests_of_agreeOn hagree]

/-- Without filters, an assembly that succeeds comes to the draft. -/
theorem eq_draft_of_unfiltered {plan : Plan} (hfilters : handlers.filters = []) {g : Lexicon}
    (hg : (plan.assemble lookup handlers).outcome = .ok g) :
    handlers.Supplied (plan.columns lookup) plan.requests ∧
      g = handlers.draft (plan.columns lookup) plan.requests := by
  obtain ⟨_, hsupplied, hchain⟩ := assemble_eq_ok_iff.mp hg
  rw [hfilters] at hchain
  cases hchain
  exact ⟨hsupplied, rfl⟩

/-- A source more leaves the attributes under all names but its own as they are. -/
theorem attributes_inserted (hfilters : handlers.filters = []) {earlier later : List Source}
    {source : Source} {g g' : Lexicon}
    (hg : (assemble ⟨earlier ++ later, requests, .lastWins⟩ lookup handlers).outcome = .ok g)
    (hg' : (assemble ⟨earlier ++ source :: later, requests, .lastWins⟩ lookup handlers).outcome =
      .ok g') :
    g' = { g with attributes := g'.attributes } ∧ g'.attributes.keys = g.attributes.keys ∧
      ∀ name, name ∉ source.names lookup → g'.attributes.get? name = g.attributes.get? name := by
  obtain ⟨hmerged, _, _⟩ := assemble_eq_ok_iff.mp hg'
  have hfound := hmerged.found source (List.mem_append_right _ List.mem_cons_self)
  obtain ⟨hsupplied, rfl⟩ := eq_draft_of_unfiltered hfilters hg
  obtain ⟨hsupplied', rfl⟩ := eq_draft_of_unfiltered hfilters hg'
  refine ⟨rfl, ?_, ?_⟩
  · rw [Handlers.keys_draft hsupplied', Handlers.keys_draft hsupplied]
  · intro name hname
    rw [Handlers.get?_draft_name hsupplied', Handlers.get?_draft_name hsupplied]
    by_cases hrequested : name ∈ requests.map upperAscii
    · rw [if_pos hrequested, if_pos hrequested]
      obtain ⟨request, _, rfl⟩ := List.mem_map.mp hrequested
      rw [Handlers.supplied?_upperAscii, Handlers.supplied?_upperAscii]
      exact Handlers.supplied?_of_get? (Columns.get?_table_inserted hfound hname earlier later)
    · rw [if_neg hrequested, if_neg hrequested]

/-- A type that an assembly finds unresolved is that of a requested column. -/
theorem requested_of_unresolved {type : String}
    (h : (assemble ⟨sources, requests, .lastWins⟩ lookup handlers).outcome =
      .error (.unresolvedType type)) :
    ∃ request ∈ requests, ∃ column,
      Columns.Wins lookup .lastWins sources (upperAscii request) column ∧
        column.type = .custom type ∧
          Handlers.Silent ⟨upperAscii request, column⟩
            (handlers.listening (Channel.ofType type)) := by
  have hunmapped : (attributes ⟨sources, requests, .lastWins⟩ lookup handlers).outcome =
      .error (.unresolvedType type) := by
    cases hattributes : (attributes ⟨sources, requests, .lastWins⟩ lookup handlers).outcome with
    | error f =>
        rw [assemble_of_unmapped hattributes] at h
        rw [Except.error.inj h]
    | ok a =>
        -- The failure of a filter names the channel of the filters.
        rw [assemble_of_mapped hattributes, Handlers.filter, Handlers.applyFilters_outcome] at h
        cases hchain : Handlers.chain handlers.filters { Lexicon.structural with attributes := a } <;>
          rw [hchain] at h <;> cases h
  rw [attributes, Run.bind_outcome_eq_error_iff] at hunmapped
  rcases hunmapped with hcollect | ⟨columns, hcollect, hanswers⟩
  · cases Columns.collect_lastWins_eq_error_iff.mp hcollect
  · obtain ⟨earlier, request, later, hsplit, _, hanswer⟩ :=
      Handlers.addRequests_eq_error_iff.mp hanswers
    have hrequest : request ∈ requests := by
      rw [show requests = earlier ++ request :: later from hsplit]
      exact List.mem_append_right _ List.mem_cons_self
    obtain ⟨column, hcolumn, htype, hsilent⟩ := Handlers.unresolved_of_answer hanswer
    exact ⟨request, hrequest, column, .collected hcollect hcolumn, htype, hsilent⟩

/-- If a later column may replace an earlier one, columns that no request asks for make no difference.
A source more that can be looked up and has no requested name changes neither what an assembly comes
to nor its calls of resolvers and filters, wherever it stands. If it has some, an assembly without
filters that succeeds still has the same attributes in the same order, with the same operators under
all other names. Entities may have any fields besides the requested ones, of types that can be
resolved or not: the types that are found unresolved are those of requested columns. -/
theorem unrequested_columns_unread (lookup : Lookup) (handlers : Handlers) (requests : List String) :
    (∀ (earlier : List Source) (source : Source) (later : List Source),
      (∃ fields, lookup source.entity = .ok fields) →
      (∀ request ∈ requests, upperAscii request ∉ source.names lookup) →
      (assemble ⟨earlier ++ source :: later, requests, .lastWins⟩ lookup handlers).SameButLookups
        (assemble ⟨earlier ++ later, requests, .lastWins⟩ lookup handlers)) ∧
    (handlers.filters = [] → ∀ (earlier : List Source) (source : Source) (later : List Source) g g',
      (assemble ⟨earlier ++ later, requests, .lastWins⟩ lookup handlers).outcome = .ok g →
      (assemble ⟨earlier ++ source :: later, requests, .lastWins⟩ lookup handlers).outcome = .ok g' →
      g' = { g with attributes := g'.attributes } ∧ g'.attributes.keys = g.attributes.keys ∧
        ∀ name, name ∉ source.names lookup → g'.attributes.get? name = g.attributes.get? name) ∧
    (∀ (sources : List Source) (other : Lookup),
      (∀ source ∈ sources, source.SameRequested requests lookup other) →
      (assemble ⟨sources, requests, .lastWins⟩ lookup handlers).SameButLookups
        (assemble ⟨sources, requests, .lastWins⟩ other handlers)) ∧
    ∀ (sources : List Source) (type : String),
      (assemble ⟨sources, requests, .lastWins⟩ lookup handlers).outcome =
          .error (.unresolvedType type) →
        ∃ request ∈ requests, ∃ column,
          Columns.Wins lookup .lastWins sources (upperAscii request) column ∧
            column.type = .custom type ∧
              Handlers.Silent ⟨upperAscii request, column⟩
                (handlers.listening (Channel.ofType type)) := by
  refine ⟨?_, ?_, ?_, ?_⟩
  · intro earlier source later hfound hnames
    exact assemble_of_agreeOn (Columns.collect_inserted hfound hnames earlier later)
  · intro hfilters earlier source later g g' hg hg'
    exact attributes_inserted hfilters hg hg'
  · intro sources other hsame
    exact assemble_of_agreeOn (Columns.collect_of_sameRequested hsame)
  · intro sources type h
    exact requested_of_unresolved h

/-- Entities with types that no resolver knows, and with names that fall together. -/
def stock : Lookup :=
  (Catalog.ofTable [("item", [("id", "integer"), ("price", "money"), ("note", "prose")]),
    ("box", [("Note", "crate"), ("Weight", "mass")]), ("sale", [("PRICE", "decimal")])]).lookup

/-- The same requested fields among others. -/
def restocked : Lookup :=
  (Catalog.ofTable [("item", [("weight", "mass"), ("id", "integer"), ("price", "money")]),
    ("box", [])]).lookup

def stockRequests : List String := ["i.price", "I.id", "i.Price"]

def item : Source := ⟨"item", "i"⟩

/-- A source whose names are not requested, one of which is also a name of the items. -/
def box : Source := ⟨"box", "I"⟩

/-- A source with a requested name. -/
def sale : Source := ⟨"sale", "I"⟩

def cashing : Handlers :=
  { resolvers := [.scripted "cash" (some (Channel.ofType "Money")) (.operators ["=", ">"])]
    filters := [.scripted "f" [.pushConnective "XOR"]] }

def priced : Lexicon :=
  { Lexicon.structural with attributes := ⟨[("I.PRICE", ["=", ">"]), ("I.ID", Token.numeric)]⟩ }

theorem sameRequested_restocked :
    ∀ source ∈ [item, box], source.SameRequested stockRequests stock restocked := by
  have hitem : stock "item" =
      .ok ⟨[("id", .integer), ("price", .custom "money"), ("note", .custom "prose")]⟩ := by
    decide +kernel
  have hitem' : restocked "item" =
      .ok ⟨[("weight", .custom "mass"), ("id", .integer), ("price", .custom "money")]⟩ := by
    decide +kernel
  have hbox : stock "box" = .ok ⟨[("Note", .custom "crate"), ("Weight", .custom "mass")]⟩ := by
    decide +kernel
  have hbox' : restocked "box" = .ok ⟨[]⟩ := by decide +kernel
  intro source hsource
  unfold Source.SameRequested
  rcases List.mem_pair.mp hsource with rfl | rfl
  · rw [item, hitem, hitem']
    exact .ok (by decide)
  · rw [box, hbox, hbox']
    exact .ok (by decide)

theorem unrequested_columns_unread_stock :
    (assemble ⟨[item, item], stockRequests, .lastWins⟩ stock cashing).outcome =
        .ok { priced with connectives := Lexicon.structural.connectives ++ ["XOR"] } ∧
      (assemble ⟨[item, box, item], stockRequests, .lastWins⟩ stock cashing).SameButLookups
        (assemble ⟨[item, item], stockRequests, .lastWins⟩ stock cashing) ∧
      (∃ g, (assemble ⟨[item, sale], stockRequests, .lastWins⟩ stock
          { cashing with filters := [] }).outcome = .ok g ∧
        g.attributes.get? "I.PRICE" = some Token.numeric ∧
        g.attributes.get? "I.ID" = priced.attributes.get? "I.ID" ∧
        g.attributes.keys = priced.attributes.keys) ∧
      (assemble ⟨[item, box], stockRequests, .lastWins⟩ stock cashing).SameButLookups
        (assemble ⟨[item, box], stockRequests, .lastWins⟩ restocked cashing) ∧
      ∃ request ∈ ["i.id", "i.note"], ∃ column,
        Columns.Wins stock .lastWins [item, box] (upperAscii request) column ∧
          column.type = .custom "crate" := by
  have hoverall : (assemble ⟨[item, item], stockRequests, .lastWins⟩ stock cashing).outcome =
      .ok { priced with connectives := Lexicon.structural.connectives ++ ["XOR"] } :=
    eq_ok_of_toOption (by decide +kernel)
  have hpriced : (assemble ⟨[item] ++ [], stockRequests, .lastWins⟩ stock
      { cashing with filters := [] }).outcome = .ok priced := eq_ok_of_toOption (by decide +kernel)
  have hsold : (assemble ⟨[item] ++ [sale], stockRequests, .lastWins⟩ stock
      { cashing with filters := [] }).outcome =
        .ok { priced with
          attributes := ⟨[("I.PRICE", Token.numeric), ("I.ID", Token.numeric)]⟩ } :=
    eq_ok_of_toOption (by decide +kernel)
  have hunresolved : (assemble ⟨[item, box], ["i.id", "i.note"], .lastWins⟩ stock
      cashing).outcome = .error (.unresolvedType "crate") := by decide +kernel
  obtain ⟨hinserted, _, hsame, _⟩ := unrequested_columns_unread stock cashing stockRequests
  refine ⟨hoverall, ?_, ⟨_, hsold, rfl, ?_, ?_⟩, ?_, ?_⟩
  · exact hinserted [item] box [item] ⟨_, rfl⟩ (by decide +kernel)
  · obtain ⟨_, _, hothers⟩ :=
      (unrequested_columns_unread stock _ stockRequests).2.1 rfl [item] sale [] _ _ hpriced hsold
    exact hothers "I.ID" (by decide +kernel)
  · exact ((unrequested_columns_unread stock _ stockRequests).2.1 rfl [item] sale [] _ _ hpriced
      hsold).2.1
  · exact hsame [item, box] restocked sameRequested_restocked
  · obtain ⟨request, hrequest, column, hwins, htype, _⟩ :=
      (unrequested_columns_unread stock cashing ["i.id", "i.note"]).2.2.2 _ _ hunresolved
    exact ⟨request, hrequest, column, hwins, htype⟩

end Plan
end FilterLexicon
