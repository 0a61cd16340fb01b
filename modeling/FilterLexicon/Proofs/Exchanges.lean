import FilterLexicon.Proofs.Listening

/-! The exchanges of an assembly with outside parties, and how its failure is accounted for by them. If
a party replies with an error, the assembly ends there and has this failure, with the party's message
as it is. Otherwise no party has replied with an error, and the failure is one of the configuration. It
is enough that this holds for each question and is kept when one part of an assembly follows another. -/

namespace FilterLexicon

open Text (upperAscii)

/-- An exchange with an outside party: who is asked, and what. -/
inductive Exchange where
  | lookup (find : Lookup) (entity : String)
  | resolve (party : Resolver) (query : TypeQuery)
  | filter (party : Filter) (lexicon : Lexicon)

def errorOf {α : Type} : Except String α → Option String
  | .ok _ => none
  | .error reason => some reason

namespace Exchange

/-- The record of an exchange. -/
def calls : Exchange → List Call
  | lookup _ entity => [.lookup entity]
  | resolve party _ => party.recorded
  | filter party _ => [.filter party.label]

/-- The error message of the party, if it replies with one. -/
def error? : Exchange → Option String
  | lookup find entity => errorOf (find entity)
  | resolve party query => errorOf (party.answer query)
  | filter party lexicon => errorOf (party.apply lexicon)

/-- The failure that an error message of the party comes to. -/
def failure (reason : String) : Exchange → Failure
  | lookup _ entity => .lookup entity reason
  | resolve _ query => .handler (Channel.ofType query.column.type.name) reason
  | filter .. => .handler Channel.filters reason

end Exchange

/-- No party replies with an error. -/
def Smooth (exchanges : List Exchange) : Prop := ∀ x ∈ exchanges, x.error? = none

theorem smooth_append {first second : List Exchange} (hfirst : Smooth first)
    (hsecond : Smooth second) : Smooth (first ++ second) :=
  List.forall_mem_append.mpr ⟨hfirst, hsecond⟩

namespace Failure

/-- The failures that an assembly has without any party's doing. -/
inductive Own : Failure → Prop where
  | unknownAttribute (name : String) : Own (.unknownAttribute name)
  | unresolvedType (name : String) : Own (.unresolvedType name)
  | collision (name first second : String) : Own (.collision name first second)

/-- The failure of the party that was asked last: the only one that replied with an error, whose message
the failure gives as it is. -/
inductive ByLast (f : Failure) (exchanges : List Exchange) : Prop where
  | replied {earlier : List Exchange} {last : Exchange} {reason : String}
      (hsplit : exchanges = earlier ++ [last]) (hearlier : Smooth earlier)
      (herror : last.error? = some reason) (hfailure : f = last.failure reason)
      (hreason : f.reason? = some reason)

/-- What a failure after these exchanges is due to: to the configuration if all went smoothly, else to
the party that was asked last. -/
inductive DueTo (f : Failure) (exchanges : List Exchange) : Prop where
  | configuration (hown : f.Own) (hsmooth : Smooth exchanges)
  | party (hlast : f.ByLast exchanges)

theorem DueTo.after {f : Failure} {first second : List Exchange} (h : f.DueTo second)
    (hfirst : Smooth first) : f.DueTo (first ++ second) := by
  cases h with
  | configuration hown hsmooth => exact .configuration hown (smooth_append hfirst hsmooth)
  | party hlast =>
      obtain ⟨hsplit, hearlier, herror, hfailure, hreason⟩ := hlast
      refine .party (.replied ?_ (smooth_append hfirst hearlier) herror hfailure hreason)
      rw [hsplit, List.append_assoc]

theorem Own.isConfiguration {f : Failure} (h : f.Own) : f.isConfiguration = true := by
  cases h <;> rfl

theorem Own.reason? {f : Failure} (h : f.Own) : f.reason? = none := by
  cases h <;> rfl

theorem ByLast.isConfiguration {f : Failure} {exchanges : List Exchange}
    (h : f.ByLast exchanges) : f.isConfiguration = false := by
  obtain @⟨earlier, last, reason, _, _, _, rfl, _⟩ := h
  cases last <;> rfl

theorem ByLast.exists_error {f : Failure} {exchanges : List Exchange} (h : f.ByLast exchanges) :
    ∃ x ∈ exchanges, ∃ reason, x.error? = some reason := by
  obtain @⟨earlier, last, reason, hsplit, _, herror, _, _⟩ := h
  refine ⟨last, ?_, reason, herror⟩
  rw [hsplit]
  exact List.mem_append_right _ List.mem_cons_self

end Failure

theorem Exchange.reason?_failure (x : Exchange) (reason : String) :
    (x.failure reason).reason? = some reason := by
  cases x <;> rfl

/-! ### Accounting for a run -/

namespace Run

variable {α β : Type} {P : Exchange → Prop} {run : Run α} {next : α → Run β}
  {exchanges : List Exchange}

/-- The exchanges that follow a run, if it succeeds. -/
def ifDone (run : Run α) (following : α → List Exchange) : List Exchange :=
  match run.outcome with
  | .ok a => following a
  | .error _ => []

/-- A run is accounted for by exchanges, all of which `P` admits: it makes their calls, all of them go
smoothly if it succeeds, and a failure is due to them. -/
structure AccountedFor (P : Exchange → Prop) (run : Run α) (exchanges : List Exchange) : Prop where
  calls : run.calls = exchanges.flatMap Exchange.calls
  admitted : ∀ x ∈ exchanges, P x
  smooth : ∀ a, run.outcome = .ok a → Smooth exchanges
  due : ∀ f, run.outcome = .error f → f.DueTo exchanges

theorem accountedFor_own (hcalls : run.calls = [])
    (h : ∀ f, run.outcome = .error f → f.Own) : run.AccountedFor P [] where
  calls := hcalls
  admitted := nofun
  smooth _ _ := nofun
  due f hf := .configuration (h f hf) nofun

theorem accountedFor_pure (a : α) : (pure a : Run α).AccountedFor P [] := accountedFor_own rfl nofun

theorem accountedFor_note (e : Event) : (note e).AccountedFor P [] := accountedFor_own rfl nofun

theorem accountedFor_fail {f : Failure} (h : f.Own) : (fail f : Run α).AccountedFor P [] := by
  apply accountedFor_own rfl
  rintro f ⟨⟩
  exact h

/-- A question is accounted for by the exchange that it is. -/
theorem accountedFor_ask {x : Exchange} {calls : List Call} {failure : String → Failure}
    {reply : Except String α} (hP : P x) (hcalls : calls = x.calls)
    (hfailure : ∀ reason, failure reason = x.failure reason) (hreply : errorOf reply = x.error?) :
    (ask calls failure reply).AccountedFor P [x] := by
  have houtcome := ask_outcome calls failure reply
  constructor
  · rw [ask_calls, List.flatMap_singleton, hcalls]
  · exact List.forall_mem_singleton.mpr hP
  · intro a ha
    cases reply with
    | error reason => cases houtcome.symm.trans ha
    | ok reply => exact List.forall_mem_singleton.mpr hreply.symm
  · intro f hf
    cases reply with
    | ok reply => cases houtcome.symm.trans hf
    | error reason =>
        cases houtcome.symm.trans hf
        have hlast := hfailure reason
        refine .party (.replied (List.nil_append _).symm nofun hreply.symm hlast ?_)
        rw [hlast, x.reason?_failure]

/-- What follows a run is accounted for by the exchanges that follow. -/
theorem AccountedFor.bind {following : α → List Exchange} (h : run.AccountedFor P exchanges)
    (hnext : ∀ a, run.outcome = .ok a → (next a).AccountedFor P (following a)) :
    (run >>= next).AccountedFor P (exchanges ++ run.ifDone following) := by
  unfold ifDone
  cases hrun : run.outcome with
  | error failure =>
      rw [bind_of_error hrun, List.append_nil]
      refine ⟨h.calls, h.admitted, nofun, ?_⟩
      rintro f ⟨⟩
      exact h.due _ hrun
  | ok a =>
      have hfollowing := hnext a hrun
      have hsmooth := h.smooth a hrun
      rw [bind_of_ok hrun]
      constructor
      · rw [List.flatMap_append, ← h.calls, ← hfollowing.calls]
      · exact List.forall_mem_append.mpr ⟨h.admitted, hfollowing.admitted⟩
      · intro b hb
        exact smooth_append hsmooth (hfollowing.smooth b hb)
      · intro f hf
        exact (hfollowing.due f hf).after hsmooth

/-- Nothing has to be added for what follows without exchanges. -/
theorem AccountedFor.bind_own (h : run.AccountedFor P exchanges)
    (hnext : ∀ a, (next a).AccountedFor P []) : (run >>= next).AccountedFor P exchanges := by
  have hbind := h.bind fun a _ => hnext a
  have hnothing : run.ifDone (fun _ => []) = [] := by
    unfold ifDone
    cases run.outcome <;> rfl
  rwa [hnothing, List.append_nil] at hbind

theorem AccountedFor.note_bind {e : Event} {next : Unit → Run β}
    (h : (next ()).AccountedFor P exchanges) : (note e >>= next).AccountedFor P exchanges := by
  have hbind : (note e >>= next).AccountedFor P ([] ++ (note e).ifDone fun _ => exchanges) :=
    (accountedFor_note e).bind fun _ _ => h
  exact hbind

end Run

variable {P : Exchange → Prop}

/-! ### Sources -/

namespace Columns

/-- The exchanges while sources are added: each source is looked up if those before it were added. -/
def sourceExchanges (lookup : Lookup) (collisions : Collisions) (columns : Columns) :
    List Source → List Exchange
  | [] => []
  | source :: rest =>
    .lookup lookup source.entity ::
      (columns.addSources lookup collisions [source]).ifDone fun columns =>
        sourceExchanges lookup collisions columns rest

variable {lookup : Lookup} {collisions : Collisions}

theorem addFields_own {source : Source} {columns : Columns} {fields : List (String × StorageType)}
    {f : Failure} (h : (columns.addFields collisions source fields).outcome = .error f) : f.Own := by
  induction fields generalizing columns with
  | nil => cases h
  | cons field fields ih =>
      rw [addFields, Run.bind_outcome_eq_error_iff] at h
      rcases h with h | ⟨columns, -, h⟩
      · unfold add at h
        cases hget : columns.get? (source.attributeName field.1) with
        | none =>
            rw [hget] at h
            cases h
        | some earlier =>
            rw [hget] at h
            cases collisions with
            | lastWins => cases h
            | strict =>
                cases h
                exact .collision _ _ _
      · exact ih h

theorem accountedFor_source (columns : Columns) {source : Source}
    (hP : P (.lookup lookup source.entity)) :
    (columns.addSources lookup collisions [source]).AccountedFor P
      [.lookup lookup source.entity] := by
  have hask : (Run.ask [.lookup source.entity] (.lookup source.entity)
      (lookup source.entity)).AccountedFor P [.lookup lookup source.entity] :=
    Run.accountedFor_ask hP rfl (fun _ => rfl) rfl
  rw [addSources]
  apply hask.bind_own
  intro fields
  apply Run.AccountedFor.note_bind
  apply (Run.accountedFor_own (addFields_calls source columns fields.toList) ?_).bind_own
  · exact Run.accountedFor_pure
  · intro f
    exact addFields_own

theorem accountedFor_sources (columns : Columns) {sources : List Source}
    (hP : ∀ source ∈ sources, P (.lookup lookup source.entity)) :
    (columns.addSources lookup collisions sources).AccountedFor P
      (sourceExchanges lookup collisions columns sources) := by
  induction sources generalizing columns with
  | nil => exact Run.accountedFor_pure columns
  | cons source rest ih =>
      rw [addSources_cons, sourceExchanges]
      apply (accountedFor_source columns (hP source List.mem_cons_self)).bind
      intro columns _
      exact ih columns fun s hs => hP s (List.mem_cons_of_mem _ hs)

end Columns

/-! ### Requests and filters -/

namespace Handlers

/-- The exchanges while resolvers are asked: each is asked if those before it were silent. -/
def resolverExchanges (query : TypeQuery) : List Resolver → List Exchange
  | [] => []
  | resolver :: rest =>
    .resolve resolver query :: (resolver.ask query).ifDone fun
      | some _ => []
      | none => resolverExchanges query rest

/-- The exchanges about a request: those with the resolvers that listen for its column's type, if that
is a custom one. -/
def answerExchanges (handlers : Handlers) (columns : Columns) (request : String) : List Exchange :=
  match columns.get? (upperAscii request) with
  | none => []
  | some column =>
    if column.type.isCustom then
      resolverExchanges { subject := upperAscii request, column }
        (handlers.listening (Channel.ofType column.type.name))
    else []

/-- The exchanges while requests are answered. -/
def requestExchanges (handlers : Handlers) (columns : Columns) : List String → List Exchange
  | [] => []
  | request :: rest =>
    handlers.answerExchanges columns request ++
      (handlers.answering columns request).ifDone fun _ => requestExchanges handlers columns rest

/-- The exchanges while filters are applied, each with the result of the one before. -/
def filterExchanges : List Filter → Lexicon → List Exchange
  | [], _ => []
  | filter :: rest, lexicon =>
    .filter filter lexicon :: (filter.run lexicon).ifDone (filterExchanges rest)

variable {handlers : Handlers} {columns : Columns}

theorem accountedFor_resolvers {query : TypeQuery} {resolvers : List Resolver}
    (hP : ∀ resolver ∈ resolvers, P (.resolve resolver query)) :
    (firstAnswer query resolvers).AccountedFor P (resolverExchanges query resolvers) := by
  induction resolvers with
  | nil =>
      apply Run.AccountedFor.note_bind
      exact Run.accountedFor_pure none
  | cons resolver rest ih =>
      have hask : (resolver.ask query).AccountedFor P [.resolve resolver query] :=
        Run.accountedFor_ask (hP resolver List.mem_cons_self) rfl (fun _ => rfl) rfl
      rw [firstAnswer, resolverExchanges]
      apply hask.bind
      intro answer _
      cases answer with
      | some operators =>
          apply Run.AccountedFor.note_bind
          exact Run.accountedFor_pure (some operators)
      | none => exact ih fun r hr => hP r (List.mem_cons_of_mem _ hr)

theorem accountedFor_request {request : String}
    (hP : ∀ column, columns.get? (upperAscii request) = some column → column.type.isCustom = true →
      ∀ resolver ∈ handlers.listening (Channel.ofType column.type.name),
        P (.resolve resolver { subject := upperAscii request, column })) :
    (handlers.answering columns request).AccountedFor P
      (handlers.answerExchanges columns request) := by
  unfold answering answerExchanges
  cases hget : columns.get? (upperAscii request) with
  | none => exact Run.accountedFor_fail (.unknownAttribute _)
  | some column =>
      simp only [operatorsOf]
      cases hown : column.type.operators? with
      | some operators =>
          rw [if_neg (by rw [StorageType.isCustom_iff, hown]; nofun)]
          exact Run.accountedFor_pure operators
      | none =>
          have hcustom := StorageType.isCustom_iff.mpr hown
          rw [if_pos hcustom]
          apply (accountedFor_resolvers (hP column hget hcustom)).bind_own
          intro answer
          cases answer with
          | some operators => exact Run.accountedFor_pure operators
          | none => exact Run.accountedFor_fail (.unresolvedType _)

theorem accountedFor_requests {requests : List String}
    (hP : ∀ request ∈ requests, ∀ column, columns.get? (upperAscii request) = some column →
      column.type.isCustom = true →
        ∀ resolver ∈ handlers.listening (Channel.ofType column.type.name),
          P (.resolve resolver { subject := upperAscii request, column }))
    (attributes : Entries Operators) :
    (handlers.addRequests columns attributes requests).AccountedFor P
      (handlers.requestExchanges columns requests) := by
  induction requests generalizing attributes with
  | nil => exact Run.accountedFor_pure attributes
  | cons request rest ih =>
      rw [addRequests_cons, requestExchanges]
      apply (accountedFor_request (hP request List.mem_cons_self)).bind
      intro operators _
      exact ih (fun r hr => hP r (List.mem_cons_of_mem _ hr)) _

theorem accountedFor_filters {filters : List Filter}
    (hP : ∀ filter ∈ filters, ∀ lexicon, P (.filter filter lexicon)) (index : Nat)
    (lexicon : Lexicon) :
    (applyFilters index filters lexicon).AccountedFor P (filterExchanges filters lexicon) := by
  induction filters generalizing index lexicon with
  | nil => exact Run.accountedFor_pure lexicon
  | cons filter rest ih =>
      have hrun : (filter.run lexicon).AccountedFor P [.filter filter lexicon] :=
        Run.accountedFor_ask (hP filter List.mem_cons_self lexicon) rfl (fun _ => rfl) rfl
      rw [applyFilters, filterExchanges]
      apply Run.AccountedFor.note_bind
      apply hrun.bind
      intro filtered _
      exact ih (fun f hf => hP f (List.mem_cons_of_mem _ hf)) _ filtered

end Handlers

/-! ### The whole assembly -/

namespace Plan

variable (plan : Plan) (lookup : Lookup) (handlers : Handlers)

/-- What an assembly may ask, and whom: the lookup for the entities of its sources, the listening
resolvers for the custom types of requested columns, and the filters. -/
inductive Asks : Exchange → Prop where
  | source {source : Source} (hsource : source ∈ plan.sources) :
      Asks (.lookup lookup source.entity)
  | resolver {request : String} {column : Column} {resolver : Resolver}
      (hrequest : request ∈ plan.requests)
      (hwins : Columns.Wins lookup plan.collisions plan.sources (upperAscii request) column)
      (hcustom : column.type.isCustom = true)
      (hresolver : resolver ∈ handlers.listening (Channel.ofType column.type.name)) :
      Asks (.resolve resolver { subject := upperAscii request, column })
  | filter {filter : Filter} {lexicon : Lexicon} (hfilter : filter ∈ handlers.filters) :
      Asks (.filter filter lexicon)

/-- The exchanges of an assembly. -/
def exchanges : List Exchange :=
  Columns.sourceExchanges lookup plan.collisions {} plan.sources ++
    (Columns.collect lookup plan.collisions plan.sources).ifDone fun columns =>
      handlers.requestExchanges columns plan.requests ++
        (handlers.addRequests columns {} plan.requests).ifDone fun attributes =>
          Handlers.filterExchanges handlers.filters { Lexicon.structural with attributes }

theorem assemble_accountedFor :
    (plan.assemble lookup handlers).AccountedFor (plan.Asks lookup handlers)
      (plan.exchanges lookup handlers) := by
  have hcollect : (Columns.collect lookup plan.collisions plan.sources).AccountedFor
      (plan.Asks lookup handlers) (Columns.sourceExchanges lookup plan.collisions {} plan.sources) :=
    Columns.accountedFor_sources {} fun source hsource => .source hsource
  rw [assemble_eq_bind, exchanges]
  apply hcollect.bind
  intro columns hcolumns
  apply Run.AccountedFor.bind
  · apply Handlers.accountedFor_requests
    intro request hrequest column hcolumn hcustom resolver hresolver
    exact .resolver hrequest (.collected hcolumns hcolumn) hcustom hresolver
  · intro attributes _
    apply Run.AccountedFor.note_bind
    exact Handlers.accountedFor_filters (fun filter hfilter _ => .filter hfilter) 0 _

variable {plan lookup handlers}

/-- If an assembly fails, its exchanges are those that its calls record, and it is the failure of an
outside party exactly if one of them replied with an error. Then this was the only error and the last
exchange, and the failure names the entity or the channel with the party's message as it is. Otherwise
the configuration is at fault and there is no message; no pattern is ever found invalid. -/
theorem failure_accounted_for {f : Failure}
    (h : (plan.assemble lookup handlers).outcome = .error f) :
    ((plan.assemble lookup handlers).calls =
        (plan.exchanges lookup handlers).flatMap Exchange.calls ∧
      ∀ x ∈ plan.exchanges lookup handlers, plan.Asks lookup handlers x) ∧
    (f.isConfiguration = false ↔
      ∃ x ∈ plan.exchanges lookup handlers, ∃ reason, x.error? = some reason) ∧
    (f.isConfiguration = false → f.ByLast (plan.exchanges lookup handlers)) ∧
    (f.isConfiguration = true → f.Own ∧ f.reason? = none) ∧
    ∀ pattern, f ≠ .invalidPattern pattern := by
  have haccount := assemble_accountedFor plan lookup handlers
  refine ⟨⟨haccount.calls, haccount.admitted⟩, ?_⟩
  cases haccount.due f h with
  | configuration hown hsmooth =>
      have hisConfiguration := hown.isConfiguration
      refine ⟨?_, ?_, fun _ => ⟨hown, hown.reason?⟩, ?_⟩
      · rw [hisConfiguration]
        refine iff_of_false nofun ?_
        rintro ⟨x, hx, reason, herror⟩
        cases (hsmooth x hx).symm.trans herror
      · rw [hisConfiguration]
        nofun
      · rintro pattern rfl
        cases hown
  | party hlast =>
      have hisConfiguration := hlast.isConfiguration
      refine ⟨iff_of_true hisConfiguration hlast.exists_error, fun _ => hlast, ?_, ?_⟩
      · rw [hisConfiguration]
        nofun
      · rintro pattern rfl
        cases hisConfiguration

/-- An entity with a custom type, and one whose lookup fails. -/
def market : Lookup := fun entity =>
  if entity = "gone" then .error "offline"
  else (Catalog.ofTable [("a", [("count", "integer"), ("rate", "Money")])]).lookup entity

def marketPlan (sources : List Source) : Plan :=
  { sources := ⟨"a", "p"⟩ :: sources, requests := ["p.count", "p.rate"] }

/-- A silent resolver and then one with a reply, and a filter that refuses after one that does not. -/
def replying (reply : Reply) : Handlers :=
  { resolvers := [.scripted "quiet" none .silence, .scripted "bank" none reply]
    filters := [.scripted "f" [.pushConnective "XOR"], .scripted "g" [.refuse "too late"]] }

theorem failure_accounted_for_market :
    Failure.ByLast (.lookup "gone" "offline")
        ((marketPlan [⟨"gone", "q"⟩]).exchanges market (replying .echo)) ∧
      Failure.ByLast (.handler "Grammar_Attributes_Type_Money" "closed")
        ((marketPlan []).exchanges market (replying (.refuse "closed"))) ∧
      Failure.ByLast (.handler "Grammar_FilterGrammar" "too late")
        ((marketPlan []).exchanges market (replying .echo)) ∧
      ¬∃ x ∈ (marketPlan []).exchanges market (replying .silence), ∃ reason,
        x.error? = some reason := by
  have hlookup : ((marketPlan [⟨"gone", "q"⟩]).assemble market (replying .echo)).outcome =
      .error (.lookup "gone" "offline") := by decide +kernel
  have hresolver : ((marketPlan []).assemble market (replying (.refuse "closed"))).outcome =
      .error (.handler "Grammar_Attributes_Type_Money" "closed") := by decide +kernel
  have hfilter : ((marketPlan []).assemble market (replying .echo)).outcome =
      .error (.handler "Grammar_FilterGrammar" "too late") := by decide +kernel
  have hunresolved : ((marketPlan []).assemble market (replying .silence)).outcome =
      .error (.unresolvedType "Money") := by decide +kernel
  refine ⟨?_, ?_, ?_, ?_⟩
  · exact (failure_accounted_for hlookup).2.2.1 rfl
  · exact (failure_accounted_for hresolver).2.2.1 rfl
  · exact (failure_accounted_for hfilter).2.2.1 rfl
  · intro hexists
    cases (failure_accounted_for hunresolved).2.1.mpr hexists

end Plan
end FilterLexicon
