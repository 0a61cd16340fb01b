import FilterLexicon.Catalog
import FilterLexicon.Proofs.Stages
import FilterLexicon.Script

/-! The calls of an assembly. Each of its three stages goes through a list, calls outside parties for
each element and ends behind the first element that goes wrong, and no stage begins if the one before
has ended early. So the calls are known from the input: the sources that are looked up, the resolvers
that each request is put to, and the filters. -/

namespace FilterLexicon

open Text (upperAscii)

/-! ### Up to the first that goes wrong -/

/-- The elements up to and including the first behind which `P` no longer holds of all elements so far,
those of `earlier` included. -/
def upTo {α : Type} (P : List α → Prop) [DecidablePred P] (earlier : List α) : List α → List α
  | [] => []
  | a :: later => if P (earlier ++ [a]) then a :: upTo P (earlier ++ [a]) later else [a]

/-- One step of a loop that records `record a` for each element `a` and goes on while `P` holds. -/
theorem Run.bind_calls_upTo {α β γ : Type} {P : List α → Prop} [DecidablePred P] {earlier : List α}
    {a : α} {later : List α} {record : α → List Call} {run : Run β} {next : β → Run γ}
    (hcalls : run.calls = record a)
    (hgood : P (earlier ++ [a]) → ∃ b, run.outcome = .ok b ∧
      (next b).calls = (upTo P (earlier ++ [a]) later).flatMap record)
    (hbad : ¬P (earlier ++ [a]) → ∀ b, run.outcome = .ok b → (next b).calls = []) :
    (run >>= next).calls = (upTo P earlier (a :: later)).flatMap record := by
  rw [bind_calls, hcalls, upTo]
  by_cases h : P (earlier ++ [a])
  · obtain ⟨b, houtcome, hnext⟩ := hgood h
    rw [if_pos h, houtcome, List.flatMap_cons, ← hnext]
  · rw [if_neg h, List.flatMap_singleton]
    cases houtcome : run.outcome with
    | ok b => simp only [hbad h b houtcome, List.append_nil]
    | error failure => exact List.append_nil _

instance decidableIsOk {ε α : Type} (reply : Except ε α) : Decidable (∃ a, reply = .ok a) :=
  match reply with
  | .ok a => isTrue ⟨a, rfl⟩
  | .error _ => isFalse nofun

/-! ### Sources -/

namespace Columns

variable {lookup : Lookup} {collisions : Collisions}

instance : DecidablePred (Merged lookup collisions) := fun sources =>
  decidable_of_iff
    ((∀ source ∈ sources, ∃ fields, lookup source.entity = .ok fields) ∧
      (collisions = .strict → ((reached lookup sources).map Prod.fst).Nodup))
    ⟨fun h => ⟨h.1, h.2⟩, fun h => ⟨h.found, h.distinct⟩⟩

theorem addFields_calls (source : Source) (columns : Columns)
    (fields : List (String × StorageType)) :
    (columns.addFields collisions source fields).calls = [] := by
  have hadd (columns : Columns) (name : String) (column : Column) :
      (columns.add collisions name column).calls = [] := by
    unfold add
    cases columns.get? name <;> cases collisions <;> rfl
  induction fields generalizing columns with
  | nil => rfl
  | cons f fields ih =>
      rw [addFields, Run.bind_calls, hadd]
      cases (columns.add collisions _ _).outcome with
      | error failure => rfl
      | ok columns => exact ih columns

theorem addSources_cons (columns : Columns) (source : Source) (rest : List Source) :
    columns.addSources lookup collisions (source :: rest) =
      columns.addSources lookup collisions [source] >>= fun columns =>
        columns.addSources lookup collisions rest := by
  simp only [addSources, bind_assoc, pure_bind]

theorem addSources_single_calls (columns : Columns) (source : Source) :
    (columns.addSources lookup collisions [source]).calls = [.lookup source.entity] := by
  simp only [addSources, bind_pure, Run.bind_calls, Run.ask_calls, addFields_calls]
  cases (Run.ask [.lookup source.entity] (Failure.lookup source.entity)
    (lookup source.entity)).outcome <;> rfl

/-- Behind merged sources, the collection looks up each source up to the first that is not merged. -/
theorem addSources_calls {earlier : List Source} (h : Merged lookup collisions earlier)
    (later : List Source) :
    ((table lookup earlier).addSources lookup collisions later).calls =
      (upTo (Merged lookup collisions) earlier later).flatMap
        fun source => [.lookup source.entity] := by
  induction later generalizing earlier with
  | nil => rfl
  | cons source rest ih =>
      rw [addSources_cons]
      refine Run.bind_calls_upTo (addSources_single_calls _ source) ?_ ?_
      · intro hmerged
        exact ⟨_, (addSources_eq_ok_iff h).mpr ⟨hmerged, rfl⟩, ih hmerged⟩
      · intro hnot columns houtcome
        exact absurd ((addSources_eq_ok_iff h).mp houtcome).1 hnot

end Columns

/-! ### Requests -/

/-- The record of a resolver's call. -/
def Resolver.recorded (resolver : Resolver) : List Call := resolver.label.toList.map .resolve

namespace Handlers

/-- No resolver says anything to a query. -/
def Silent (query : TypeQuery) (resolvers : List Resolver) : Prop :=
  ∀ resolver ∈ resolvers, resolver.reply? query = none

instance (query : TypeQuery) : DecidablePred (Silent query) := fun resolvers =>
  inferInstanceAs (Decidable (∀ resolver ∈ resolvers, resolver.reply? query = none))

/-- The resolvers that a query is put to: none if its type is builtin, and else those listening on its
channel up to and including the first that says anything. -/
def consulted (handlers : Handlers) (query : TypeQuery) : List Resolver :=
  if query.column.type.isCustom then
    upTo (Silent query) [] (handlers.listening query.channel)
  else []

/-- The calls for a request. -/
def consultation (handlers : Handlers) (columns : List (String × Column)) (request : String) :
    List Call :=
  match query? columns request with
  | some query => (handlers.consulted query).flatMap Resolver.recorded
  | none => []

instance (handlers : Handlers) (columns : List (String × Column)) :
    DecidablePred (handlers.Supplied columns) := fun requests =>
  inferInstanceAs (Decidable (∀ request ∈ requests, (handlers.supplied? columns request).isSome))

theorem firstAnswer_calls {query : TypeQuery} {earlier : List Resolver} (h : Silent query earlier)
    (later : List Resolver) :
    (firstAnswer query later).calls =
      (upTo (Silent query) earlier later).flatMap Resolver.recorded := by
  induction later generalizing earlier with
  | nil => rfl
  | cons resolver rest ih =>
      have hask := ask_outcome resolver query
      have hsilent : Silent query (earlier ++ [resolver]) ↔ resolver.answer query = .ok none := by
        simp only [Silent, List.forall_mem_append, List.forall_mem_singleton, reply?_eq_none_iff] at h ⊢
        exact and_iff_right h
      refine Run.bind_calls_upTo (Run.ask_calls _ _ _) ?_ ?_
      · intro hrest
        rw [hsilent.mp hrest] at hask
        exact ⟨none, hask, ih hrest⟩
      · intro hspeaks answer hanswer
        cases answer with
        | some operators => rfl
        | none =>
            rw [hask] at hanswer
            cases hreply : resolver.answer query with
            | error reason =>
                rw [hreply] at hanswer
                cases hanswer
            | ok answer =>
                rw [hreply] at hanswer
                cases hanswer
                exact absurd (hsilent.mpr hreply) hspeaks

theorem operatorsOf_calls (handlers : Handlers) (name : String) (column : Column) :
    (handlers.operatorsOf name column).calls =
      (handlers.consulted { subject := name, column }).flatMap Resolver.recorded := by
  unfold operatorsOf consulted
  cases hown : column.type.operators? with
  | some operators =>
      rw [if_neg (by rw [StorageType.isCustom_iff, hown]; nofun)]
      rfl
  | none =>
      have hsilent : Silent { subject := name, column } [] := nofun
      rw [if_pos (StorageType.isCustom_iff.mpr hown), ← firstAnswer_calls hsilent]
      simp only
      rw [Run.bind_calls, resolve]
      cases (firstAnswer _ _).outcome with
      | error failure => exact List.append_nil _
      | ok answer => cases answer <;> exact List.append_nil _

/-- The answering of a single request. -/
def answering (handlers : Handlers) (columns : Columns) (request : String) : Run Operators :=
  match columns.get? (upperAscii request) with
  | none => Run.fail (.unknownAttribute (upperAscii request))
  | some column => handlers.operatorsOf (upperAscii request) column

theorem addRequests_cons (handlers : Handlers) (columns : Columns) (attributes : Entries Operators)
    (request : String) (rest : List String) :
    handlers.addRequests columns attributes (request :: rest) =
      handlers.answering columns request >>= fun operators =>
        handlers.addRequests columns (attributes.insert (upperAscii request) operators) rest := by
  rw [addRequests, answering]
  cases columns.get? (upperAscii request) with
  | none => rw [Run.bind_of_error rfl]; rfl
  | some column => rfl

theorem answering_calls (handlers : Handlers) (columns : List (String × Column)) (request : String) :
    (handlers.answering (Entries.ofList columns) request).calls =
      handlers.consultation columns request := by
  unfold answering consultation query?
  rw [Entries.get?_ofList]
  cases columns.reverse.lookup (upperAscii request) with
  | none => rfl
  | some column => exact operatorsOf_calls handlers (upperAscii request) column

theorem answering_outcome (handlers : Handlers) (columns : Columns) (request : String) :
    (handlers.answering columns request).outcome = handlers.answer columns request := by
  unfold answering answer
  cases columns.get? (upperAscii request) <;> rfl

theorem answering_toOption (handlers : Handlers) (columns : List (String × Column))
    (request : String) :
    (handlers.answering (Entries.ofList columns) request).outcome.toOption =
      handlers.supplied? columns request := by
  rw [answering_outcome, answer_toOption]

/-- Answers to the single requests that are the same add up to the same. -/
theorem addRequests_of_answering {handlers other : Handlers} {columns others : Columns}
    {requests : List String}
    (h : ∀ request ∈ requests, handlers.answering columns request = other.answering others request)
    (attributes : Entries Operators) :
    handlers.addRequests columns attributes requests =
      other.addRequests others attributes requests := by
  induction requests generalizing attributes with
  | nil => rfl
  | cons request rest ih =>
      rw [addRequests_cons, addRequests_cons, h request List.mem_cons_self]
      apply bind_congr
      intro operators
      exact ih (fun r hr => h r (List.mem_cons_of_mem _ hr)) _

/-- Behind requests that are all given operators, the answering consults resolvers for each request up
to the first that is not. -/
theorem addRequests_calls {handlers : Handlers} {columns : List (String × Column)}
    {earlier : List String} (h : handlers.Supplied columns earlier)
    (attributes : Entries Operators) (later : List String) :
    (handlers.addRequests (Entries.ofList columns) attributes later).calls =
      (upTo (handlers.Supplied columns) earlier later).flatMap
        (handlers.consultation columns) := by
  induction later generalizing earlier attributes with
  | nil => rfl
  | cons request rest ih =>
      have hsupplied : handlers.Supplied columns (earlier ++ [request]) ↔
          (handlers.supplied? columns request).isSome := by
        simp only [Supplied, List.forall_mem_append, List.forall_mem_singleton] at h ⊢
        exact and_iff_right h
      have houtcome := answering_toOption handlers columns request
      rw [addRequests_cons]
      refine Run.bind_calls_upTo (answering_calls handlers columns request) ?_ ?_
      · intro hgiven
        rw [hsupplied, ← houtcome] at hgiven
        cases hanswering : (handlers.answering (Entries.ofList columns) request).outcome with
        | error failure =>
            rw [hanswering] at hgiven
            cases hgiven
        | ok operators =>
            refine ⟨operators, rfl, ih (hsupplied.mpr ?_) _⟩
            rw [← houtcome, hanswering]
            rfl
      · intro hnot operators hanswering
        rw [hanswering] at houtcome
        exact absurd (hsupplied.mpr (houtcome ▸ rfl)) hnot

/-! ### Filters -/

/-- The filters of a list pass, one on the result of the other. -/
def Passed (lexicon : Lexicon) (filters : List Filter) : Prop :=
  ∃ filtered, chain filters lexicon = .ok filtered

instance (lexicon : Lexicon) : DecidablePred (Passed lexicon) := fun filters =>
  inferInstanceAs (Decidable (∃ filtered, chain filters lexicon = .ok filtered))

theorem chain_snoc {filters : List Filter} {lexicon filtered : Lexicon}
    (h : chain filters lexicon = .ok filtered) (filter : Filter) :
    chain (filters ++ [filter]) lexicon = filter.apply filtered := by
  rw [chain_append, h]
  show (filter.apply filtered >>= pure) = _
  exact bind_pure _

/-- Behind filters that pass, each filter is called up to the first that fails. -/
theorem applyFilters_calls {lexicon filtered : Lexicon} {earlier : List Filter}
    (h : chain earlier lexicon = .ok filtered) (index : Nat) (later : List Filter) :
    (applyFilters index later filtered).calls =
      (upTo (Passed lexicon) earlier later).flatMap fun filter => [.filter filter.label] := by
  induction later generalizing earlier filtered index with
  | nil => rfl
  | cons filter rest ih =>
      have hchain := chain_snoc h filter
      have hrun : (filter.run filtered).outcome =
          (filter.apply filtered).mapError (.handler Channel.filters) := Run.ask_outcome _ _ _
      have hnote : (Run.note (.filtering index)).outcome = .ok () := rfl
      rw [applyFilters, Run.bind_of_ok hnote]
      refine (List.nil_append _).trans (Run.bind_calls_upTo (Run.ask_calls _ _ _) ?_ ?_)
      · rintro ⟨next, hnext⟩
        rw [hchain] at hnext
        rw [hnext] at hrun
        exact ⟨next, hrun, ih (hchain.trans hnext) (index + 1)⟩
      · intro hfails next hnext
        rw [hrun] at hnext
        cases happly : filter.apply filtered with
        | error reason =>
            rw [happly] at hnext
            cases hnext
        | ok filtered => exact absurd ⟨filtered, hchain.trans happly⟩ hfails

theorem filter_calls (handlers : Handlers) (lexicon : Lexicon) :
    (handlers.filter lexicon).calls =
      (upTo (Passed lexicon) [] handlers.filters).flatMap fun filter => [.filter filter.label] :=
  applyFilters_calls rfl 0 handlers.filters

end Handlers

/-! ### The whole assembly -/

namespace Plan

variable (plan : Plan) (lookup : Lookup) (handlers : Handlers)

/-- The lookups of an assembly: one for each source, up to the first that is not merged. -/
def lookups : List Call :=
  (upTo (Columns.Merged lookup plan.collisions) [] plan.sources).map
    fun source => .lookup source.entity

/-- The consultations of resolvers: those for each request, up to the first that is not given
operators, and none unless all sources are merged. -/
def consultations : List Call :=
  if Columns.Merged lookup plan.collisions plan.sources then
    (upTo (handlers.Supplied (plan.columns lookup)) [] plan.requests).flatMap
      (handlers.consultation (plan.columns lookup))
  else []

/-- The calls of filters: one for each, up to the first that fails, and none unless all sources are
merged and all requests are given operators. -/
def filterings : List Call :=
  if Columns.Merged lookup plan.collisions plan.sources ∧
      handlers.Supplied (plan.columns lookup) plan.requests then
    (upTo (Handlers.Passed (handlers.draft (plan.columns lookup) plan.requests)) []
      handlers.filters).map fun filter => .filter filter.label
  else []

variable {plan lookup handlers}

theorem collect_calls : (Columns.collect lookup plan.collisions plan.sources).calls =
    plan.lookups lookup := by
  rw [lookups, List.map_eq_flatMap]
  exact Columns.addSources_calls (Columns.merged_nil lookup plan.collisions) plan.sources

theorem requests_calls (h : Columns.Merged lookup plan.collisions plan.sources) :
    (handlers.addRequests (Columns.table lookup plan.sources) {} plan.requests).calls =
      plan.consultations lookup handlers := by
  have hnone : handlers.Supplied (plan.columns lookup) [] := nofun
  rw [consultations, if_pos h]
  exact Handlers.addRequests_calls hnone {} plan.requests

/-- The calls of the mapping are lookups and consultations. -/
theorem attributes_calls : (plan.attributes lookup handlers).calls =
    plan.lookups lookup ++ plan.consultations lookup handlers := by
  rw [attributes, Run.bind_calls, collect_calls]
  congr 1
  cases houtcome : (Columns.collect lookup plan.collisions plan.sources).outcome with
  | ok columns =>
      obtain ⟨hmerged, rfl⟩ := Columns.collect_eq_ok_iff.mp houtcome
      exact requests_calls hmerged
  | error failure =>
      have hnot : ¬Columns.Merged lookup plan.collisions plan.sources := by
        intro hmerged
        rw [Columns.collect_eq_ok_iff.mpr ⟨hmerged, rfl⟩] at houtcome
        cases houtcome
      rw [consultations, if_neg hnot]

/-- What follows the collection of merged sources. -/
theorem answer_filter_calls (h : Columns.Merged lookup plan.collisions plan.sources) :
    (handlers.addRequests (Columns.table lookup plan.sources) {} plan.requests >>= fun attributes =>
      Run.note (.assembled attributes.size handlers.filters.length) >>= fun _ =>
        handlers.filter { Lexicon.structural with attributes }).calls =
      plan.consultations lookup handlers ++ plan.filterings lookup handlers := by
  have hok (attributes : Entries Operators) :
      (handlers.addRequests (Columns.table lookup plan.sources) {} plan.requests).outcome =
          .ok attributes ↔
        handlers.Supplied (plan.columns lookup) plan.requests ∧
          { Lexicon.structural with attributes } =
            handlers.draft (plan.columns lookup) plan.requests :=
    Handlers.addRequests_ofList_eq_ok_iff
  rw [Run.bind_calls, requests_calls h, filterings]
  congr 1
  cases houtcome : (handlers.addRequests (Columns.table lookup plan.sources) {}
      plan.requests).outcome with
  | ok attributes =>
      obtain ⟨hsupplied, hdraft⟩ := (hok attributes).mp houtcome
      rw [if_pos ⟨h, hsupplied⟩, List.map_eq_flatMap, ← hdraft]
      exact Handlers.filter_calls handlers _
  | error failure =>
      have hnot : ¬handlers.Supplied (plan.columns lookup) plan.requests := by
        intro hsupplied
        rw [(hok _).mpr ⟨hsupplied, rfl⟩] at houtcome
        cases houtcome
      rw [if_neg fun hall => hnot hall.2]

/-- The calls of an assembly are the lookups, the consultations and the calls of filters, in this
order, and it succeeds exactly when none of the three was cut short. -/
theorem assemble_calls (plan : Plan) (lookup : Lookup) (handlers : Handlers) :
    (plan.assemble lookup handlers).calls =
        plan.lookups lookup ++ plan.consultations lookup handlers ++
          plan.filterings lookup handlers ∧
      ((∃ g, (plan.assemble lookup handlers).outcome = .ok g) ↔
        Columns.Merged lookup plan.collisions plan.sources ∧
          handlers.Supplied (plan.columns lookup) plan.requests ∧
            Handlers.Passed (handlers.draft (plan.columns lookup) plan.requests)
              handlers.filters) := by
  constructor
  · rw [assemble_eq_bind, Run.bind_calls, collect_calls, List.append_assoc]
    congr 1
    cases houtcome : (Columns.collect lookup plan.collisions plan.sources).outcome with
    | ok columns =>
        obtain ⟨hmerged, rfl⟩ := Columns.collect_eq_ok_iff.mp houtcome
        exact answer_filter_calls hmerged
    | error failure =>
        have hnot : ¬Columns.Merged lookup plan.collisions plan.sources := by
          intro hmerged
          rw [Columns.collect_eq_ok_iff.mpr ⟨hmerged, rfl⟩] at houtcome
          cases houtcome
        rw [consultations, filterings, if_neg hnot, if_neg fun h => hnot h.1]
        rfl
  · simp only [assemble_eq_ok_iff, exists_and_left]
    rfl

/-- Repeated sources are looked up again, a builtin type is put to no resolver, and no filter is called
behind a request that has no column. -/
example :
    let lookup := (Catalog.ofTable [("a", [("x", "currency"), ("y", "date")])]).lookup
    let handlers : Handlers :=
      { resolvers := [.scripted "r" none .silence, .scripted "s" none (.operators ["="])]
        filters := [.scripted "f" []] }
    (assemble ⟨[⟨"a", "p"⟩, ⟨"a", "p"⟩], ["p.y", "p.x", "p.z"], .lastWins⟩ lookup handlers).calls =
      [.lookup "a", .lookup "a", .resolve "r", .resolve "s"] := by
  decide +kernel

end Plan
end FilterLexicon
