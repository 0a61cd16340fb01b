import FilterLexicon.Proofs.Calls
import FilterLexicon.Proofs.ColumnTable

/-! Resolvers and the channels they listen on. A query reaches only the resolvers that listen on its
channel, and only columns of custom types lead to queries. So handlers that have the same audience on
the channels of these types cannot be told apart by an assembly, and a request for a column of a
builtin type passes all resolvers by. -/

namespace FilterLexicon

open Text (upperAscii)

/-- The resolver, whatever channel it is registered for. -/
def Resolver.unbound (resolver : Resolver) : Resolver := { resolver with channel := none }

def Call.isResolve : Call → Bool
  | resolve _ => true
  | _ => false

/-- The column that counts for a name: the one that the collected columns have under it. -/
inductive Columns.Wins (lookup : Lookup) (collisions : Collisions) (sources : List Source)
    (name : String) (column : Column) : Prop where
  | collected {columns : Columns}
      (hcollect : (collect lookup collisions sources).outcome = .ok columns)
      (hcolumn : columns.get? name = some column)

theorem Columns.wins_iff {lookup : Lookup} {collisions : Collisions} {sources : List Source}
    {name : String} {column : Column} :
    Wins lookup collisions sources name column ↔
      Merged lookup collisions sources ∧ (table lookup sources).get? name = some column := by
  constructor
  · rintro ⟨hcollect, hcolumn⟩
    obtain ⟨hmerged, rfl⟩ := collect_eq_ok_iff.mp hcollect
    exact ⟨hmerged, hcolumn⟩
  · rintro ⟨hmerged, hcolumn⟩
    exact .collected (collect_eq_ok_iff.mpr ⟨hmerged, rfl⟩) hcolumn

namespace Handlers

/-- The resolvers that a query on a channel is put to, in order. It makes no difference whether they
are registered for this channel or for every one. -/
def audience (handlers : Handlers) (channel : String) : List Resolver :=
  (handlers.listening channel).map Resolver.unbound

/-! ### The same audience -/

theorem firstAnswer_unbound (query : TypeQuery) (resolvers : List Resolver) :
    firstAnswer query (resolvers.map Resolver.unbound) = firstAnswer query resolvers := by
  induction resolvers with
  | nil => rfl
  | cons resolver rest ih =>
      have hask : resolver.unbound.ask query = resolver.ask query := rfl
      rw [List.map_cons, firstAnswer, firstAnswer, hask, ih]

variable {handlers other : Handlers} {columns : Columns}

theorem resolve_of_audience {query : TypeQuery}
    (h : handlers.audience query.channel = other.audience query.channel) :
    handlers.resolve query = other.resolve query := by
  calc handlers.resolve query
      = firstAnswer query (handlers.audience query.channel) := (firstAnswer_unbound query _).symm
    _ = firstAnswer query (other.audience query.channel) := by rw [h]
    _ = other.resolve query := firstAnswer_unbound query _

/-- The operators of a column depend on the audience for its type, and only if its type is custom. -/
theorem operatorsOf_of_audience {column : Column}
    (h : column.type.isCustom = true →
      handlers.audience (Channel.ofType column.type.name) =
        other.audience (Channel.ofType column.type.name)) (name : String) :
    handlers.operatorsOf name column = other.operatorsOf name column := by
  unfold operatorsOf
  cases hown : column.type.operators? with
  | some operators => rfl
  | none =>
      have hresolve : handlers.resolve { subject := name, column } =
          other.resolve { subject := name, column } :=
        resolve_of_audience (h (StorageType.isCustom_iff.mpr hown))
      simp only [hresolve]

theorem addRequests_of_audience {requests : List String}
    (h : ∀ request ∈ requests, ∀ column, columns.get? (upperAscii request) = some column →
      column.type.isCustom = true →
        handlers.audience (Channel.ofType column.type.name) =
          other.audience (Channel.ofType column.type.name)) (attributes : Entries Operators) :
    handlers.addRequests columns attributes requests =
      other.addRequests columns attributes requests := by
  apply addRequests_of_answering
  intro request hrequest
  unfold answering
  cases hget : columns.get? (upperAscii request) with
  | none => rfl
  | some column => exact operatorsOf_of_audience (h request hrequest column hget) _

/-! ### Builtin types -/

theorem answering_of_builtin {request : String} {column : Column} {operators : Operators}
    (hcolumn : columns.get? (upperAscii request) = some column)
    (htype : column.type.operators? = some operators) :
    handlers.answering columns request = pure operators := by
  unfold answering operatorsOf
  rw [hcolumn]
  simp only [htype]

theorem addRequests_calls_eq (attributes others : Entries Operators) (requests : List String) :
    (handlers.addRequests columns attributes requests).calls =
      (handlers.addRequests columns others requests).calls := by
  induction requests generalizing attributes others with
  | nil => rfl
  | cons request rest ih =>
      rw [addRequests_cons, addRequests_cons, Run.bind_calls, Run.bind_calls]
      cases (handlers.answering columns request).outcome with
      | error failure => rfl
      | ok operators => exact congrArg _ (ih _ _)

/-- A request that is answered without a call can be left out without any call being missed. -/
theorem addRequests_calls_without {request : String} {operators : Operators}
    (h : handlers.answering columns request = pure operators) (attributes : Entries Operators)
    (earlier later : List String) :
    (handlers.addRequests columns attributes (earlier ++ request :: later)).calls =
      (handlers.addRequests columns attributes (earlier ++ later)).calls := by
  induction earlier generalizing attributes with
  | nil =>
      rw [List.nil_append, addRequests_cons, h, pure_bind]
      exact addRequests_calls_eq _ _ later
  | cons first earlier ih =>
      rw [List.cons_append, List.cons_append, addRequests_cons, addRequests_cons, Run.bind_calls,
        Run.bind_calls]
      cases (handlers.answering columns first).outcome with
      | error failure => rfl
      | ok operators => exact congrArg _ (ih _)

theorem filter_calls_isResolve (handlers : Handlers) (lexicon : Lexicon) :
    (handlers.filter lexicon).calls.filter Call.isResolve = [] := by
  rw [filter_calls, ← List.map_eq_flatMap, List.filter_map]
  exact List.map_eq_nil_iff.mpr (List.filter_eq_nil_iff.mpr fun _ _ => Bool.false_ne_true)

end Handlers

namespace Plan

variable {plan : Plan} {lookup : Lookup} {handlers other : Handlers}

theorem attributes_of_audience
    (h : ∀ request ∈ plan.requests, ∀ column,
      Columns.Wins lookup plan.collisions plan.sources (upperAscii request) column →
        column.type.isCustom = true →
          handlers.audience (Channel.ofType column.type.name) =
            other.audience (Channel.ofType column.type.name)) :
    plan.attributes lookup handlers = plan.attributes lookup other := by
  apply Run.bind_congr_of_ok
  intro columns hcollect
  apply Handlers.addRequests_of_audience
  intro request hrequest column hcolumn
  exact h request hrequest column (.collected hcollect hcolumn)

/-- Without filters, nothing but the mapping asks the handlers. -/
theorem assemble_of_attributes (hfilters : handlers.filters = []) (hother : other.filters = [])
    (h : plan.attributes lookup handlers = plan.attributes lookup other) :
    plan.assemble lookup handlers = plan.assemble lookup other := by
  simp only [assemble, unfiltered, h, Handlers.filter, hfilters, hother]

theorem assemble_calls_isResolve (plan : Plan) (lookup : Lookup) (handlers : Handlers) :
    (plan.assemble lookup handlers).calls.filter Call.isResolve =
      (plan.attributes lookup handlers).calls.filter Call.isResolve := by
  cases h : (plan.attributes lookup handlers).outcome with
  | error failure => rw [assemble_of_unmapped h]
  | ok attributes =>
      rw [assemble_of_mapped h, List.filter_append, Handlers.filter_calls_isResolve,
        List.append_nil]

variable {sources : List Source} {collisions : Collisions} {earlier later : List String}
  {request : String} {column : Column} {operators : Operators}

/-- The attribute of a builtin column has the operators of its type. -/
theorem get?_of_builtin
    (hwins : Columns.Wins lookup plan.collisions plan.sources (upperAscii request) column)
    (htype : column.type.operators? = some operators) (hrequest : request ∈ plan.requests)
    {attributes : Entries Operators}
    (h : (plan.attributes lookup handlers).outcome = .ok attributes) :
    attributes.get? (upperAscii request) = some operators := by
  obtain ⟨columns, hcollect, hattributes⟩ := Run.bind_outcome_eq_ok_iff.mp h
  obtain ⟨hwins, hcolumn⟩ := hwins
  cases hwins.symm.trans hcollect
  refine Handlers.get?_of_addRequests hattributes hrequest ?_
  rw [← Handlers.answering_outcome, Handlers.answering_of_builtin hcolumn htype]
  rfl

theorem attributes_calls_without
    (hwins : Columns.Wins lookup collisions sources (upperAscii request) column)
    (htype : column.type.operators? = some operators) :
    (attributes ⟨sources, earlier ++ request :: later, collisions⟩ lookup handlers).calls =
      (attributes ⟨sources, earlier ++ later, collisions⟩ lookup handlers).calls := by
  obtain ⟨hcollect, hcolumn⟩ := hwins
  rw [attributes, attributes, Run.bind_calls, Run.bind_calls]
  simp only [hcollect]
  congr 1
  exact Handlers.addRequests_calls_without (Handlers.answering_of_builtin hcolumn htype) _ _ _

/-- Handlers without filters that have the same audience on the channels of the custom types of the
requested columns make the same assembly: the same outcome by the same calls and with the same events.
A requested column of a builtin type has the operators of its type, whatever the handlers are, and the
same resolvers are called as if it was not requested. -/
theorem other_channels_unheard (lookup : Lookup) (sources : List Source) (requests : List String)
    (collisions : Collisions) :
    (∀ handlers other : Handlers, handlers.filters = [] → other.filters = [] →
      (∀ request ∈ requests, ∀ column,
        Columns.Wins lookup collisions sources (upperAscii request) column →
          column.type.isCustom = true →
            handlers.audience (Channel.ofType column.type.name) =
              other.audience (Channel.ofType column.type.name)) →
      attributes ⟨sources, requests, collisions⟩ lookup handlers =
          attributes ⟨sources, requests, collisions⟩ lookup other ∧
        assemble ⟨sources, requests, collisions⟩ lookup handlers =
          assemble ⟨sources, requests, collisions⟩ lookup other) ∧
    ∀ (handlers : Handlers) (earlier : List String) (request : String) (later : List String)
      (column : Column) (operators : Operators), requests = earlier ++ request :: later →
      Columns.Wins lookup collisions sources (upperAscii request) column →
      column.type.operators? = some operators →
      (∀ a, (attributes ⟨sources, requests, collisions⟩ lookup handlers).outcome = .ok a →
        a.get? (upperAscii request) = some operators) ∧
      (handlers.filters = [] → ∀ g,
        (assemble ⟨sources, requests, collisions⟩ lookup handlers).outcome = .ok g →
          g.operatorsFor request = some operators) ∧
      (attributes ⟨sources, requests, collisions⟩ lookup handlers).calls =
        (attributes ⟨sources, earlier ++ later, collisions⟩ lookup handlers).calls ∧
      (assemble ⟨sources, requests, collisions⟩ lookup handlers).calls.filter Call.isResolve =
        (assemble ⟨sources, earlier ++ later, collisions⟩ lookup handlers).calls.filter
          Call.isResolve := by
  constructor
  · intro handlers other hfilters hother haudience
    have hattributes : attributes ⟨sources, requests, collisions⟩ lookup handlers =
        attributes ⟨sources, requests, collisions⟩ lookup other := attributes_of_audience haudience
    exact ⟨hattributes, assemble_of_attributes hfilters hother hattributes⟩
  · rintro handlers earlier request later column operators rfl hwins htype
    have hrequest : request ∈ earlier ++ request :: later :=
      List.mem_append_right _ List.mem_cons_self
    have hcalls : (attributes ⟨sources, earlier ++ request :: later, collisions⟩ lookup handlers).calls =
        (attributes ⟨sources, earlier ++ later, collisions⟩ lookup handlers).calls :=
      attributes_calls_without hwins htype
    refine ⟨?_, ?_, hcalls, ?_⟩
    · intro a ha
      exact get?_of_builtin hwins htype hrequest ha
    · intro hfilters g hg
      obtain ⟨columns, a, hcollect, ha, rfl⟩ := (assemble_unfiltered_eq_ok_iff hfilters).mp hg
      have hmapped : (attributes ⟨sources, earlier ++ request :: later, collisions⟩ lookup
          handlers).outcome = .ok a :=
        Run.bind_outcome_eq_ok_iff.mpr ⟨columns, hcollect, ha⟩
      exact get?_of_builtin hwins htype hrequest hmapped
    · rw [assemble_calls_isResolve, assemble_calls_isResolve, hcalls]

/-- Columns of a custom and of a builtin type, and one that is not requested. -/
def priceList : Lookup :=
  (Catalog.ofTable [("a", [("price", "money"), ("count", "integer"), ("shade", "colour")])]).lookup

def priceSources : List Source := [⟨"a", "p"⟩]

def priceRequests : List String := ["p.count", "P.Price"]

/-- A resolver for all types that is silent, and one for a custom type that answers. -/
def quiet : Handlers :=
  { resolvers := [.scripted "any" none .silence,
      .scripted "cash" (some (Channel.ofType "Money")) (.operators ["=", ">"])] }

/-- The same resolvers, registered the other way round, among resolvers for other types. -/
def crowded : Handlers :=
  { resolvers := [.scripted "shade" (some (Channel.ofType "colour")) (.refuse "no shade"),
      .scripted "any" (some (Channel.ofType "MONEY")) .silence,
      .scripted "count" (some (Channel.ofType "integer")) .echo,
      .scripted "cash" none (.operators ["=", ">"])] }

theorem audience_quiet :
    quiet.audience (Channel.ofType "money") = crowded.audience (Channel.ofType "money") := by
  have hshade : Channel.ofType "colour" ≠ Channel.ofType "money" := by decide +kernel
  have hcount : Channel.ofType "integer" ≠ Channel.ofType "money" := by decide +kernel
  have hfirst : Channel.ofType "Money" = Channel.ofType "money" := by decide +kernel
  have hsecond : Channel.ofType "MONEY" = Channel.ofType "money" := by decide +kernel
  simp [Handlers.audience, Handlers.listening, quiet, crowded, Resolver.scripted, Resolver.listens,
    Resolver.unbound, hshade, hcount, hfirst, hsecond]

theorem other_channels_unheard_prices :
    assemble ⟨priceSources, priceRequests, .lastWins⟩ priceList quiet =
        assemble ⟨priceSources, priceRequests, .lastWins⟩ priceList crowded ∧
      (assemble ⟨priceSources, priceRequests, .lastWins⟩ priceList quiet).calls =
        [.lookup "a", .resolve "any", .resolve "cash"] ∧
      (∃ g, (assemble ⟨priceSources, priceRequests, .lastWins⟩ priceList crowded).outcome = .ok g ∧
        g.operatorsFor "p.count" = some Token.numeric) ∧
      (attributes ⟨priceSources, priceRequests, .lastWins⟩ priceList crowded).calls =
        (attributes ⟨priceSources, ["P.Price"], .lastWins⟩ priceList crowded).calls := by
  have hprice : (Columns.table priceList priceSources).get? "P.PRICE" =
      some ⟨"a", "p", "price", .custom "money"⟩ := by decide +kernel
  have hcount : (Columns.table priceList priceSources).get? "P.COUNT" =
      some ⟨"a", "p", "count", .integer⟩ := by decide +kernel
  have hcalls : (assemble ⟨priceSources, priceRequests, .lastWins⟩ priceList quiet).calls =
      [.lookup "a", .resolve "any", .resolve "cash"] := by decide +kernel
  obtain ⟨hsame, hbuiltin⟩ :=
    other_channels_unheard priceList priceSources priceRequests .lastWins
  have hassembled := (hsame quiet crowded rfl rfl ?_).2
  · have hwins : Columns.Wins priceList .lastWins priceSources (upperAscii "p.count")
        ⟨"a", "p", "count", .integer⟩ := Columns.wins_iff.mpr ⟨by decide +kernel, hcount⟩
    obtain ⟨_, hoperators, hwithout, _⟩ :=
      hbuiltin crowded [] "p.count" ["P.Price"] _ _ rfl hwins rfl
    obtain ⟨g, hg⟩ : ∃ g, (assemble ⟨priceSources, priceRequests, .lastWins⟩ priceList
        crowded).outcome = .ok g := by decide +kernel
    exact ⟨hassembled, hcalls, ⟨g, hg, hoperators rfl g hg⟩, hwithout⟩
  · intro request hrequest column hwins hcustom
    obtain ⟨_, hcolumn⟩ := Columns.wins_iff.mp hwins
    rcases List.mem_pair.mp hrequest with rfl | rfl
    · cases hcount.symm.trans hcolumn
      cases hcustom
    · cases hprice.symm.trans hcolumn
      exact audience_quiet

end Plan
end FilterLexicon
