import FilterLexicon.Mapping

/-! What handlers come to. A resolver may say nothing; the first of those listening that says anything
settles a query, with operators or with an error. Filters form a chain that ends at the first error. -/

namespace FilterLexicon

/-- What a resolver says to a query, if it says anything: operators or an error message. -/
def Resolver.reply? (resolver : Resolver) (query : TypeQuery) : Option (Except String Operators) :=
  match resolver.answer query with
  | .ok none => none
  | .ok (some operators) => some (.ok operators)
  | .error reason => some (.error reason)

namespace Handlers

/-- What the first resolver that says anything says. -/
def firstReply? (query : TypeQuery) (resolvers : List Resolver) :
    Option (Except String Operators) :=
  resolvers.findSome? fun resolver => resolver.reply? query

/-- The operators for a query: those of its type, or the first reply of a listening resolver unless it
is an error. -/
def supply? (handlers : Handlers) (query : TypeQuery) : Option Operators :=
  match query.column.type.operators?, firstReply? query (handlers.listening query.channel) with
  | some operators, _ => some operators
  | none, some (.ok operators) => some operators
  | none, _ => none

theorem reply?_eq_none_iff {resolver : Resolver} {query : TypeQuery} :
    resolver.reply? query = none ↔ resolver.answer query = .ok none := by
  unfold Resolver.reply?
  cases resolver.answer query with
  | error reason => simp
  | ok answer => cases answer <;> simp

theorem reply?_eq_ok_iff {resolver : Resolver} {query : TypeQuery} {operators : Operators} :
    resolver.reply? query = some (.ok operators) ↔ resolver.answer query = .ok (some operators) := by
  unfold Resolver.reply?
  cases resolver.answer query with
  | error reason => simp
  | ok answer => cases answer <;> simp

theorem ask_outcome (resolver : Resolver) (query : TypeQuery) :
    (resolver.ask query).outcome = (resolver.answer query).mapError (.handler query.channel) :=
  Run.ask_outcome _ _ _

theorem firstAnswer_outcome (query : TypeQuery) (resolvers : List Resolver) :
    (firstAnswer query resolvers).outcome =
      match firstReply? query resolvers with
      | none => .ok none
      | some (.ok operators) => .ok (some operators)
      | some (.error reason) => .error (.handler query.channel reason) := by
  induction resolvers with
  | nil => rfl
  | cons resolver rest ih =>
      have hask := ask_outcome resolver query
      rw [firstAnswer, firstReply?, List.findSome?_cons, Resolver.reply?]
      cases hanswer : resolver.answer query with
      | error reason =>
          rw [hanswer] at hask
          rw [Run.bind_of_error hask]
      | ok answer =>
          rw [hanswer] at hask
          rw [Run.bind_of_ok hask]
          cases answer with
          | none => exact ih
          | some operators => rfl

/-- The operators of a column under an attribute name: those of its type or, if the type has none,
those that the resolvers answer with. -/
inductive Provides (handlers : Handlers) (name : String) (column : Column)
    (operators : Operators) : Prop where
  | own (htype : column.type.operators? = some operators)
  | resolved (htype : column.type.operators? = none)
      (hanswer : (handlers.resolve { subject := name, column }).outcome = .ok (some operators))

theorem operatorsOf_eq_ok_iff_provides {handlers : Handlers} {name : String} {column : Column}
    {operators : Operators} :
    (handlers.operatorsOf name column).outcome = .ok operators ↔
      handlers.Provides name column operators := by
  unfold operatorsOf
  cases htype : column.type.operators? with
  | some own =>
      constructor
      · intro h
        cases h
        exact .own htype
      · rintro (hown | ⟨hnone, _⟩)
        · rw [htype] at hown
          cases hown
          rfl
        · cases htype.symm.trans hnone
  | none =>
      simp only
      rw [Run.bind_outcome_eq_ok_iff]
      constructor
      · rintro ⟨answer, hanswer, hoperators⟩
        cases answer with
        | none => cases hoperators
        | some answered =>
            cases hoperators
            exact .resolved htype hanswer
      · rintro (hown | ⟨_, hanswer⟩)
        · cases htype.symm.trans hown
        · exact ⟨some operators, hanswer, rfl⟩

/-- The operators are the answer of the first resolver that answers; those before it are silent. -/
inductive FirstAnswers (query : TypeQuery) (resolvers : List Resolver) (operators : Operators) :
    Prop where
  | first {earlier : List Resolver} {resolver : Resolver} {later : List Resolver}
      (hsplit : resolvers = earlier ++ resolver :: later)
      (hearlier : ∀ r ∈ earlier, r.answer query = .ok none)
      (hanswer : resolver.answer query = .ok (some operators))

theorem firstAnswers_of_outcome {query : TypeQuery} {resolvers : List Resolver}
    {operators : Operators} (h : (firstAnswer query resolvers).outcome = .ok (some operators)) :
    FirstAnswers query resolvers operators := by
  have hreply : firstReply? query resolvers = some (.ok operators) := by
    rw [firstAnswer_outcome] at h
    cases hreply : firstReply? query resolvers with
    | none =>
        rw [hreply] at h
        cases h
    | some reply =>
        rw [hreply] at h
        cases reply with
        | error reason => cases h
        | ok answered =>
            cases h
            rfl
  obtain ⟨earlier, resolver, later, hsplit, hanswer, hearlier⟩ :=
    List.findSome?_eq_some_iff.mp hreply
  refine .first hsplit (fun r hr => ?_) (reply?_eq_ok_iff.mp hanswer)
  exact reply?_eq_none_iff.mp (hearlier r hr)

/-- What the operators of a column without own ones come to: the first reply, if there is one. -/
theorem operatorsOf_of_custom (handlers : Handlers) (query : TypeQuery)
    (h : query.column.type.operators? = none) :
    (handlers.operatorsOf query.subject query.column).outcome =
      match firstReply? query (handlers.listening query.channel) with
      | some reply => reply.mapError (.handler query.channel)
      | none => .error (.unresolvedType query.typeName) := by
  have hresolve : (handlers.resolve query).outcome = _ := firstAnswer_outcome query _
  unfold operatorsOf
  simp only [h]
  cases hreply : firstReply? query (handlers.listening query.channel) with
  | none =>
      rw [hreply] at hresolve
      rw [Run.bind_of_ok hresolve]
      rfl
  | some reply =>
      rw [hreply] at hresolve
      cases reply with
      | ok operators =>
          rw [Run.bind_of_ok hresolve]
          rfl
      | error reason =>
          rw [Run.bind_of_error hresolve]
          rfl

/-- A column's operators are supplied for the query of its attribute. -/
theorem operatorsOf_toOption (handlers : Handlers) (name : String) (column : Column) :
    (handlers.operatorsOf name column).outcome.toOption =
      handlers.supply? { subject := name, column } := by
  unfold supply?
  cases htype : column.type.operators? with
  | some operators =>
      unfold operatorsOf
      simp only [htype]
      rfl
  | none =>
      have houtcome := handlers.operatorsOf_of_custom { subject := name, column } htype
      simp only at houtcome ⊢
      rw [houtcome]
      cases firstReply? { subject := name, column } _ with
      | none => rfl
      | some reply => cases reply <;> rfl

/-- What filters make of a lexicon, each of the result of the one before. -/
def chain (filters : List Filter) (lexicon : Lexicon) : Except String Lexicon :=
  filters.foldlM (fun lexicon filter => filter.apply lexicon) lexicon

theorem chain_append (first second : List Filter) (lexicon : Lexicon) :
    chain (first ++ second) lexicon = (chain first lexicon).bind (chain second) :=
  List.foldlM_append

/-- What every filter keeps is kept by all of them in a row. -/
theorem chain_keeps {P : Lexicon → Prop} {filters : List Filter}
    (hkeeps : ∀ filter ∈ filters, ∀ l l', P l → filter.apply l = .ok l' → P l') {l l' : Lexicon}
    (h : P l) (hchain : chain filters l = .ok l') : P l' := by
  induction filters generalizing l with
  | nil =>
      cases hchain
      exact h
  | cons filter rest ih =>
      obtain ⟨hfilter, hrest⟩ := List.forall_mem_cons.mp hkeeps
      rw [chain, List.foldlM_cons] at hchain
      cases happly : filter.apply l with
      | error reason =>
          rw [happly] at hchain
          cases hchain
      | ok filtered =>
          rw [happly] at hchain
          exact ih hrest (hfilter l filtered h happly) hchain

theorem applyFilters_outcome (index : Nat) (filters : List Filter) (lexicon : Lexicon) :
    (applyFilters index filters lexicon).outcome =
      (chain filters lexicon).mapError (.handler Channel.filters) := by
  induction filters generalizing index lexicon with
  | nil => rfl
  | cons filter rest ih =>
      have hnote : (Run.note (.filtering index)).outcome = .ok () := rfl
      have hrun : (filter.run lexicon).outcome =
          (filter.apply lexicon).mapError (.handler Channel.filters) := Run.ask_outcome _ _ _
      rw [applyFilters, Run.bind_of_ok hnote]
      simp only [chain, List.foldlM_cons]
      cases happly : filter.apply lexicon with
      | error reason =>
          rw [happly] at hrun
          rw [Run.bind_of_error hrun]
          rfl
      | ok filtered =>
          rw [happly] at hrun
          rw [Run.bind_of_ok hrun]
          exact ih (index + 1) filtered

end Handlers
end FilterLexicon
