import FilterLexicon.Proofs.Listening

/-! Chains of filters. A chain can be cut at any place: what the first part passes on is all that the
second part gets, and if the first part fails, the second is never called. An assembly is such a chain
as well, behind the mapping of the attributes, to which the filters make no difference. -/

namespace FilterLexicon

/-- The event with the number of its filter counted from further on. -/
def Event.later (n : Nat) : Event → Event
  | filtering index => .filtering (n + index)
  | e => e

namespace Run

variable {α β : Type}

/-- The run with its events told differently. -/
def mapEvents (tell : Event → Event) (run : Run α) : Run α :=
  { run with events := run.events.map tell }

theorem mapEvents_bind (tell : Event → Event) (run : Run α) (next : α → Run β) :
    (run >>= next).mapEvents tell = run.mapEvents tell >>= fun a => (next a).mapEvents tell := by
  cases hrun : run.outcome with
  | error failure =>
      have hmapped : (run.mapEvents tell).outcome = .error failure := hrun
      rw [bind_of_error hrun, bind_of_error hmapped]
      rfl
  | ok a =>
      have hmapped : (run.mapEvents tell).outcome = .ok a := hrun
      rw [bind_of_ok hrun, bind_of_ok hmapped]
      simp only [mapEvents, List.map_append]

theorem mapEvents_ask (tell : Event → Event) (calls : List Call) (failure : String → Failure)
    (reply : Except String α) : (ask calls failure reply).mapEvents tell = ask calls failure reply := by
  cases reply <;> rfl

end Run

namespace Handlers

theorem applyFilters_append (index : Nat) (first second : List Filter) (lexicon : Lexicon) :
    applyFilters index (first ++ second) lexicon =
      applyFilters index first lexicon >>= applyFilters (index + first.length) second := by
  induction first generalizing index lexicon with
  | nil => rfl
  | cons filter rest ih =>
      have hindex : index + 1 + rest.length = index + (filter :: rest).length := by
        rw [List.length_cons]
        omega
      rw [List.cons_append, applyFilters, applyFilters, bind_assoc]
      simp only [bind_assoc, ih, hindex]

/-- Where the counting of the filters begins shows in the events alone. -/
theorem applyFilters_later (n index : Nat) (filters : List Filter) (lexicon : Lexicon) :
    applyFilters (n + index) filters lexicon =
      (applyFilters index filters lexicon).mapEvents (Event.later n) := by
  induction filters generalizing index lexicon with
  | nil => rfl
  | cons filter rest ih =>
      have hrun : (filter.run lexicon).mapEvents (Event.later n) = filter.run lexicon :=
        Run.mapEvents_ask _ _ _ _
      rw [applyFilters, applyFilters, Run.mapEvents_bind]
      simp only [Run.mapEvents_bind, hrun, ← ih]
      rfl

/-- The filters of a list after those of another. -/
theorem filter_append (resolvers : List Resolver) (first second : List Filter) (lexicon : Lexicon) :
    (mk resolvers (first ++ second)).filter lexicon =
      (mk resolvers first).filter lexicon >>= fun passed =>
        ((mk resolvers second).filter passed).mapEvents (Event.later first.length) := by
  rw [Handlers.filter, applyFilters_append]
  apply bind_congr
  intro passed
  rw [Nat.zero_add, ← Nat.add_zero first.length]
  exact applyFilters_later _ 0 second passed

/-- The first filter of a list gets the lexicon, and the others get what it makes of it. -/
theorem filter_of_cons {handlers : Handlers} {filter : Filter} {rest : List Filter}
    (h : handlers.filters = filter :: rest) (lexicon : Lexicon) :
    (handlers.filter lexicon).outcome =
        (filter.run lexicon >>= { handlers with filters := rest }.filter).outcome ∧
      (handlers.filter lexicon).calls =
        (filter.run lexicon >>= { handlers with filters := rest }.filter).calls := by
  have hnote : (Run.note (.filtering 0)).outcome = .ok () := rfl
  rw [Handlers.filter, h, applyFilters, Run.bind_of_ok hnote]
  cases hrun : (filter.run lexicon).outcome with
  | error failure =>
      simp only [Run.bind_of_error hrun, true_and]
      rfl
  | ok filtered =>
      simp only [Run.bind_of_ok hrun, applyFilters_later 1 0]
      exact ⟨rfl, rfl⟩

end Handlers

namespace Plan

variable {plan : Plan} {lookup : Lookup} {handlers : Handlers}

theorem attributes_without_filters (plan : Plan) (lookup : Lookup) (handlers : Handlers) :
    plan.attributes lookup { handlers with filters := [] } = plan.attributes lookup handlers :=
  attributes_of_audience fun _ _ _ _ _ => rfl

/-- Without filters, the structural lexicon with the attributes is what an assembly comes to. -/
theorem assemble_bare_of_mapped {attributes : Entries Operators}
    (h : (plan.attributes lookup handlers).outcome = .ok attributes) :
    (plan.assemble lookup { handlers with filters := [] }).outcome =
        .ok { Lexicon.structural with attributes } ∧
      (plan.assemble lookup { handlers with filters := [] }).calls =
        (plan.attributes lookup handlers).calls := by
  rw [← attributes_without_filters] at h ⊢
  rw [assemble_of_mapped h]
  exact ⟨rfl, List.append_nil _⟩

/-- The filters can as well be applied to the lexicon of an assembly without any. -/
theorem assemble_eq_bare_bind (plan : Plan) (lookup : Lookup) (handlers : Handlers) :
    (plan.assemble lookup handlers).outcome =
        (plan.assemble lookup { handlers with filters := [] } >>= handlers.filter).outcome ∧
      (plan.assemble lookup handlers).calls =
        (plan.assemble lookup { handlers with filters := [] } >>= handlers.filter).calls := by
  cases h : (plan.attributes lookup handlers).outcome with
  | ok attributes =>
      obtain ⟨houtcome, hcalls⟩ := assemble_bare_of_mapped h
      rw [Run.bind_of_ok houtcome, assemble_of_mapped h, hcalls]
      exact ⟨rfl, rfl⟩
  | error failure =>
      rw [assemble_of_unmapped h]
      rw [← attributes_without_filters] at h ⊢
      rw [assemble_of_unmapped h, Run.bind_of_error rfl]
      exact ⟨rfl, rfl⟩

theorem filter_not_mem_attributes_calls (label : String) :
    Call.filter label ∉ (plan.attributes lookup handlers).calls := by
  rw [attributes_calls, List.mem_append, lookups, consultations]
  rintro (hlookup | hconsultation)
  · obtain ⟨source, _, hcall⟩ := List.mem_map.mp hlookup
    cases hcall
  · split at hconsultation
    · obtain ⟨request, _, hcall⟩ := List.mem_flatMap.mp hconsultation
      unfold Handlers.consultation at hcall
      split at hcall
      · obtain ⟨resolver, _, hcall⟩ := List.mem_flatMap.mp hcall
        obtain ⟨_, _, hcall⟩ := List.mem_map.mp hcall
        cases hcall
      · cases hcall
    · cases hconsultation

end Plan

/-- Filtering through two lists of filters is filtering through the first and then, if that succeeds,
its result through the second; if the first fails, nothing of the second happens. An assembly comes to
the same, with the same calls, as an assembly without filters whose lexicon is filtered afterwards: if
the attributes can be mapped, the first filter gets the structural lexicon with just these attributes,
and if not, no filter is called. -/
theorem filters_in_sequence :
    (∀ (resolvers : List Resolver) (first second : List Filter) (lexicon : Lexicon),
      let front := (Handlers.mk resolvers first).filter lexicon
      let whole := (Handlers.mk resolvers (first ++ second)).filter lexicon
      (∀ passed, front.outcome = .ok passed →
        let back := (Handlers.mk resolvers second).filter passed
        whole.outcome = back.outcome ∧ whole.calls = front.calls ++ back.calls ∧
          whole.events = front.events ++ back.events.map (Event.later first.length)) ∧
      ∀ failure, front.outcome = .error failure → whole = front) ∧
    ∀ (plan : Plan) (lookup : Lookup) (handlers : Handlers),
      let mapping := plan.attributes lookup handlers
      let bare := plan.assemble lookup { handlers with filters := [] }
      let whole := plan.assemble lookup handlers
      (whole.outcome = (bare >>= handlers.filter).outcome ∧
        whole.calls = (bare >>= handlers.filter).calls) ∧
      (∀ attributes, mapping.outcome = .ok attributes →
        let draft := { Lexicon.structural with attributes }
        bare.outcome = .ok draft ∧ bare.calls = mapping.calls ∧
          ∀ filter rest, handlers.filters = filter :: rest →
            let filtering := filter.run draft >>= { handlers with filters := rest }.filter
            whole.outcome = filtering.outcome ∧ whole.calls = mapping.calls ++ filtering.calls) ∧
      ∀ failure, mapping.outcome = .error failure →
        whole.outcome = .error failure ∧ whole.calls = mapping.calls ∧
          whole.events = mapping.events ∧ ∀ label, Call.filter label ∉ whole.calls := by
  constructor
  · intro resolvers first second lexicon front whole
    have happend : whole = front >>= _ := Handlers.filter_append resolvers first second lexicon
    constructor
    · intro passed hpassed back
      rw [happend, Run.bind_of_ok hpassed]
      exact ⟨rfl, rfl, rfl⟩
    · intro failure hfailure
      rw [happend, Run.bind_of_error hfailure, ← hfailure]
  · intro plan lookup handlers mapping bare whole
    refine ⟨plan.assemble_eq_bare_bind lookup handlers, ?_, ?_⟩
    · intro attributes hmapped draft
      obtain ⟨houtcome, hcalls⟩ := Plan.assemble_bare_of_mapped hmapped
      refine ⟨houtcome, hcalls, ?_⟩
      intro filter rest hfilters filtering
      have hwhole : whole = _ := Plan.assemble_of_mapped hmapped
      obtain ⟨hfiltered, hcalled⟩ := Handlers.filter_of_cons hfilters draft
      rw [hwhole, ← hfiltered, ← hcalled]
      exact ⟨rfl, rfl⟩
    · intro failure hunmapped
      have hwhole : whole = _ := Plan.assemble_of_unmapped hunmapped
      rw [hwhole]
      exact ⟨rfl, rfl, rfl, Plan.filter_not_mem_attributes_calls⟩

/-- A filter that adds a connective, and one that adds another and then refuses. -/
def adding : Filter := .scripted "add" [.pushConnective "XOR"]

def refusing : Filter := .scripted "refuse" [.pushConnective "NOR", .refuse "no more"]

def pricePlan (requests : List String) : Plan := ⟨Plan.priceSources, requests, .lastWins⟩

def strictPrices : Handlers := { Plan.quiet with filters := [adding, refusing, adding] }

theorem filters_in_sequence_refused :
    (∃ passed : Lexicon, "XOR" ∈ passed.connectives ∧
      ((Handlers.mk [] [adding, refusing]).filter .structural).outcome =
        ((Handlers.mk [] [refusing]).filter passed).outcome) ∧
      (Handlers.mk [] [refusing, adding]).filter .structural =
        (Handlers.mk [] [refusing]).filter .structural ∧
      ((pricePlan ["P.Price"]).assemble Plan.priceList strictPrices).calls =
        [.lookup "a", .resolve "any", .resolve "cash", .filter "add", .filter "refuse"] ∧
      Call.filter "add" ∉ ((pricePlan ["p.none"]).assemble Plan.priceList strictPrices).calls := by
  obtain ⟨hcut, hassembly⟩ := filters_in_sequence
  obtain ⟨passed, hpassed, hadded⟩ : ∃ passed : Lexicon,
      ((Handlers.mk [] [adding]).filter .structural).outcome = .ok passed ∧
        "XOR" ∈ passed.connectives :=
    ⟨_, rfl, by decide +kernel⟩
  have hrefused : ((Handlers.mk [] [refusing]).filter .structural).outcome =
      .error (.handler "Grammar_FilterGrammar" "no more") := by decide +kernel
  have hmapped : ((pricePlan ["P.Price"]).attributes Plan.priceList strictPrices).outcome =
      .ok ⟨[("P.PRICE", ["=", ">"])]⟩ := by decide +kernel
  have hmapping : ((pricePlan ["P.Price"]).attributes Plan.priceList strictPrices).calls =
      [.lookup "a", .resolve "any", .resolve "cash"] := by decide +kernel
  have hunmapped : ((pricePlan ["p.none"]).attributes Plan.priceList strictPrices).outcome =
      .error (.unknownAttribute "P.NONE") := by decide +kernel
  refine ⟨⟨passed, hadded, ?_⟩, ?_, ?_, ?_⟩
  · exact ((hcut [] [adding] [refusing] .structural).1 passed hpassed).1
  · exact (hcut [] [refusing] [adding] .structural).2 _ hrefused
  · obtain ⟨_, _, hfirst⟩ :=
      (hassembly (pricePlan ["P.Price"]) Plan.priceList strictPrices).2.1 _ hmapped
    obtain ⟨_, hcalls⟩ := hfirst adding [refusing, adding] rfl
    rw [hcalls, hmapping]
    rfl
  · exact ((hassembly (pricePlan ["p.none"]) Plan.priceList strictPrices).2.2 _ hunmapped).2.2.2 "add"

end FilterLexicon
