import FilterLexicon.Proofs.CommandLine
import FilterLexicon.Script

/-! The rules of operators. The structural part has a rule for every operator of a builtin type, and
has it once. An assembly without filters leaves the structural part as it is, so an attribute can have
an operator without a rule only if its type is custom and a resolver answered with that operator. If
the custom types of settings are given operators with rules only, all operators have rules, and they
have them in the JSON form as well. -/

namespace FilterLexicon

open Json (Value)

/-! ### The structural part -/

namespace Lexicon

/-- The operators that have a rule, those without an operand first. -/
def rules (l : Lexicon) : List String := l.unary.keys ++ l.binary.keys

/-- The operator is a key of exactly one of the two tables of rules. -/
def RuledOnce (l : Lexicon) (operator : String) : Prop := l.rules.count operator = 1

/-- Every operator of every attribute is. -/
def Ruled (l : Lexicon) : Prop :=
  ∀ e ∈ l.attributes.toList, ∀ operator ∈ e.2, l.RuledOnce operator

instance (l : Lexicon) : DecidablePred l.RuledOnce := fun _ => Nat.decEq ..

theorem ruledOnce_structural {operator : String} (h : operator ∈ structural.rules) :
    structural.RuledOnce operator := by
  have hall : ∀ operator ∈ structural.rules, structural.RuledOnce operator := by decide +kernel
  exact hall operator h

end Lexicon

/-- The operators of a builtin type all have rules. -/
theorem StorageType.operators?_subset {type : StorageType} {operators : Operators}
    (h : type.operators? = some operators) : operators ⊆ Lexicon.structural.rules := by
  cases type <;> cases h <;> decide +kernel

/-! ### The JSON form -/

/-- The members of an object's member of that name. -/
def Json.Value.inside (v : Value) (name : String) : List (String × Value) :=
  match v.members.lookup name with
  | some inner => inner.members
  | none => []

namespace Lexicon

/-- The names under which the JSON form of a lexicon has rules. -/
def rulesJson (v : Value) : List String :=
  (v.inside "unaryOperators" ++ v.inside "binaryOperators").map Prod.fst

/-- In the JSON form of a lexicon, every attribute is a list of operators with one rule each. -/
def RuledJson (v : Value) : Prop :=
  ∀ e ∈ v.inside "attributes", ∃ operators, e.2 = Value.strings operators ∧
    ∀ operator ∈ operators, (rulesJson v).count operator = 1

theorem rulesJson_toJson (l : Lexicon) : rulesJson l.toJson = l.rules := by
  have hunary : l.toJson.inside "unaryOperators" =
      l.unary.toList.map fun e => (e.1, Value.string e.2) := rfl
  have hbinary : l.toJson.inside "binaryOperators" =
      l.binary.toList.map fun e => (e.1, Value.strings e.2) := rfl
  rw [rulesJson, hunary, hbinary, List.map_append, List.map_map, List.map_map]
  rfl

theorem Ruled.toJson {l : Lexicon} (h : l.Ruled) : RuledJson l.toJson := by
  have hattributes : l.toJson.inside "attributes" =
      l.attributes.toList.map fun e => (e.1, Value.strings e.2) := rfl
  rw [RuledJson, hattributes, rulesJson_toJson, List.forall_mem_map]
  exact fun e he => ⟨e.2, rfl, h e he⟩

end Lexicon

/-! ### Assemblies -/

namespace Plan

variable {plan : Plan} {lookup : Lookup} {handlers : Handlers} {g : Lexicon}

/-- An assembly without filters has the rules of the structural part. -/
theorem ruledOnce_of_assemble (h : handlers.filters = [])
    (hg : (plan.assemble lookup handlers).outcome = .ok g) {operator : String}
    (hoperator : operator ∈ Lexicon.structural.rules) : g.RuledOnce operator := by
  obtain ⟨columns, attributes, _, _, rfl⟩ := (assemble_unfiltered_eq_ok_iff h).mp hg
  exact Lexicon.ruledOnce_structural hoperator

/-- Each attribute has operators with one rule each, or else a custom type, and the first resolver on
its channel that answers has answered with these operators. -/
theorem ruled_or_answered (h : handlers.filters = [])
    (hg : (plan.assemble lookup handlers).outcome = .ok g) :
    ∃ columns, (Columns.collect lookup plan.collisions plan.sources).outcome = .ok columns ∧
      ∀ e ∈ g.attributes.toList, ∃ column, columns.get? e.1 = some column ∧
        ((∀ operator ∈ e.2, g.RuledOnce operator) ∨
          column.type.isCustom = true ∧ Handlers.FirstAnswers { subject := e.1, column }
            (handlers.listening (Channel.ofType column.type.name)) e.2) := by
  obtain ⟨columns, hcolumns, hprovides⟩ := provides_of_assemble h hg
  refine ⟨columns, hcolumns, fun e he => ?_⟩
  obtain ⟨column, hcolumn, hprovided⟩ := hprovides e he
  refine ⟨column, hcolumn, ?_⟩
  cases hprovided with
  | own htype =>
      refine Or.inl fun operator hoperator => ?_
      exact ruledOnce_of_assemble h hg (StorageType.operators?_subset htype hoperator)
  | resolved htype hanswer =>
      exact Or.inr ⟨StorageType.isCustom_iff.mpr htype, Handlers.firstAnswers_of_outcome hanswer⟩

end Plan

namespace Settings

variable {settings : Settings}

/-- What the resolver of a custom type answers with is the list of that custom type. -/
theorem mem_customTypes_of_firstAnswers {query : TypeQuery} {channel : String}
    {operators : Operators}
    (h : Handlers.FirstAnswers query (settings.handlers.listening channel) operators) :
    ∃ e ∈ settings.customTypes.toList, e.2 = operators := by
  obtain @⟨earlier, resolver, later, hsplit, _, hanswer⟩ := h
  have hmem : resolver ∈ settings.handlers.listening channel := by
    rw [hsplit]
    exact List.mem_append_right _ List.mem_cons_self
  obtain ⟨e, he, rfl⟩ := List.mem_map.mp (List.mem_of_mem_filter hmem)
  exact ⟨e, he, Option.some.inj (Except.ok.inj hanswer)⟩

theorem ruled_of_assemble
    (h : ∀ e ∈ settings.customTypes.toList, e.2 ⊆ Lexicon.structural.rules) {g : Lexicon}
    (hg : settings.assemble.outcome = .ok g) : g.Ruled := by
  intro e he operator hoperator
  obtain ⟨columns, _, hattributes⟩ := Plan.ruled_or_answered rfl hg
  obtain ⟨column, _, hruled | ⟨_, hanswers⟩⟩ := hattributes e he
  · exact hruled operator hoperator
  · obtain ⟨entry, hentry, hsame⟩ := mem_customTypes_of_firstAnswers hanswers
    rw [← hsame] at hoperator
    exact Plan.ruledOnce_of_assemble rfl hg (h entry hentry hoperator)

end Settings

/-- In a lexicon that is assembled without filters, each operator of an attribute has exactly one
rule, unless the column of the attribute has a custom type and a resolver answered with its operators.
If settings give custom types only operators with rules, all operators have exactly one rule: in the
lexicon, in its JSON form, and in what is read from the text of that. -/
theorem operators_ruled_once :
    (∀ (plan : Plan) (lookup : Lookup) (handlers : Handlers) (g : Lexicon),
      handlers.filters = [] → (plan.assemble lookup handlers).outcome = .ok g →
      ∃ columns, (Columns.collect lookup plan.collisions plan.sources).outcome = .ok columns ∧
        ∀ e ∈ g.attributes.toList, ∃ column, columns.get? e.1 = some column ∧
          ((∀ operator ∈ e.2, g.RuledOnce operator) ∨
            column.type.isCustom = true ∧ Handlers.FirstAnswers { subject := e.1, column }
              (handlers.listening (Channel.ofType column.type.name)) e.2)) ∧
    ∀ (settings : Settings) (g : Lexicon),
      (∀ e ∈ settings.customTypes.toList, e.2 ⊆ Lexicon.structural.rules) →
      settings.assemble.outcome = .ok g →
      g.Ruled ∧ Lexicon.RuledJson g.toJson ∧
        ∀ write, Json.IsWriter write → Lexicon.ofJson (write g.toJson) = .ok g := by
  refine ⟨fun plan lookup handlers g => Plan.ruled_or_answered, fun settings g hcustom hg => ?_⟩
  have hruled := Settings.ruled_of_assemble hcustom hg
  refine ⟨hruled, hruled.toJson, fun write hwrite => ?_⟩
  exact Lexicon.ofJson_write hwrite (Settings.distinct_of_assemble hg)

/-- A custom type with operators that all have rules. -/
def priced : Settings where
  sources := [⟨"Product", "article"⟩]
  requests := ["article.id", "article.price"]
  customTypes := ⟨[("currency", [">", "IN", "ISNULL"])]⟩
  catalog := Catalog.ofTable [("Product", [("id", "integer"), ("price", "currency")])]

def pricedLexicon (operators : Operators) : Lexicon :=
  { Lexicon.structural with
    attributes := ⟨[("ARTICLE.ID", Token.numeric), ("ARTICLE.PRICE", operators)]⟩ }

/-- Resolvers of which the second answers with an operator without a rule. -/
def fuzzy : Handlers :=
  { resolvers := [.scripted "quiet" none .silence, .scripted "fuzzy" none (.operators ["FUZZY"])] }

theorem operators_ruled_once_priced :
    priced.assemble.outcome = .ok (pricedLexicon [">", "IN", "ISNULL"]) ∧
      (pricedLexicon [">", "IN", "ISNULL"]).Ruled ∧
      Lexicon.RuledJson (pricedLexicon [">", "IN", "ISNULL"]).toJson ∧
      Lexicon.ofJson (pricedLexicon [">", "IN", "ISNULL"]).toJson.toPretty =
        .ok (pricedLexicon [">", "IN", "ISNULL"]) ∧
      (priced.assembleWith fuzzy).outcome = .ok (pricedLexicon ["FUZZY"]) ∧
      ¬(pricedLexicon ["FUZZY"]).RuledOnce "FUZZY" ∧
      ∃ column, column.type.isCustom = true ∧
        Handlers.FirstAnswers { subject := "ARTICLE.PRICE", column }
          (fuzzy.listening (Channel.ofType column.type.name)) ["FUZZY"] := by
  have hpriced : priced.assemble.outcome = .ok (pricedLexicon [">", "IN", "ISNULL"]) :=
    eq_ok_of_toOption (by decide +kernel)
  have hfuzzy : (priced.assembleWith fuzzy).outcome = .ok (pricedLexicon ["FUZZY"]) :=
    eq_ok_of_toOption (by decide +kernel)
  have hunruled : ¬(pricedLexicon ["FUZZY"]).RuledOnce "FUZZY" := by decide +kernel
  obtain ⟨hruled, hjson, hread⟩ := operators_ruled_once.2 priced _ (by decide +kernel) hpriced
  obtain ⟨columns, _, hattributes⟩ := operators_ruled_once.1 _ _ fuzzy _ rfl hfuzzy
  obtain ⟨column, _, hprice⟩ :=
    hattributes ("ARTICLE.PRICE", ["FUZZY"]) (List.mem_cons_of_mem _ List.mem_cons_self)
  refine ⟨hpriced, hruled, hjson, hread _ (Or.inr rfl), hfuzzy, hunruled, column, ?_⟩
  exact hprice.resolve_left fun hall => hunruled (hall "FUZZY" List.mem_cons_self)

end FilterLexicon
