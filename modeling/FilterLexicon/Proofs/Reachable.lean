import FilterLexicon.Proofs.Editing
import FilterLexicon.Proofs.SettingsJson
import FilterLexicon.Session

/-! What holds of every session that steps lead to. The steps that build a catalog give it sorted
entities with faithful fields, and those that build or change a lexicon give none of its tables a key
twice. The filters are part of the invariant: each follows a script, so that it keeps keys distinct
when it is applied later. -/

namespace FilterLexicon

/-- A custom type is the type of its name only if no builtin type is. -/
theorem StorageType.canonical_custom {name : String} (h : (custom name).Canonical) :
    name ∉ builtins.map Prod.fst := by
  intro hmem
  have hbuiltin : ∀ e ∈ builtins, ofName e.1 ≠ custom e.1 := by decide
  obtain ⟨e, he, rfl⟩ := List.mem_map.mp hmem
  exact hbuiltin e he h

/-! ### Catalogs -/

theorem Fields.faithful_fieldsOf (rows : List (String × String)) :
    Fields.Faithful (fieldsOf rows) where
  distinct := Entries.nodup_keys_ofList _
  canonical f hf := by
    obtain ⟨row, _, rfl⟩ := List.mem_map.mp (Entries.mem_ofList hf)
    exact StorageType.canonical_ofName row.2

namespace Catalog

theorem faithful_empty : ({} : Catalog).Faithful := ⟨List.Pairwise.nil, nofun⟩

theorem Faithful.insert {catalog : Catalog} (h : catalog.Faithful) (entity : String)
    (rows : List (String × String)) : (catalog.insert entity rows).Faithful where
  sorted := Index.sorted_insert _ entity _ h.sorted
  fields e he := by
    rcases Index.mem_insert he with rfl | he
    · exact Fields.faithful_fieldsOf rows
    · exact h.fields e he

theorem faithful_ofTable (table : List (String × List (String × String))) :
    (ofTable table).Faithful where
  sorted := Index.sorted_ofList _
  fields e he := by
    obtain ⟨row, _, rfl⟩ := List.mem_map.mp (Index.mem_ofList he)
    exact Fields.faithful_fieldsOf row.2

end Catalog

namespace Session

/-- A faithful catalog, a lexicon with distinct keys, and filters that keep them distinct. -/
structure Sound (session : Session) : Prop where
  catalog : session.catalog.Faithful
  lexicon : session.lexicon.Distinct
  filters : ∀ filter ∈ session.handlers.filters, filter.KeepsDistinct

variable {session : Session}

theorem Sound.carry {α : Type} (h : session.Sound) {run : Run α} {answer : α → Answer}
    {take : α → Session} (htake : ∀ a, run.outcome = .ok a → (take a).Sound) :
    (session.carry run answer take).1.Sound := by
  unfold Session.carry
  cases hrun : run.outcome with
  | ok a => exact htake a hrun
  | error f => exact h

theorem Sound.read {α ε : Type} (h : session.Sound) {outcome : Except ε α}
    {problem : ε → Problem} {next : α → Session × Report}
    (hnext : ∀ a, outcome = .ok a → (next a).1.Sound) :
    (session.read outcome problem next).1.Sound := by
  cases outcome with
  | ok a => exact hnext a rfl
  | error e => exact h

/-- A step keeps a session sound. -/
theorem Sound.step (h : session.Sound) (step : Step) : (session.step step).1.Sound := by
  cases step with
  | insertEntity entity rows => exact { h with catalog := h.catalog.insert entity rows }
  | readCatalog text =>
      exact h.read fun _ hread => { h with catalog := Catalog.faithful_of_ofJson hread }
  | makeCatalog table => exact { h with catalog := Catalog.faithful_ofTable table }
  | addFilter label edits =>
      have hfilters : ∀ filter ∈ session.handlers.filters ++ [Filter.scripted label edits],
          filter.KeepsDistinct := by
        rw [List.forall_mem_append, List.forall_mem_singleton]
        exact ⟨h.filters, Filter.keepsDistinct_scripted label edits⟩
      exact { h with filters := hfilters }
  | clearHandlers => exact { h with filters := nofun }
  | readHandlers text => exact h.read fun _ _ => { h with filters := nofun }
  | assemble plan =>
      exact h.carry fun _ hrun =>
        { h with lexicon := Plan.distinct_of_assemble h.filters hrun }
  | assembleSettings text =>
      exact h.read fun _ _ => h.carry fun _ hrun =>
        { h with lexicon := Plan.distinct_of_assemble h.filters hrun }
  | useStructural => exact { h with lexicon := Lexicon.distinct_structural List.nodup_nil }
  | useBlank => exact { h with lexicon := Lexicon.distinct_blank }
  | readLexicon text =>
      exact h.read fun _ hread => { h with lexicon := Lexicon.distinct_of_ofJson hread }
  | edit edits => exact h.read fun _ hedits => { h with lexicon := h.lexicon.applyAll hedits }
  | filter =>
      exact h.carry fun _ hrun =>
        { h with lexicon := Handlers.distinct_of_filter h.filters h.lexicon hrun }
  | resolve | columns | attributes => exact h.carry fun _ _ => h
  | failEntity | addFixed | addScripted => exact { h with }
  | lookUp | describe | operatorsFor | checkPatterns | isStructural | print => exact h

/-- A run keeps a session sound. -/
theorem Sound.run (h : session.Sound) (steps : List Step) : (session.run steps).1.Sound := by
  induction steps generalizing session with
  | nil => exact h
  | cons step rest ih => exact ih (h.step step)

theorem sound_start : ({} : Session).Sound :=
  ⟨Catalog.faithful_empty, Lexicon.distinct_blank, nofun⟩

/-- The session that steps lead to from the start. -/
def reached (steps : List Step) : Session := (({} : Session).run steps).1

/-- Whatever the steps were, no table of the lexicon has a key twice, the entities of the catalog are
in the order of their bytes, the fields of each have distinct names, and no type that they declare is
a custom one of a builtin name. -/
theorem reached_sound (steps : List Step) :
    ((reached steps).lexicon.nullary.keys.Nodup ∧ (reached steps).lexicon.unary.keys.Nodup ∧
      (reached steps).lexicon.binary.keys.Nodup ∧ (reached steps).lexicon.attributes.keys.Nodup) ∧
    (reached steps).catalog.entityNames.Pairwise (fun a b => Text.before a b) ∧
    ∀ e ∈ (reached steps).catalog.entities.toList, e.2.keys.Nodup ∧
      ∀ f ∈ e.2.toList, ∀ name, f.2 = .custom name → name ∉ StorageType.builtins.map Prod.fst := by
  have h : (reached steps).Sound := sound_start.run steps
  refine ⟨⟨h.lexicon.nullary, h.lexicon.unary, h.lexicon.binary, h.lexicon.attributes⟩, ?_, ?_⟩
  · exact List.pairwise_map.mpr h.catalog.sorted
  · intro e he
    have hfields := h.catalog.fields e he
    refine ⟨hfields.distinct, ?_⟩
    intro f hf name hname
    exact StorageType.canonical_custom (hname ▸ hfields.canonical f hf)

/-- An entity with a field that is given twice, another entity that comes before it, and an attribute
that is requested twice and then set twice. -/
def repetitive : List Step :=
  [.insertEntity "b" [("x", "text"), ("y", "Text"), ("x", "date")], .insertEntity "a" [],
    .addFilter "again" [.insertAttribute "P.X" ["="], .insertAttribute "P.X" []],
    .assemble { sources := [⟨"b", "p"⟩], requests := ["p.x", "P.X"] }]

def repetitiveFields : Fields := ⟨[("x", .date), ("y", .custom "Text")]⟩

theorem reached_sound_repetitive :
    ("b", repetitiveFields) ∈ (reached repetitive).catalog.entities.toList ∧
      repetitiveFields.keys.Nodup ∧ "Text" ∉ StorageType.builtins.map Prod.fst ∧
      (reached repetitive).catalog.entityNames = ["a", "b"] ∧
      (reached repetitive).catalog.entityNames.Pairwise (fun a b => Text.before a b) ∧
      (reached repetitive).lexicon.attributes.keys = ["P.X"] ∧
      (reached repetitive).lexicon.attributes.keys.Nodup := by
  obtain ⟨⟨_, _, _, hattributes⟩, hentities, hfields⟩ := reached_sound repetitive
  have hmem : ("b", repetitiveFields) ∈ (reached repetitive).catalog.entities.toList := by
    decide +kernel
  obtain ⟨hdistinct, hcustom⟩ := hfields _ hmem
  have htype : ("y", StorageType.custom "Text") ∈ repetitiveFields.toList := by decide
  exact ⟨hmem, hdistinct, hcustom _ htype "Text" rfl, by decide +kernel, hentities,
    by decide +kernel, hattributes⟩

end Session
end FilterLexicon
