import FilterLexicon.Proofs.Assembly

/-! The order of the fields of entities. Settings may agree although the fields of an entity stand in
another order, and the order matters: of two fields with one attribute name the later one counts. It
matters to no other attribute, and to none if names have to be distinct. -/

namespace FilterLexicon

open Text (upperAscii)

namespace Catalog

theorem mem_entityNames_of_sameAs {c d : Catalog} (h : c.sameAs d = true) (entity : String) :
    entity ∈ d.entityNames ↔ entity ∈ c.entityNames := by
  have hrel := Index.rel_of_sameBy h entity
  rw [entityNames, entityNames, ← Index.get?_isSome_iff, ← Index.get?_isSome_iff]
  generalize c.entities.get? entity = found at hrel ⊢
  generalize d.entities.get? entity = other at hrel ⊢
  cases hrel <;> rfl

/-- Catalogs that agree declare the same fields in some order. -/
theorem declared_perm_of_sameAs {c d : Catalog} (hc : ∀ e ∈ c.entities.toList, e.2.keys.Nodup)
    (h : c.sameAs d = true) (entity : String) : (c.declared entity).Perm (d.declared entity) := by
  have hrel := Index.rel_of_sameBy h entity
  have hmem (fields : Fields) (hfound : c.entities.get? entity = some fields) :
      (entity, fields) ∈ c.entities.toList := Entries.mem_of_lookup_eq_some hfound
  unfold declared
  generalize c.entities.get? entity = found at hrel hmem ⊢
  generalize d.entities.get? entity = other at hrel ⊢
  cases hrel with
  | none => exact .refl _
  | some hsame => exact Entries.perm_of_sameAs (hc _ (hmem _ rfl)) hsame

end Catalog

namespace Settings

/-- The last source with a name declares it with a type, in one of its fields. -/
def Declares (settings : Settings) (name : String) (type : StorageType) : Prop :=
  ∃ earlier source later field, settings.sources = earlier ++ source :: later ∧
    name ∉ (settings.columnsOf later).map Prod.fst ∧
    (field, type) ∈ settings.catalog.declared source.entity ∧ source.attributeName field = name

/-- The last source with a name declares it with types of the same operators only. -/
def Settled (settings : Settings) (name : String) : Prop :=
  ∀ s t, settings.Declares name s → settings.Declares name t →
    settings.operators? s = settings.operators? t

/-- The same settings but for the order of the fields of entities. -/
structure Reordered (a b : Settings) : Prop where
  sources : b.sources = a.sources
  requests : b.requests = a.requests
  strict : b.strict = a.strict
  customTypes : b.customTypes = a.customTypes
  entities : ∀ entity, entity ∈ b.catalog.entityNames ↔ entity ∈ a.catalog.entityNames
  fields : ∀ entity, (a.catalog.declared entity).Perm (b.catalog.declared entity)

theorem reordered_of_sameAs {a b : Settings} (ha : a.WellFormed) (h : a.sameAs b = true) :
    Reordered a b := by
  simp only [sameAs, Bool.and_eq_true, beq_iff_eq] at h
  obtain ⟨⟨⟨⟨hsources, hrequests⟩, hstrict⟩, hcustom⟩, hcatalog⟩ := h
  exact ⟨hsources.symm, hrequests.symm, hstrict.symm, hcustom.symm,
    Catalog.mem_entityNames_of_sameAs hcatalog, Catalog.declared_perm_of_sameAs ha.fields hcatalog⟩

/-! ### The column that counts -/

section

variable {settings : Settings}

/-- The last column of a name is a field of the last source with that name. -/
theorem declares_of_lookup {sources : List Source} {name : String} {column : Column}
    (h : (settings.columnsOf sources).reverse.lookup name = some column) :
    ∃ earlier source later field, sources = earlier ++ source :: later ∧
      name ∉ (settings.columnsOf later).map Prod.fst ∧
      (field, column.type) ∈ settings.catalog.declared source.entity ∧
      source.attributeName field = name := by
  induction sources with
  | nil => cases h
  | cons source rest ih =>
      -- Reversed, the columns of later sources are found before those of this one.
      rw [columnsOf, List.flatMap_cons, List.reverse_append, List.lookup_append] at h
      rcases Option.or_eq_some_iff.mp h with hrest | ⟨hrest, hown⟩
      · obtain ⟨earlier, later, other, field, rfl, hlater⟩ := ih hrest
        exact ⟨source :: earlier, later, other, field, rfl, hlater⟩
      · have hmem := List.mem_reverse.mp (Entries.mem_of_lookup_eq_some hown)
        obtain ⟨f, hf, heq⟩ := List.mem_map.mp hmem
        cases heq
        rw [← Entries.get?_ofList, Entries.get?_ofList_eq_none_iff] at hrest
        exact ⟨[], source, rest, f.1, rfl, hrest, hf, rfl⟩

theorem mem_of_declares {name : String} {type : StorageType} (h : settings.Declares name type) :
    ∃ column, (name, column) ∈ settings.columnsOf settings.sources ∧ column.type = type := by
  obtain ⟨earlier, source, later, field, hsplit, _, hfield, hname⟩ := h
  have hown : (name, source.column field type) ∈
      source.columns (settings.catalog.declared source.entity) :=
    List.mem_map.mpr ⟨(field, type), hfield, by rw [hname]⟩
  refine ⟨source.column field type, List.mem_flatMap.mpr ⟨source, ?_, hown⟩, rfl⟩
  rw [hsplit]
  exact List.mem_append_right _ List.mem_cons_self

/-- A name is settled if all of its columns have types of the same operators. -/
theorem settled_of_columns {name : String}
    (h : ∀ first second, (name, first) ∈ settings.columnsOf settings.sources →
      (name, second) ∈ settings.columnsOf settings.sources →
        settings.operators? first.type = settings.operators? second.type) :
    settings.Settled name := by
  intro s t hs ht
  obtain ⟨first, hfirst, rfl⟩ := mem_of_declares hs
  obtain ⟨second, hsecond, rfl⟩ := mem_of_declares ht
  exact h first second hfirst hsecond

/-- Names that have to be distinct are settled. -/
theorem Collects.settled (h : settings.Collects) (hstrict : settings.strict = true)
    (name : String) : settings.Settled name :=
  settled_of_columns fun _ _ hfirst hsecond => by
    rw [Entries.eq_of_mem_of_nodup (h.distinct hstrict) hfirst hsecond]

end

/-! ### Assembling reordered settings -/

variable {a b : Settings}

namespace Reordered

variable (h : Reordered a b)
include h

theorem names_perm (sources : List Source) :
    ((a.columnsOf sources).map Prod.fst).Perm ((b.columnsOf sources).map Prod.fst) := by
  have hcolumns : (a.columnsOf sources).Perm (b.columnsOf sources) :=
    List.Perm.flatMap_left sources fun source _ => (h.fields source.entity).map _
  exact hcolumns.map Prod.fst

theorem collects_iff : b.Collects ↔ a.Collects := by
  have hnodup : b.names.Nodup ↔ a.names.Nodup := by
    rw [names, names, h.sources]
    exact (h.names_perm a.sources).nodup_iff.symm
  constructor
  · intro hb
    refine ⟨fun s hs => (h.entities _).mp (hb.entities s (h.sources ▸ hs)), fun hstrict => ?_⟩
    exact hnodup.mp (hb.distinct (h.strict.trans hstrict))
  · intro ha
    refine ⟨fun s hs => (h.entities _).mpr (ha.entities s (h.sources ▸ hs)), fun hstrict => ?_⟩
    exact hnodup.mpr (ha.distinct (h.strict.symm.trans hstrict))

theorem declares {name : String} {type : StorageType} (hb : b.Declares name type) :
    a.Declares name type := by
  obtain ⟨earlier, source, later, field, hsplit, hlater, hfield, hname⟩ := hb
  refine ⟨earlier, source, later, field, h.sources ▸ hsplit, ?_, ?_, hname⟩
  · rwa [(h.names_perm later).mem_iff]
  · rwa [(h.fields source.entity).mem_iff]

theorem handlers_eq : b.handlers = a.handlers := by
  rw [handlers, handlers, h.customTypes]

theorem operators?_eq : b.operators? = a.operators? := by
  funext type
  rw [operators?, operators?, custom?, custom?, h.customTypes]

/-- A settled request is given the same operators in both orders. -/
theorem supplied?_eq {request : String} (hsettled : a.Settled (upperAscii request)) :
    b.handlers.supplied? (b.columnsOf b.sources) request =
      a.handlers.supplied? (a.columnsOf a.sources) request := by
  have hnone : (b.columnsOf b.sources).reverse.lookup (upperAscii request) = none ↔
      (a.columnsOf a.sources).reverse.lookup (upperAscii request) = none := by
    rw [← Entries.get?_ofList, ← Entries.get?_ofList, Entries.get?_ofList_eq_none_iff,
      Entries.get?_ofList_eq_none_iff, h.sources, (h.names_perm a.sources).mem_iff]
  rw [Settings.supplied?_eq, Settings.supplied?_eq, h.operators?_eq]
  cases hfound : (a.columnsOf a.sources).reverse.lookup (upperAscii request) with
  | none => rw [hnone.mpr hfound]
  | some column =>
      cases hother : (b.columnsOf b.sources).reverse.lookup (upperAscii request) with
      | none =>
          rw [hnone.mp hother] at hfound
          cases hfound
      | some other =>
          -- Both columns are fields of the last source with the name, though not the same field.
          exact hsettled _ _ (h.declares (declares_of_lookup hother)) (declares_of_lookup hfound)

/-- If what the requests ask for is settled, both orders give the same lexicon or none. -/
theorem assemble_eq_ok_iff
    (hsettled : a.Collects → ∀ request ∈ a.requests, a.Settled (upperAscii request)) {g : Lexicon} :
    b.assemble.outcome = .ok g ↔ a.assemble.outcome = .ok g := by
  rw [assemble_eq_draft_iff, assemble_eq_draft_iff, h.collects_iff, h.requests]
  apply and_congr_right
  intro hcollects
  have hsame (request : String) (hrequest : request ∈ a.requests) :
      b.handlers.supplied? (b.columnsOf b.sources) request =
        b.handlers.supplied? (a.columnsOf a.sources) request := by
    rw [h.supplied?_eq (hsettled hcollects request hrequest), h.handlers_eq]
  rw [Handlers.supplied_congr hsame, Handlers.draft_congr hsame, h.handlers_eq]

end Reordered

/-- Settings that agree but for the order of fields give the same lexicon or none, if names have to be
distinct or no request depends on which of two fields comes last. In any case two lexicons differ at
most in the operators of attributes that do. -/
theorem assemble_fields_reordered (ha : a.WellFormed) (h : a.sameAs b = true) :
    ((a.strict = true ∨ ∀ request ∈ a.requests, a.Settled (upperAscii request)) →
      (∃ f f', a.assemble.outcome = .error f ∧ b.assemble.outcome = .error f') ∨
        ∃ g, a.assemble.outcome = .ok g ∧ b.assemble.outcome = .ok g) ∧
    ∀ g g', a.assemble.outcome = .ok g → b.assemble.outcome = .ok g' →
      g' = { g with attributes := g'.attributes } ∧ g'.attributes.keys = g.attributes.keys ∧
        ∀ name, a.Settled name → g'.attributes.get? name = g.attributes.get? name := by
  have hreordered := reordered_of_sameAs ha h
  constructor
  · intro hsettled
    have hsame (g : Lexicon) : b.assemble.outcome = .ok g ↔ a.assemble.outcome = .ok g := by
      apply hreordered.assemble_eq_ok_iff
      intro hcollects
      rcases hsettled with hstrict | hsettled
      · exact fun request _ => hcollects.settled hstrict (upperAscii request)
      · exact hsettled
    cases hfirst : a.assemble.outcome with
    | ok g => exact Or.inr ⟨g, rfl, (hsame g).mpr hfirst⟩
    | error f =>
        cases hsecond : b.assemble.outcome with
        | error f' => exact Or.inl ⟨f, f', rfl, rfl⟩
        | ok g =>
            rw [(hsame g).mp hsecond] at hfirst
            cases hfirst
  · intro g g' hg hg'
    obtain ⟨_, hsupplied, rfl⟩ := assemble_eq_draft_iff.mp hg
    obtain ⟨_, hsupplied', rfl⟩ := assemble_eq_draft_iff.mp hg'
    rw [hreordered.requests] at hsupplied' ⊢
    have hkeys : (b.handlers.draft (b.columnsOf b.sources) a.requests).attributes.keys =
        (a.handlers.draft (a.columnsOf a.sources) a.requests).attributes.keys :=
      calc
        _ = (a.requests.map upperAscii).eraseDups := Handlers.keys_draft hsupplied'
        _ = _ := (Handlers.keys_draft hsupplied).symm
    refine ⟨rfl, hkeys, ?_⟩
    intro name hsettled
    by_cases hname : name ∈ a.requests.map upperAscii
    · obtain ⟨request, hrequest, rfl⟩ := List.mem_map.mp hname
      rw [Handlers.get?_draft hsupplied' hrequest, Handlers.get?_draft hsupplied hrequest,
        hreordered.supplied?_eq hsettled]
    · have hunknown : name ∉
          (a.handlers.draft (a.columnsOf a.sources) a.requests).attributes.keys := by
        rwa [Handlers.keys_draft hsupplied, List.mem_eraseDups]
      rw [Entries.get?_eq_none_iff.mpr hunknown, Entries.get?_eq_none_iff.mpr (hkeys ▸ hunknown)]

/-- A request for one attribute of a single entity. -/
def single (fields : Fields) : Settings :=
  { sources := [⟨"a", "p"⟩]
    requests := ["p.x"]
    catalog := ⟨⟨[("a", fields)]⟩⟩ }

theorem wellFormed_single {fields : Fields} (h : fields.keys.Nodup) : (single fields).WellFormed where
  customTypes := List.Pairwise.nil
  entities := List.pairwise_singleton _ _
  fields e he := by
    rw [List.mem_singleton.mp he]
    exact h

/-- Two fields of one attribute name, both of them numbers. -/
def numbers : Settings := single ⟨[("x", .integer), ("X", .decimal), ("y", .date)]⟩

def numbersReordered : Settings := single ⟨[("y", .date), ("X", .decimal), ("x", .integer)]⟩

theorem settled_numbers : numbers.Settled "P.X" := by
  have hnumeric : ∀ c ∈ numbers.columnsOf numbers.sources, c.1 = "P.X" →
      numbers.operators? c.2.type = some Token.numeric := by decide +kernel
  apply settled_of_columns
  intro first second hfirst hsecond
  rw [hnumeric _ hfirst rfl, hnumeric _ hsecond rfl]

theorem assemble_fields_reordered_numbers :
    numbers.WellFormed ∧ numbers.sameAs numbersReordered = true ∧
      (∀ request ∈ numbers.requests, numbers.Settled (upperAscii request)) ∧
      ∃ g, numbers.assemble.outcome = .ok g ∧ numbersReordered.assemble.outcome = .ok g := by
  have hformed : numbers.WellFormed := wellFormed_single (by decide +kernel)
  have hsame : numbers.sameAs numbersReordered = true := by decide +kernel
  have hsettled : ∀ request ∈ numbers.requests, numbers.Settled (upperAscii request) := by
    intro request hrequest
    rw [List.mem_singleton.mp hrequest]
    exact settled_numbers
  refine ⟨hformed, hsame, hsettled, ?_⟩
  rcases (assemble_fields_reordered hformed hsame).1 (Or.inr hsettled) with ⟨f, _, hfails, _⟩ | hok
  · have hsucceeds : numbers.assemble.outcome.isOk = true := by decide +kernel
    rw [hfails] at hsucceeds
    cases hsucceeds
  · exact hok

/-- A truth value and a text of one attribute name, of which the later one counts. -/
def textLast : Settings := single ⟨[("X", .boolean), ("x", .text)]⟩

def truthLast : Settings := single ⟨[("x", .text), ("X", .boolean)]⟩

/-- It is not enough that settings agree. -/
theorem sameAs_not_enough :
    ¬∀ a b : Settings, a.WellFormed → b.WellFormed → a.sameAs b = true →
      (∃ f f', a.assemble.outcome = .error f ∧ b.assemble.outcome = .error f') ∨
        ∃ g g', a.assemble.outcome = .ok g ∧ b.assemble.outcome = .ok g' ∧
          g.sameAs g' = true := by
  intro hall
  have htext : textLast.assemble.outcome =
      .ok { Lexicon.structural with attributes := ⟨[("P.X", Token.textual)]⟩ } :=
    eq_ok_of_toOption (by decide +kernel)
  have htruth : truthLast.assemble.outcome =
      .ok { Lexicon.structural with attributes := ⟨[("P.X", Token.truth)]⟩ } :=
    eq_ok_of_toOption (by decide +kernel)
  have hboth := hall textLast truthLast (wellFormed_single (by decide +kernel))
    (wellFormed_single (by decide +kernel)) (by decide +kernel)
  rw [htext, htruth] at hboth
  rcases hboth with ⟨_, _, hfails, _⟩ | ⟨_, _, hg, hg', hsame⟩
  · cases hfails
  · cases hg
    cases hg'
    revert hsame
    decide +kernel

end Settings
end FilterLexicon
