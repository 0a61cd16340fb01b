import FilterLexicon.Proofs.JsonRecords
import FilterLexicon.Proofs.Index
import FilterLexicon.Settings.Json

/-! The JSON forms of catalogs and settings lose nothing that was read. What carries the argument is
that a reader never leaves a custom type with the name of a builtin one, an entity with a repeated
field, or an unsorted table of entities or custom types; settings with these properties are read back
exactly from what is written of them. -/

namespace FilterLexicon

open Json (Reader Value)
open Json.Format (ifSeen isSome_ifSeen ifSeen_of_ne)

/-- The type that its own name stands for, so no custom type with the name of a builtin one. -/
def StorageType.Canonical (type : StorageType) : Prop := ofName type.name = type

theorem StorageType.canonical_ofName (name : String) : (ofName name).Canonical :=
  congrArg ofName (name_ofName name)

/-- Fields with distinct names and canonical types. -/
structure Fields.Faithful (fields : Fields) : Prop where
  distinct : fields.keys.Nodup
  canonical : ∀ f ∈ fields.toList, f.2.Canonical

namespace Catalog

/-- A sorted catalog of entities with faithful fields. -/
structure Faithful (catalog : Catalog) : Prop where
  sorted : catalog.entities.Sorted
  fields : ∀ e ∈ catalog.entities.toList, Fields.Faithful e.2

theorem reads_type {type : StorageType} (h : type.Canonical) :
    typeReader.Reads (.string type.name) type := by
  have hread := (Reader.reads_string type.name).map StorageType.ofName
  rwa [h] at hread

theorem reads_fields {fields : Fields} (h : Fields.Faithful fields) :
    ((Reader.object typeReader).map Entries.ofList).Reads (fieldsJson fields) fields := by
  have hread : (Reader.object typeReader).Reads (fieldsJson fields) fields.toList :=
    Reader.reads_object (fun type => Value.string type.name) fun f hf =>
      reads_type (h.canonical f hf)
  have htable := hread.map Entries.ofList
  rwa [Entries.ofList_toList fields h.distinct] at htable

theorem reads_toJson {catalog : Catalog} (h : catalog.Faithful) :
    reader.Reads catalog.toJson catalog := by
  have hread : (Reader.object ((Reader.object typeReader).map Entries.ofList)).Reads
      catalog.toJson catalog.entities.toList :=
    Reader.reads_object fieldsJson fun e he => reads_fields (h.fields e he)
  have htable := hread.map fun members => (⟨Index.ofList members⟩ : Catalog)
  rwa [Index.ofList_toList catalog.entities h.sorted] at htable

theorem yields_fields :
    ((Reader.object typeReader).map Entries.ofList).Yields Fields.Faithful := by
  have htype : typeReader.Yields StorageType.Canonical :=
    (Reader.yields_true Reader.string).map fun name _ => StorageType.canonical_ofName name
  exact (Reader.yields_object htype).map fun entries h =>
    ⟨Entries.nodup_keys_ofList entries, fun f hf => h f (Entries.mem_ofList hf)⟩

theorem yields_faithful : reader.Yields Faithful :=
  (Reader.yields_object yields_fields).map fun members h =>
    ⟨Index.sorted_ofList members, fun e he => h e (Index.mem_ofList he)⟩

theorem faithful_of_ofJson {text : String} {catalog : Catalog} (h : ofJson text = .ok catalog) :
    catalog.Faithful := Reader.parse_yields yields_faithful h

end Catalog

namespace Source

/-- What is known of a source when these names have come. -/
def Draft.seen (source : Source) (seen : List String) : Draft where
  entity := ifSeen seen "entity" source.entity
  qualifier := ifSeen seen "prefix" source.qualifier

theorem presents (source : Source) :
    format.Presents source.toJson.members (Draft.seen source) where
  blank := rfl
  field field hfield := by
    simp only [format, List.mem_cons, List.not_mem_nil, or_false] at hfield
    rcases hfield with rfl | rfl
    · exact .set (by simp [toJson, Value.members]) (Reader.reads_string source.entity)
        (fun seen => by simp [Draft.seen, ifSeen]) fun seen => isSome_ifSeen seen ..
    · exact .set (by simp [toJson, Value.members]) (Reader.reads_string source.qualifier)
        (fun seen => by simp [Draft.seen, ifSeen]) fun seen => isSome_ifSeen seen ..
  other k hk seen := by
    simp only [format, List.forall_mem_cons] at hk
    obtain ⟨hentity, hqualifier, -⟩ := hk
    simp only [Draft.seen, ifSeen_of_ne hentity, ifSeen_of_ne hqualifier]

theorem reads_toJson (source : Source) : format.reader.Reads source.toJson source :=
  (presents source).reads_object (by simp [toJson, Value.members, Json.keys]) rfl

end Source

namespace Settings

/-- Settings with sorted custom types and a faithful catalog. -/
structure Faithful (settings : Settings) : Prop where
  customTypes : settings.customTypes.Sorted
  catalog : settings.catalog.Faithful

/-- What is known of settings when these names have come. -/
def Draft.seen (settings : Settings) (seen : List String) : Draft where
  sources := ifSeen seen "entities" settings.sources
  requests := ifSeen seen "attributes" settings.requests
  strict := ifSeen seen "strictCollisions" settings.strict
  customTypes := ifSeen seen "customTypes" settings.customTypes
  catalog := ifSeen seen "fields" settings.catalog

/-- The members of the JSON form, with another value for the catalog, which comes last. -/
def membersWith (settings : Settings) (fields : Value) : List (String × Value) :=
  settings.toJson.members.dropLast ++ [("fields", fields)]

theorem members_toJson (settings : Settings) :
    settings.toJson.members = settings.membersWith settings.catalog.toJson := rfl

/-- The value for the catalog may be any from which the catalog is read. -/
theorem presents_with {settings : Settings} (h : settings.customTypes.Sorted) {fields : Value}
    (hfields : Catalog.reader.Reads fields settings.catalog) :
    format.Presents (settings.membersWith fields) (Draft.seen settings) where
  blank := rfl
  field field hfield := by
    have hsources : (Reader.list Source.format.reader).Reads
        (.list (settings.sources.map Source.toJson)) settings.sources :=
      Reader.reads_list fun source _ => Source.reads_toJson source
    have htypes : (Reader.object (Reader.list Reader.string)).Reads
        (.object (settings.customTypes.toList.map fun e => (e.1, .strings e.2)))
        settings.customTypes.toList :=
      Reader.reads_object Value.strings fun e _ => Reader.reads_strings e.2
    have hsorted := Index.ofList_toList settings.customTypes h
    simp only [format, List.mem_cons, List.not_mem_nil, or_false] at hfield
    rcases hfield with rfl | rfl | rfl | rfl | rfl
    · exact .set (by simp [membersWith, toJson, Value.members]) hsources
        (fun seen => by simp [Draft.seen, ifSeen]) fun seen => isSome_ifSeen seen ..
    · exact .set (by simp [membersWith, toJson, Value.members]) (Reader.reads_strings settings.requests)
        (fun seen => by simp [Draft.seen, ifSeen]) fun seen => isSome_ifSeen seen ..
    · exact .set (by simp [membersWith, toJson, Value.members]) (Reader.reads_boolean settings.strict)
        (fun seen => by simp [Draft.seen, ifSeen]) fun seen => isSome_ifSeen seen ..
    · exact .set (by simp [membersWith, toJson, Value.members]) htypes
        (fun seen => by simp [Draft.seen, ifSeen, hsorted]) fun seen => isSome_ifSeen seen ..
    · exact .set (by simp [membersWith, toJson, Value.members]) hfields
        (fun seen => by simp [Draft.seen, ifSeen]) fun seen => isSome_ifSeen seen ..
  other k hk seen := by
    simp only [format, List.forall_mem_cons] at hk
    obtain ⟨hsources, hrequests, hstrict, htypes, hcatalog, -⟩ := hk
    simp only [Draft.seen, ifSeen_of_ne hsources, ifSeen_of_ne hrequests, ifSeen_of_ne hstrict,
      ifSeen_of_ne htypes, ifSeen_of_ne hcatalog]

theorem presents {settings : Settings} (h : settings.Faithful) :
    format.Presents settings.toJson.members (Draft.seen settings) := by
  rw [members_toJson]
  exact presents_with h.customTypes (Catalog.reads_toJson h.catalog)

/-- Settings are read back from all of their written forms. -/
theorem reads_toJson {settings : Settings} (h : settings.Faithful) :
    format.reader.Reads settings.toJson settings :=
  (presents h).reads_object (by simp [toJson, Value.members, Json.keys]) rfl

/-- The tables that a draft has so far are faithful. -/
structure Draft.Faithful (d : Draft) : Prop where
  customTypes : ∀ t ∈ d.customTypes, t.Sorted
  catalog : ∀ c ∈ d.catalog, c.Faithful

theorem keeps_faithful : format.Keeps Draft.Faithful := by
  intro field hfield
  simp only [format, List.mem_cons, List.not_mem_nil, or_false] at hfield
  rcases hfield with rfl | rfl | rfl | rfl | rfl
  · exact Json.Field.keeps_set (Reader.yields_true _) fun _ _ d hd => { hd with }
  · exact Json.Field.keeps_set (Reader.yields_true _) fun _ _ d hd => { hd with }
  · exact Json.Field.keeps_set (Reader.yields_true _) fun _ _ d hd => { hd with }
  · exact Json.Field.keeps_set (Reader.yields_true _) fun entries _ d hd =>
      { hd with customTypes := fun _ h => Option.mem_some.mp h ▸ Index.sorted_ofList entries }
  · exact Json.Field.keeps_set Catalog.yields_faithful fun c hc d hd =>
      { hd with catalog := fun _ h => Option.mem_some.mp h ▸ hc }

/-- A part that was not given takes its default, an empty table, which is faithful too. -/
theorem Draft.Faithful.finish {d : Draft} {settings : Settings} (hd : d.Faithful)
    (h : d.finish = .ok settings) : settings.Faithful := by
  unfold Draft.finish at h
  split at h
  · cases h
  · cases h
  · cases h
    refine ⟨?_, ?_⟩
    · cases htypes : d.customTypes with
      | none => exact List.Pairwise.nil
      | some types => exact hd.customTypes types htypes
    · cases hcatalog : d.catalog with
      | none => exact ⟨List.Pairwise.nil, nofun⟩
      | some catalog => exact hd.catalog catalog hcatalog

theorem ofJson_eq_ok_iff {text : String} {settings : Settings} :
    ofJson text = .ok settings ↔ format.reader.parse text = .ok settings :=
  Json.mapError_eq_ok_iff

theorem faithful_of_ofJson {text : String} {settings : Settings} (h : ofJson text = .ok settings) :
    settings.Faithful :=
  Reader.parse_yields (keeps_faithful.yields ⟨nofun, nofun⟩ fun hd hfin => hd.finish hfin)
    (ofJson_eq_ok_iff.mp h)

end Settings

/-- Settings that were read from a text are written to a text that is read as settings with the same
parts, in the same order everywhere, so these are written to the same text and assembled to the same
lexicon or failure. Likewise for a catalog and for the type of any name. -/
theorem reread_unchanged (write : Value → String) (hwrite : Json.IsWriter write) :
    (∀ (text : String) (settings : Settings), Settings.ofJson text = .ok settings →
      ∃ again, Settings.ofJson (write settings.toJson) = .ok again ∧
        again.sources = settings.sources ∧ again.requests = settings.requests ∧
        again.strict = settings.strict ∧ again.customTypes = settings.customTypes ∧
        again.catalog = settings.catalog ∧ write again.toJson = write settings.toJson ∧
        again.assemble = settings.assemble) ∧
    (∀ (text : String) (catalog : Catalog), Catalog.ofJson text = .ok catalog →
      ∃ again, Catalog.ofJson (write catalog.toJson) = .ok again ∧ again = catalog ∧
        write again.toJson = write catalog.toJson) ∧
    ∀ name : String, (StorageType.ofName name).name = name ∧
      Catalog.typeReader.parse (write (.string (StorageType.ofName name).name)) =
        .ok (StorageType.ofName name) := by
  refine ⟨?_, ?_, ?_⟩
  · intro text settings htext
    have hread := Settings.reads_toJson (Settings.faithful_of_ofJson htext)
    exact ⟨settings, Settings.ofJson_eq_ok_iff.mpr (Reader.parse_write hwrite hread),
      rfl, rfl, rfl, rfl, rfl, rfl, rfl⟩
  · intro text catalog htext
    have hread := Catalog.reads_toJson (Catalog.faithful_of_ofJson htext)
    exact ⟨catalog, Reader.parse_write hwrite hread, rfl, rfl⟩
  · intro name
    exact ⟨StorageType.name_ofName name,
      Reader.parse_write hwrite (Catalog.reads_type (StorageType.canonical_ofName name))⟩

/-- The members of settings in another order than they are written in, some left out, with a repeated
field, a type name in the wrong case and a source in the form of a list. -/
def scrambled : String :=
  "\x7b\"fields\": \x7b\"b\": \x7b\"x\": \"Date\", \"y\": \"Integer\", \"x\": \"date\"\x7d,"
    ++ " \"a\": \x7b\x7d\x7d,"
    ++ " \"attributes\": [\"p.x\"], \"entities\": [[\"b\", \"\\u0070\"]]\x7d"

def unscrambled : Settings :=
  { sources := [⟨"b", "p"⟩]
    requests := ["p.x"]
    catalog := ⟨⟨[("a", {}), ("b", ⟨[("x", .date), ("y", .custom "Integer")]⟩)]⟩⟩ }

theorem reread_unchanged_scrambled :
    Json.IsWriter Value.toPretty ∧ Settings.ofJson scrambled = .ok unscrambled ∧
      (∃ again, Settings.ofJson unscrambled.toJson.toPretty = .ok again ∧
        again.catalog = unscrambled.catalog ∧ again.assemble = unscrambled.assemble) ∧
      Catalog.typeReader.parse (Value.string "Integer").toPretty = .ok (.custom "Integer") := by
  have hread : Settings.ofJson scrambled = .ok unscrambled :=
    eq_ok_of_toOption (by decide +kernel)
  obtain ⟨hsettings, _, htype⟩ := reread_unchanged Value.toPretty (Or.inr rfl)
  obtain ⟨again, hagain, _, _, _, _, hcatalog, _, hassemble⟩ := hsettings _ _ hread
  exact ⟨Or.inr rfl, hread, ⟨again, hagain, hcatalog, hassemble⟩, (htype "Integer").2⟩

end FilterLexicon
