import FilterLexicon.Proofs.MemberOrder

/-! Catalogs from rows of entities with their fields. A later row of an entity replaces the earlier
one with all its fields, while a later field of a row only changes the type of the earlier one of its
name. It does not matter whether the rows are inserted one by one, come as a table, or are read from
JSON, by themselves or as a part of settings: what repeats in the text repeats in the rows. -/

namespace FilterLexicon

open Json (Blanks Encode ObjectText Reader Value Written keys)

namespace Catalog

/-- Entities with their fields and the names of the types, of which any may repeat. -/
abbrev Rows := List (String × List (String × String))

/-- The rows inserted one after the other. -/
def insertAll (catalog : Catalog) (rows : Rows) : Catalog :=
  rows.foldl (fun catalog row => catalog.insert row.1 row.2) catalog

/-- The rows as an object of objects, with what repeats in them. -/
def rowsJson (rows : Rows) : Value :=
  .object (rows.map fun row => (row.1, .object (row.2.map fun f => (f.1, .string f.2))))

theorem insertAll_eq (catalog : Catalog) (rows : Rows) :
    catalog.insertAll rows =
      ⟨catalog.entities.insertAll (rows.map fun row => (row.1, fieldsOf row.2))⟩ := by
  induction rows generalizing catalog with
  | nil => rfl
  | cons row rows ih => exact ih (catalog.insert row.1 row.2)

/-! ### Reading -/

theorem reads_fieldsOf (fields : List (String × String)) :
    ((Reader.object typeReader).map Entries.ofList).Reads
      (.object (fields.map fun f => (f.1, .string f.2))) (fieldsOf fields) := by
  have hread : (Reader.object typeReader).Reads (.object (fields.map fun f => (f.1, .string f.2)))
      (fields.map fun f => (f.1, StorageType.ofName f.2)) :=
    Reader.reads_members Value.string StorageType.ofName fun f _ =>
      (Reader.reads_string f.2).map StorageType.ofName
  exact hread.map Entries.ofList

theorem reads_rowsJson (rows : Rows) : reader.Reads (rowsJson rows) (ofTable rows) := by
  have hread : (Reader.object ((Reader.object typeReader).map Entries.ofList)).Reads
      (rowsJson rows) (rows.map fun row => (row.1, fieldsOf row.2)) :=
    Reader.reads_members (fun fields => .object (fields.map fun f => (f.1, .string f.2))) fieldsOf
      fun row _ => reads_fieldsOf row.2
  exact hread.map fun members => (⟨Index.ofList members⟩ : Catalog)

/-! ### Looking up -/

theorem lookup_eq_ok_iff {catalog : Catalog} {entity : String} {fields : Fields} :
    catalog.lookup entity = .ok fields ↔ catalog.entities.get? entity = some fields := by
  unfold lookup
  cases catalog.entities.get? entity <;> simp

theorem mem_entityNames_ofTable {rows : Rows} {entity : String} :
    entity ∈ (ofTable rows).entityNames ↔ entity ∈ rows.map Prod.fst := by
  rw [entityNames, ofTable, Index.mem_keys_ofList, List.map_map]
  rfl

theorem exists_lookup_iff {rows : Rows} {entity : String} :
    (∃ fields, (ofTable rows).lookup entity = .ok fields) ↔ entity ∈ rows.map Prod.fst := by
  simp only [lookup_eq_ok_iff, ← Option.isSome_iff_exists, Index.get?_isSome_iff]
  exact mem_entityNames_ofTable

/-- The last row of an entity counts, and no other. -/
theorem lookup_ofTable {earlier later : Rows} {entity : String} {fields : List (String × String)}
    (h : entity ∉ later.map Prod.fst) :
    (ofTable (earlier ++ (entity, fields) :: later)).lookup entity = .ok (fieldsOf fields) := by
  rw [lookup_eq_ok_iff, ofTable, Index.get?_ofList, Entries.get?_ofList_eq_some_iff]
  refine ⟨_, _, by rw [List.map_append, List.map_cons], ?_⟩
  rwa [List.map_map]

/-- The names of the entities stand in the order of their bytes, so none stands there twice. -/
theorem pairwise_entityNames_ofTable (rows : Rows) :
    (ofTable rows).entityNames.Pairwise fun a b => Text.before a b :=
  List.pairwise_map.mpr (Index.sorted_ofList _)

end Catalog

namespace Settings

/-- A catalog among the members of settings is read as it is by itself. -/
theorem catalog_of_ofJson {v : Value} {catalog : Catalog} (hread : Catalog.reader.Reads v catalog)
    {ms : List (String × List Char)} {text : String} (htext : ObjectText ms text) {t : List Char}
    (hmember : ("fields", t) ∈ ms) (ht : Written v t) {settings : Settings}
    (h : ofJson text = .ok settings) : settings.catalog = catalog := by
  have htakes := (hread t ht).map fun (c : Catalog) (d : Draft) => { d with catalog := some c }
  have hfield : ∃ field ∈ format.fields, field.name = "fields" ∧
      field.read.Takes t fun d => { d with catalog := some catalog } :=
    ⟨format.fields[4], List.getElem_mem _, rfl, htakes⟩
  obtain ⟨field, hfield, hname, hreads⟩ := hfield
  rw [← hname] at hmember
  have hothers : ∀ other ∈ format.fields, other.name ≠ field.name →
      other.Keeps fun d : Draft => d.catalog = some catalog := by
    intro other hother hne
    rw [hname] at hne
    simp only [format, List.mem_cons, List.not_mem_nil, or_false] at hother
    rcases hother with rfl | rfl | rfl | rfl | rfl
    case inr.inr.inr.inr => exact absurd rfl hne
    all_goals exact Json.Field.keeps_set (Reader.yields_true _) fun _ _ _ hd => hd
  obtain ⟨d, hfinish, hcatalog⟩ := tracks.parse_field hfield hreads (fun _ => rfl) hothers htext hmember
    (ofJson_eq_ok_iff.mp h)
  simp only [format, Draft.finish] at hfinish
  split at hfinish
  · cases hfinish
  · cases hfinish
  · cases hfinish
    simp [hcatalog]

/-- Settings are read with rows in the place of their catalog, in any order of the members. -/
theorem ofJson_rows {settings : Settings} (h : settings.customTypes.Sorted) (rows : Catalog.Rows)
    {ms : List (String × List Char)} {text : String} (htext : ObjectText ms text)
    (hencode : Encode ms (settings.membersWith (Catalog.rowsJson rows)))
    (honce : ∀ name ∈ memberNames, (keys ms).count name ≤ 1)
    (hgiven : ∀ name ∈ ["entities", "attributes", "fields"], name ∈ keys ms) :
    ofJson text = .ok { settings with
      strict := if "strictCollisions" ∈ keys ms then settings.strict else false
      customTypes := if "customTypes" ∈ keys ms then settings.customTypes else {}
      catalog := Catalog.ofTable rows } := by
  have hread := @ofJson_members_with { settings with catalog := Catalog.ofTable rows } h _
    (Catalog.reads_rowsJson rows) ms text htext hencode honce (hgiven _ (by simp))
    (hgiven _ (by simp))
  rwa [keeping, if_pos (hgiven "fields" (by simp))] at hread

end Settings

namespace Catalog

/-- Inserting rows one by one, making a catalog of their table, and reading them from JSON, by
themselves or among the members of settings, all give the same catalog. It has the entities of the
rows, in the order of the bytes of their names, and for each of them the fields of its last row: each
at its first place there, with its last type. -/
theorem built_alike (rows : Rows) :
    ({} : Catalog).insertAll rows = ofTable rows ∧
    (∀ b t b', Blanks b → Written (rowsJson rows) t → Blanks b' →
      ofJson (String.ofList (b ++ t ++ b')) = .ok (ofTable rows)) ∧
    (∀ (settings : Settings) (ms : List (String × List Char)) (text : String),
      settings.customTypes.Sorted → ObjectText ms text →
      Encode ms (settings.membersWith (rowsJson rows)) →
      (∀ name ∈ Settings.memberNames, (keys ms).count name ≤ 1) →
      (∀ name ∈ ["entities", "attributes", "fields"], name ∈ keys ms) →
      Settings.ofJson text = .ok { settings with
        strict := if "strictCollisions" ∈ keys ms then settings.strict else false
        customTypes := if "customTypes" ∈ keys ms then settings.customTypes else {}
        catalog := ofTable rows }) ∧
    (∀ (ms : List (String × List Char)) (text : String) (t : List Char) (settings : Settings),
      ObjectText ms text → ("fields", t) ∈ ms → Written (rowsJson rows) t →
      Settings.ofJson text = .ok settings → settings.catalog = ofTable rows) ∧
    (∀ entity, (∃ fields, (ofTable rows).lookup entity = .ok fields) ↔ entity ∈ rows.map Prod.fst) ∧
    (∀ earlier entity fields later, rows = earlier ++ (entity, fields) :: later →
      entity ∉ later.map Prod.fst → ∃ table, (ofTable rows).lookup entity = .ok table ∧
        table.IsTableOf (fields.map fun f => (f.1, StorageType.ofName f.2))) ∧
    (ofTable rows).entityNames.Pairwise (fun a b => Text.before a b) ∧
    ∀ entity, entity ∈ (ofTable rows).entityNames ↔ entity ∈ rows.map Prod.fst := by
  refine ⟨insertAll_eq {} rows, ?_, ?_, ?_, fun _ => exists_lookup_iff, ?_,
    pairwise_entityNames_ofTable rows, fun _ => mem_entityNames_ofTable⟩
  · intro b t b' hb ht hb'
    exact Reader.parse_written (reads_rowsJson rows) hb ht hb'
  · intro settings ms text hsorted htext hencode honce hgiven
    exact Settings.ofJson_rows hsorted rows htext hencode honce hgiven
  · intro ms text t settings htext hmember ht h
    exact Settings.catalog_of_ofJson (reads_rowsJson rows) htext hmember ht h
  · rintro earlier entity fields later rfl hlast
    exact ⟨_, lookup_ofTable hlast, Entries.isTableOf_ofList _⟩

/-- Rows that repeat an entity with other fields, and fields with other types. -/
def repetitiveRows : Rows :=
  [("b", [("x", "date"), ("y", "text")]), ("a", []),
    ("b", [("y", "integer"), ("Y", "Date"), ("y", "text")])]

def repetitiveText : String :=
  "\x7b\"b\":\x7b\"x\":\"date\",\"y\":\"text\"\x7d,\"a\":\x7b\x7d,"
    ++ "\"b\":\x7b\"y\":\"integer\",\"Y\":\"Date\",\"y\":\"text\"\x7d\x7d"

/-- The rows as a member of settings. -/
def repetitiveMembers : List (String × List Char) :=
  [("fields", (rowsJson repetitiveRows).compact), ("attributes", (Value.strings ["p.y"]).compact),
    ("entities", (Value.list []).compact)]

theorem built_alike_repetitive :
    ({} : Catalog).insertAll repetitiveRows = ofTable repetitiveRows ∧
    ofJson (" " ++ repetitiveText) = .ok (ofTable repetitiveRows) ∧
    (∃ settings, Settings.ofJson ("\x7b\"fields\":" ++ repetitiveText
      ++ ",\"attributes\":[\"p.y\"],\"entities\":[]\x7d") = .ok settings ∧
        settings.requests = ["p.y"] ∧ settings.catalog = ofTable repetitiveRows) ∧
    (∃ table, (ofTable repetitiveRows).lookup "b" = .ok table ∧ table.keys = ["y", "Y"] ∧
      table.get? "y" = some .text) ∧
    (¬∃ table, (ofTable repetitiveRows).lookup "B" = .ok table) ∧
    (ofTable repetitiveRows).entityNames.Pairwise (fun a b => Text.before a b) := by
  obtain ⟨hinsert, hread, hsettings, hcatalog, hknown, hlast, hsorted, _⟩ :=
    built_alike repetitiveRows
  refine ⟨hinsert, ?_, ?_, ?_, ?_, hsorted⟩
  · have hblank : Blanks [' '] := fun _ hc => List.mem_singleton.mp hc ▸ rfl
    have htext : " " ++ repetitiveText =
        String.ofList ([' '] ++ (rowsJson repetitiveRows).compact ++ []) := by decide +kernel
    rw [htext]
    exact hread _ _ _ hblank (rowsJson repetitiveRows).written_compact Json.blanks_nil
  · have hvalues : ∀ m ∈ repetitiveMembers, Json.IsValue m.2 := by
      simp only [repetitiveMembers, List.forall_mem_cons]
      exact ⟨(Value.written_compact _).isValue, (Value.written_compact _).isValue,
        (Value.written_compact _).isValue, fun _ h => absurd h List.not_mem_nil⟩
    have htext : ObjectText repetitiveMembers ("\x7b\"fields\":" ++ repetitiveText
        ++ ",\"attributes\":[\"p.y\"],\"entities\":[]\x7d") :=
      Json.objectText_compact hvalues (by decide +kernel)
    have hok := hsettings { sources := [], requests := ["p.y"] } repetitiveMembers _ .nil htext
      (Json.encode_compact (by decide +kernel)) (by decide +kernel) (by decide +kernel)
    refine ⟨_, hok, rfl, ?_⟩
    exact hcatalog repetitiveMembers _ _ _ htext List.mem_cons_self (Value.written_compact _) hok
  · obtain ⟨table, hlookup, htable⟩ := hlast (repetitiveRows.take 2) "b"
      [("y", "integer"), ("Y", "Date"), ("y", "text")] [] rfl List.not_mem_nil
    refine ⟨table, hlookup, ?_, ?_⟩
    · rw [htable.keys]
      decide
    · exact (htable.holds _ _).mpr ⟨[("y", .integer), ("Y", .custom "Date")], [], rfl,
        List.not_mem_nil⟩
  · rw [hknown]
    decide

end Catalog

end FilterLexicon
