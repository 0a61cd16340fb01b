import FilterLexicon.Proofs.Collecting
import FilterLexicon.Proofs.Index
import FilterLexicon.Settings

/-! The columns of settings. The fields of all sources stand in one row of columns, and the last of
a name counts. They are collected exactly when the catalog has all entities, and all names are
distinct if they have to be; otherwise the failure is the first in the order of the sources and of
their fields. -/

namespace FilterLexicon

namespace Catalog

/-- The fields of an entity in their order, none if the catalog does not have it. -/
def declared (catalog : Catalog) (entity : String) : List (String × StorageType) :=
  match catalog.entities.get? entity with
  | some fields => fields.toList
  | none => []

theorem mem_entityNames_iff {catalog : Catalog} {entity : String} :
    entity ∈ catalog.entityNames ↔ ∃ fields, catalog.lookup entity = .ok fields := by
  rw [entityNames, ← Index.get?_isSome_iff]
  unfold lookup
  cases catalog.entities.get? entity <;> simp

theorem lookup_eq_error {catalog : Catalog} {entity : String}
    (h : entity ∉ catalog.entityNames) :
    catalog.lookup entity = .error s!"no field metadata for entity {entity}" := by
  rw [entityNames, ← Index.get?_isSome_iff, Option.not_isSome_iff_eq_none] at h
  unfold lookup
  rw [h]

theorem declared_eq {catalog : Catalog} {entity : String} {fields : Fields}
    (h : catalog.lookup entity = .ok fields) : catalog.declared entity = fields.toList := by
  unfold lookup at h
  unfold declared
  cases hget : catalog.entities.get? entity with
  | none =>
      rw [hget] at h
      cases h
  | some found =>
      rw [hget] at h
      cases h
      rfl

end Catalog

namespace Settings

/-- Tables as insertions make them: sorted if they are sorted by key, and without a repeated key if they
are in order of insertion. -/
structure WellFormed (settings : Settings) : Prop where
  customTypes : settings.customTypes.Sorted
  entities : settings.catalog.entities.Sorted
  fields : ∀ e ∈ settings.catalog.entities.toList, e.2.keys.Nodup

variable (settings : Settings)

/-- The columns of sources in the order of the sources and of the fields of each. -/
def columnsOf (sources : List Source) : List (String × Column) :=
  sources.flatMap fun source => source.columns (settings.catalog.declared source.entity)

/-- The attribute names of all fields of all sources. -/
def names : List String := (settings.columnsOf settings.sources).map Prod.fst

/-- The sources before the first whose entity is not in the catalog. -/
def reached : List Source :=
  settings.sources.takeWhile fun source => source.entity ∈ settings.catalog.entityNames

/-- A column counts for its name if no later column has that name. -/
def Wins (name : String) (column : Column) : Prop :=
  ∃ earlier later, settings.columnsOf settings.sources = earlier ++ (name, column) :: later ∧
    name ∉ later.map Prod.fst

/-- All entities are in the catalog, and no two columns share a name if names have to be distinct. -/
structure Collects : Prop where
  entities : ∀ source ∈ settings.sources, source.entity ∈ settings.catalog.entityNames
  distinct : settings.strict = true → settings.names.Nodup

/-- What fails first among the sources: the lookup of an entity behind columns without a collision,
or a column whose name an earlier one has. -/
inductive SourceFailure : Failure → Prop where
  | lookup {earlier : List Source} {source : Source} {later : List Source}
      (hsplit : settings.sources = earlier ++ source :: later)
      (hearlier : ∀ s ∈ earlier, s.entity ∈ settings.catalog.entityNames)
      (hmissing : source.entity ∉ settings.catalog.entityNames)
      (hdistinct : settings.strict = true → ((settings.columnsOf earlier).map Prod.fst).Nodup) :
      SourceFailure (.lookup source.entity s!"no field metadata for entity {source.entity}")
  | collision {earlier : List (String × Column)} {name : String} {first second : Column}
      {later : List (String × Column)} (hstrict : settings.strict = true)
      (hsplit : settings.columnsOf settings.reached = earlier ++ (name, second) :: later)
      (hdistinct : (earlier.map Prod.fst).Nodup) (hfirst : (name, first) ∈ earlier) :
      SourceFailure (.collision name first.entity second.entity)

variable {settings}

/-! ### The sources that are reached -/

theorem reached_lookup (sources : List Source) :
    Columns.reached settings.catalog.lookup sources =
      settings.columnsOf
        (sources.takeWhile fun source => source.entity ∈ settings.catalog.entityNames) := by
  induction sources with
  | nil => rfl
  | cons source rest ih =>
      rw [Columns.reached, List.takeWhile_cons]
      by_cases h : source.entity ∈ settings.catalog.entityNames
      · obtain ⟨fields, hfields⟩ := Catalog.mem_entityNames_iff.mp h
        rw [hfields, if_pos (decide_eq_true h), ih, columnsOf, columnsOf, List.flatMap_cons,
          Catalog.declared_eq hfields]
      · rw [Catalog.lookup_eq_error h, if_neg (by simpa using h)]
        rfl

theorem reached_of_split {earlier later : List Source}
    (hsplit : settings.sources = earlier ++ later)
    (hearlier : ∀ s ∈ earlier, s.entity ∈ settings.catalog.entityNames)
    (hlater : ∀ s ∈ later.head?, s.entity ∉ settings.catalog.entityNames) :
    settings.reached = earlier := by
  rw [reached, hsplit, List.takeWhile_append_of_pos fun s hs => decide_eq_true (hearlier s hs)]
  cases later with
  | nil => exact List.append_nil earlier
  | cons source rest =>
      have hsource : source.entity ∉ settings.catalog.entityNames := hlater source rfl
      rw [List.takeWhile_cons_of_neg (by simpa using hsource), List.append_nil]

theorem reached_eq_sources
    (h : ∀ s ∈ settings.sources, s.entity ∈ settings.catalog.entityNames) :
    settings.reached = settings.sources :=
  reached_of_split (List.append_nil _).symm h nofun

/-! ### What stops the collection -/

/-- What stops the collection of the columns of settings. -/
def stop? (settings : Settings) : Option Failure :=
  Columns.stop? settings.catalog.lookup {} settings.sources settings.collisions

/-- It is the first collision, if names have to be distinct, and else the first entity that the
catalog does not have. -/
theorem stop?_eq (settings : Settings) :
    settings.stop? =
      (if settings.strict then
          Columns.collision? {} (settings.columnsOf settings.reached)
        else none).or
        (settings.sources.findSome? (Columns.lookupFailure? settings.catalog.lookup)) := by
  unfold stop? collisions
  cases settings.strict with
  | false => rfl
  | true =>
      show (Columns.collision? {} (Columns.reached settings.catalog.lookup settings.sources)).or _
        = _
      rw [reached_lookup]
      rfl

theorem lookupFailure?_eq_none_iff :
    settings.sources.findSome? (Columns.lookupFailure? settings.catalog.lookup) = none ↔
      ∀ s ∈ settings.sources, s.entity ∈ settings.catalog.entityNames := by
  rw [List.findSome?_eq_none_iff]
  simp only [Columns.lookupFailure?_eq_none_iff, Catalog.mem_entityNames_iff]

theorem lookupFailure?_eq_some_iff {f : Failure} :
    settings.sources.findSome? (Columns.lookupFailure? settings.catalog.lookup) = some f ↔
      ∃ earlier source later, settings.sources = earlier ++ source :: later ∧
        (∀ s ∈ earlier, s.entity ∈ settings.catalog.entityNames) ∧
        source.entity ∉ settings.catalog.entityNames ∧
        f = .lookup source.entity s!"no field metadata for entity {source.entity}" := by
  rw [List.findSome?_eq_some_iff]
  constructor
  · rintro ⟨earlier, source, later, hsplit, hsource, hearlier⟩
    obtain ⟨reason, hlookup, rfl⟩ := Columns.lookupFailure?_eq_some_iff.mp hsource
    have hmissing : source.entity ∉ settings.catalog.entityNames := by
      intro hmem
      obtain ⟨fields, hfields⟩ := Catalog.mem_entityNames_iff.mp hmem
      rw [hfields] at hlookup
      cases hlookup
    rw [Catalog.lookup_eq_error hmissing] at hlookup
    cases hlookup
    refine ⟨earlier, source, later, hsplit, ?_, hmissing, rfl⟩
    intro s hs
    exact Catalog.mem_entityNames_iff.mpr (Columns.lookupFailure?_eq_none_iff.mp (hearlier s hs))
  · rintro ⟨earlier, source, later, hsplit, hearlier, hmissing, rfl⟩
    refine ⟨earlier, source, later, hsplit, ?_, ?_⟩
    · exact Columns.lookupFailure?_eq_some_iff.mpr ⟨_, Catalog.lookup_eq_error hmissing, rfl⟩
    · intro s hs
      exact Columns.lookupFailure?_eq_none_iff.mpr (Catalog.mem_entityNames_iff.mp (hearlier s hs))

theorem stop?_eq_none_iff : settings.stop? = none ↔ settings.Collects := by
  rw [stop?_eq, Option.or_eq_none_iff, lookupFailure?_eq_none_iff]
  constructor
  · rintro ⟨hcollision, hentities⟩
    refine ⟨hentities, ?_⟩
    intro hstrict
    rw [if_pos hstrict, reached_eq_sources hentities] at hcollision
    exact Columns.collision?_eq_none_iff.mp hcollision
  · intro h
    refine ⟨?_, h.entities⟩
    rw [reached_eq_sources h.entities]
    split
    · rename_i hstrict
      exact Columns.collision?_eq_none_iff.mpr (h.distinct hstrict)
    · rfl

theorem stop?_eq_some_iff {f : Failure} :
    settings.stop? = some f ↔ settings.SourceFailure f := by
  rw [stop?_eq, Option.or_eq_some_iff, lookupFailure?_eq_some_iff]
  constructor
  · rintro (hcollision | ⟨hcollision, earlier, source, later, hsplit, hearlier, hmissing, rfl⟩)
    · split at hcollision
      · rename_i hstrict
        obtain ⟨earlier, name, first, second, later, hsplit, hdistinct, hfirst, rfl⟩ :=
          Columns.collision?_eq_some_iff.mp hcollision
        exact .collision hstrict hsplit hdistinct hfirst
      · cases hcollision
    · refine .lookup hsplit hearlier hmissing ?_
      intro hstrict
      have hreached := reached_of_split hsplit hearlier fun s hs => Option.some.inj hs ▸ hmissing
      rw [if_pos hstrict, hreached] at hcollision
      exact Columns.collision?_eq_none_iff.mp hcollision
  · intro h
    cases h with
    | lookup hsplit hearlier hmissing hdistinct =>
        refine Or.inr ⟨?_, _, _, _, hsplit, hearlier, hmissing, rfl⟩
        rw [reached_of_split hsplit hearlier fun s hs => Option.some.inj hs ▸ hmissing]
        split
        · rename_i hstrict
          exact Columns.collision?_eq_none_iff.mpr (hdistinct hstrict)
        · rfl
    | collision hstrict hsplit hdistinct hfirst =>
        refine Or.inl ?_
        rw [if_pos hstrict]
        exact Columns.collision?_eq_some_iff.mpr ⟨_, _, _, _, _, hsplit, hdistinct, hfirst, rfl⟩

/-! ### The collected columns -/

/-- The columns that count, under their names. -/
def table (settings : Settings) : Columns :=
  Entries.ofList (settings.columnsOf settings.sources)

/-- The collection of the columns of settings. -/
def collected (settings : Settings) : Except Failure Columns :=
  (Columns.collect settings.catalog.lookup settings.collisions settings.sources).outcome

theorem collected_eq_ok_iff {columns : Columns} :
    settings.collected = .ok columns ↔ settings.Collects ∧ columns = settings.table := by
  rw [collected, Columns.collect_outcome, ← stop?, ← stop?_eq_none_iff]
  cases hstop : settings.stop? with
  | some failure => exact iff_of_false nofun fun h => by cases h.1
  | none =>
      have hentities := (stop?_eq_none_iff.mp hstop).entities
      rw [reached_lookup, ← reached, reached_eq_sources hentities, ← table]
      simp [eq_comm]

theorem collected_eq_error_iff {f : Failure} :
    settings.collected = .error f ↔ settings.SourceFailure f := by
  rw [collected, Columns.collect_outcome, ← stop?, ← stop?_eq_some_iff]
  cases settings.stop? <;> simp

theorem exists_collected_iff {P : Columns → Prop} :
    (∃ columns, settings.collected = .ok columns ∧ P columns) ↔
      settings.Collects ∧ P settings.table := by
  constructor
  · rintro ⟨columns, hcolumns, h⟩
    obtain ⟨hcollects, rfl⟩ := collected_eq_ok_iff.mp hcolumns
    exact ⟨hcollects, h⟩
  · rintro ⟨hcollects, h⟩
    exact ⟨settings.table, collected_eq_ok_iff.mpr ⟨hcollects, rfl⟩, h⟩

theorem table_get?_eq_some_iff {name : String} {column : Column} :
    settings.table.get? name = some column ↔ settings.Wins name column :=
  Entries.get?_ofList_eq_some_iff

theorem table_get?_eq_none_iff {name : String} :
    settings.table.get? name = none ↔ name ∉ settings.names :=
  Entries.get?_ofList_eq_none_iff

theorem Wins.mem_names {name : String} {column : Column} (h : settings.Wins name column) :
    name ∈ settings.names := by
  obtain ⟨earlier, later, heq, _⟩ := h
  rw [names, heq]
  simp

theorem Wins.unique {name : String} {a b : Column} (ha : settings.Wins name a)
    (hb : settings.Wins name b) : a = b := by
  have hfound := table_get?_eq_some_iff.mpr ha
  rw [table_get?_eq_some_iff.mpr hb] at hfound
  exact (Option.some.inj hfound).symm

theorem exists_wins {name : String} (h : name ∈ settings.names) :
    ∃ column, settings.Wins name column := by
  cases hget : settings.table.get? name with
  | none => exact absurd h (table_get?_eq_none_iff.mp hget)
  | some column => exact ⟨column, table_get?_eq_some_iff.mp hget⟩

end Settings
end FilterLexicon
