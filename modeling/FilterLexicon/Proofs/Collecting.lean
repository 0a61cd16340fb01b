import FilterLexicon.Mapping
import FilterLexicon.Proofs.Entries

/-! What the collection of columns comes to. The columns that are reached are those of the sources
before the first failing lookup, in the order of the sources and of the fields of each. If every
later column may replace an earlier one, only that lookup can stop the collection; otherwise the
first name among the reached columns that occurs a second time stops it, even before the lookup. -/

namespace FilterLexicon

/-- The columns of a source under their attribute names, in the order of its fields. -/
def Source.columns (source : Source) (fields : List (String × StorageType)) :
    List (String × Column) :=
  fields.map fun f => (source.attributeName f.1, source.column f.1 f.2)

namespace Columns

/-- The columns of the sources before the first failing lookup. -/
def reached (lookup : Lookup) : List Source → List (String × Column)
  | [] => []
  | source :: rest =>
    match lookup source.entity with
    | .ok fields => source.columns fields.toList ++ reached lookup rest
    | .error _ => []

/-- The failure of a source's lookup. -/
def lookupFailure? (lookup : Lookup) (source : Source) : Option Failure :=
  match lookup source.entity with
  | .ok _ => none
  | .error reason => some (.lookup source.entity reason)

/-- The collision of the first column whose name is taken by an earlier one. -/
def collision? (taken : Columns) : List (String × Column) → Option Failure
  | [] => none
  | (name, column) :: rest =>
    match taken.get? name with
    | some earlier => some (.collision name earlier.entity column.entity)
    | none => collision? (taken.insert name column) rest

/-- What stops the collection. -/
def stop? (lookup : Lookup) (taken : Columns) (sources : List Source) :
    Collisions → Option Failure
  | .lastWins => sources.findSome? (lookupFailure? lookup)
  | .strict =>
    (taken.collision? (reached lookup sources)).or (sources.findSome? (lookupFailure? lookup))

/-! ### The fields of one source -/

theorem add_of_none {columns : Columns} {name : String} (h : columns.get? name = none)
    (collisions : Collisions) (column : Column) :
    columns.add collisions name column = pure (columns.insert name column) := by
  unfold add
  rw [h]

theorem add_strict_of_some {columns : Columns} {name : String} {earlier : Column}
    (h : columns.get? name = some earlier) (column : Column) :
    columns.add .strict name column =
      Run.fail (.collision name earlier.entity column.entity) := by
  unfold add
  rw [h]

theorem add_lastWins (columns : Columns) (name : String) (column : Column) :
    (columns.add .lastWins name column).outcome = .ok (columns.insert name column) := by
  unfold add
  cases columns.get? name <;> rfl

theorem addFields_lastWins (source : Source) (columns : Columns)
    (fields : List (String × StorageType)) :
    (columns.addFields .lastWins source fields).outcome =
      .ok (columns.insertAll (source.columns fields)) := by
  induction fields generalizing columns with
  | nil => rfl
  | cons f fields ih =>
      rw [addFields, Run.bind_of_ok (add_lastWins columns _ _), ih]
      rfl

theorem addFields_strict (source : Source) (columns : Columns)
    (fields : List (String × StorageType)) :
    (columns.addFields .strict source fields).outcome =
      match columns.collision? (source.columns fields) with
      | some failure => .error failure
      | none => .ok (columns.insertAll (source.columns fields)) := by
  induction fields generalizing columns with
  | nil => rfl
  | cons f fields ih =>
      rw [addFields]
      simp only [Source.columns, List.map_cons, collision?] at ih ⊢
      cases hget : columns.get? (source.attributeName f.1) with
      | none =>
          rw [add_of_none hget, pure_bind, ih]
          rfl
      | some earlier => rw [add_strict_of_some hget, Run.bind_of_error rfl]

/-! ### All sources -/

theorem collision?_append (taken : Columns) (first second : List (String × Column)) :
    taken.collision? (first ++ second) =
      (taken.collision? first).or (collision? (taken.insertAll first) second) := by
  induction first generalizing taken with
  | nil => rfl
  | cons e first ih =>
      simp only [List.cons_append, collision?]
      cases taken.get? e.1 with
      | none => exact ih (taken.insert e.1 e.2)
      | some earlier => rfl

theorem addSources_cons_of_error {lookup : Lookup} {collisions : Collisions} {columns : Columns}
    {source : Source} {rest : List Source} {reason : String}
    (h : lookup source.entity = .error reason) :
    (columns.addSources lookup collisions (source :: rest)).outcome =
      .error (.lookup source.entity reason) := by
  have hask : (Run.ask [.lookup source.entity] (.lookup source.entity)
      (lookup source.entity)).outcome = .error (.lookup source.entity reason) := by
    rw [h]
    rfl
  rw [addSources, Run.bind_of_error hask]

theorem addSources_cons_of_ok {lookup : Lookup} {collisions : Collisions} {columns : Columns}
    {source : Source} {rest : List Source} {fields : Fields}
    (h : lookup source.entity = .ok fields) :
    (columns.addSources lookup collisions (source :: rest)).outcome =
      (columns.addFields collisions source fields.toList >>= fun columns =>
        columns.addSources lookup collisions rest).outcome := by
  have hask : (Run.ask [.lookup source.entity] (.lookup source.entity)
      (lookup source.entity)).outcome = .ok fields := by
    rw [h]
    rfl
  rw [addSources, Run.bind_of_ok hask, Run.bind_of_ok rfl]

/-- The collection gives all reached columns under their names, unless something stops it. -/
theorem addSources_outcome (lookup : Lookup) (collisions : Collisions) (columns : Columns)
    (sources : List Source) :
    (columns.addSources lookup collisions sources).outcome =
      match stop? lookup columns sources collisions with
      | some failure => .error failure
      | none => .ok (columns.insertAll (reached lookup sources)) := by
  induction sources generalizing columns with
  | nil => cases collisions <;> rfl
  | cons source rest ih =>
      cases hlookup : lookup source.entity with
      | error reason =>
          rw [addSources_cons_of_error hlookup]
          cases collisions <;> simp [stop?, reached, lookupFailure?, collision?, hlookup]
      | ok fields =>
          rw [addSources_cons_of_ok hlookup]
          simp only [reached, hlookup, Entries.insertAll_append]
          cases collisions with
          | lastWins =>
              rw [Run.bind_of_ok (addFields_lastWins source columns fields.toList), ih]
              simp only [stop?, List.findSome?_cons, lookupFailure?, hlookup]
          | strict =>
              have hfields := addFields_strict source columns fields.toList
              simp only [stop?, reached, List.findSome?_cons, lookupFailure?, hlookup,
                collision?_append]
              cases hcollision : columns.collision? (source.columns fields.toList) with
              | none =>
                  rw [hcollision] at hfields
                  rw [Run.bind_of_ok hfields, ih]
                  rfl
              | some failure =>
                  rw [hcollision] at hfields
                  rw [Run.bind_of_error hfields]
                  rfl

theorem collect_outcome (lookup : Lookup) (collisions : Collisions) (sources : List Source) :
    (collect lookup collisions sources).outcome =
      match stop? lookup {} sources collisions with
      | some failure => .error failure
      | none => .ok (Entries.ofList (reached lookup sources)) :=
  addSources_outcome lookup collisions {} sources

/-! ### What stops it, in terms of the input -/

theorem lookupFailure?_eq_none_iff {lookup : Lookup} {source : Source} :
    lookupFailure? lookup source = none ↔ ∃ fields, lookup source.entity = .ok fields := by
  unfold lookupFailure?
  cases lookup source.entity <;> simp

theorem lookupFailure?_eq_some_iff {lookup : Lookup} {source : Source} {f : Failure} :
    lookupFailure? lookup source = some f ↔
      ∃ reason, lookup source.entity = .error reason ∧ f = .lookup source.entity reason := by
  unfold lookupFailure?
  cases lookup source.entity <;> simp [eq_comm]

theorem ofList_insert (seen : List (String × Column)) (name : String) (column : Column) :
    (Entries.ofList seen).insert name column = Entries.ofList (seen ++ [(name, column)]) := by
  rw [Entries.ofList_eq_insertAll, Entries.ofList_eq_insertAll, Entries.insertAll_append]
  rfl

theorem nodup_names_append {seen : List (String × Column)} (hseen : (seen.map Prod.fst).Nodup)
    {name : String} (h : name ∉ seen.map Prod.fst) (column : Column) :
    ((seen ++ [(name, column)]).map Prod.fst).Nodup := by
  rw [List.map_append]
  exact Entries.nodup_append_new hseen h

/-- No name is taken exactly when all names are distinct. -/
theorem collision?_ofList_eq_none_iff {seen entries : List (String × Column)}
    (hseen : (seen.map Prod.fst).Nodup) :
    collision? (Entries.ofList seen) entries = none ↔ ((seen ++ entries).map Prod.fst).Nodup := by
  induction entries generalizing seen with
  | nil => simp [collision?, hseen]
  | cons e entries ih =>
      obtain ⟨name, column⟩ := e
      rw [collision?]
      cases hget : (Entries.ofList seen).get? name with
      | none =>
          rw [ofList_insert, ih (nodup_names_append hseen (Entries.get?_ofList_eq_none_iff.mp hget)
            column), List.append_assoc]
          rfl
      | some earlier =>
          obtain ⟨before, after, rfl, _⟩ := Entries.get?_ofList_eq_some_iff.mp hget
          simp only [reduceCtorEq, false_iff]
          intro hnodup
          rw [List.map_append, List.nodup_append] at hnodup
          exact hnodup.2.2 name (by simp) name (by simp) rfl

/-- A collision is the one of the first column whose name occurs before it. -/
theorem collision?_ofList_eq_some_iff {seen entries : List (String × Column)} {f : Failure}
    (hseen : (seen.map Prod.fst).Nodup) :
    collision? (Entries.ofList seen) entries = some f ↔
      ∃ before name first second after, entries = before ++ (name, second) :: after ∧
        ((seen ++ before).map Prod.fst).Nodup ∧ (name, first) ∈ seen ++ before ∧
        f = .collision name first.entity second.entity := by
  induction entries generalizing seen with
  | nil => simp [collision?]
  | cons e entries ih =>
      obtain ⟨name, column⟩ := e
      rw [collision?]
      cases hget : (Entries.ofList seen).get? name with
      | none =>
          have hname := Entries.get?_ofList_eq_none_iff.mp hget
          rw [ofList_insert, ih (nodup_names_append hseen hname column)]
          constructor
          · rintro ⟨before, name', first, second, after, rfl, hnodup, hmem, rfl⟩
            rw [List.append_assoc] at hnodup hmem
            exact ⟨(name, column) :: before, name', first, second, after, rfl, hnodup, hmem, rfl⟩
          · rintro ⟨before, name', first, second, after, heq, hnodup, hmem, rfl⟩
            cases before with
            | nil =>
                cases heq
                rw [List.append_nil] at hmem
                exact absurd (List.mem_map_of_mem hmem) hname
            | cons e before =>
                cases heq
                refine ⟨before, name', first, second, after, rfl, ?_, ?_, rfl⟩
                · rwa [List.append_assoc]
                · rwa [List.append_assoc]
      | some earlier =>
          obtain ⟨pre, post, hseen', hpost⟩ := Entries.get?_ofList_eq_some_iff.mp hget
          have hmem : (name, earlier) ∈ seen := by simp [hseen']
          simp only [Option.some.injEq]
          constructor
          · rintro rfl
            refine ⟨[], name, earlier, column, entries, rfl, ?_, ?_, rfl⟩
            · rwa [List.append_nil]
            · rwa [List.append_nil]
          · rintro ⟨before, name', first, second, after, heq, hnodup, hmem', rfl⟩
            cases before with
            | nil =>
                cases heq
                rw [List.append_nil] at hmem'
                rw [Entries.eq_of_mem_of_nodup hseen hmem hmem']
            | cons e before =>
                cases heq
                rw [List.map_append, List.nodup_append] at hnodup
                exact absurd rfl (hnodup.2.2 name (List.mem_map_of_mem hmem) name (by simp))

theorem collision?_eq_none_iff {entries : List (String × Column)} :
    collision? {} entries = none ↔ (entries.map Prod.fst).Nodup :=
  @collision?_ofList_eq_none_iff [] entries List.nodup_nil

theorem collision?_eq_some_iff {entries : List (String × Column)} {f : Failure} :
    collision? {} entries = some f ↔
      ∃ before name first second after, entries = before ++ (name, second) :: after ∧
        (before.map Prod.fst).Nodup ∧ (name, first) ∈ before ∧
        f = .collision name first.entity second.entity :=
  @collision?_ofList_eq_some_iff [] entries f List.nodup_nil

end Columns
end FilterLexicon
