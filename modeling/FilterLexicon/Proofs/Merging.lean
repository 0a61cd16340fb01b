import FilterLexicon.Proofs.Collecting

/-! Merged sources: those whose lookups all succeed and whose columns have distinct names if they have
to. Being merged is what a beginning of the sources needs for the collection to go on behind it, so
that the collection can be followed source by source, and in any order that keeps them merged. -/

namespace FilterLexicon

/-- The fields that a lookup finds for a source. -/
def Source.fields (lookup : Lookup) (source : Source) : List (String × StorageType) :=
  match lookup source.entity with
  | .ok fields => fields.toList
  | .error _ => []

namespace Columns

/-- The table of the columns that are reached. -/
def table (lookup : Lookup) (sources : List Source) : Columns :=
  Entries.ofList (reached lookup sources)

/-- All lookups succeed and, if names have to be distinct, no two columns share one. -/
structure Merged (lookup : Lookup) (collisions : Collisions) (sources : List Source) : Prop where
  found : ∀ source ∈ sources, ∃ fields, lookup source.entity = .ok fields
  distinct : collisions = .strict → ((reached lookup sources).map Prod.fst).Nodup

theorem merged_nil (lookup : Lookup) (collisions : Collisions) : Merged lookup collisions [] :=
  ⟨nofun, fun _ => List.nodup_nil⟩

theorem reached_append {lookup : Lookup} {earlier : List Source}
    (h : ∀ source ∈ earlier, ∃ fields, lookup source.entity = .ok fields) (later : List Source) :
    reached lookup (earlier ++ later) = reached lookup earlier ++ reached lookup later := by
  induction earlier with
  | nil => rfl
  | cons source earlier ih =>
      obtain ⟨fields, hfields⟩ := h source List.mem_cons_self
      rw [List.cons_append, reached, reached, hfields]
      simp only
      rw [ih fun s hs => h s (List.mem_cons_of_mem _ hs), List.append_assoc]

/-- If all lookups succeed, the columns of all sources are reached. -/
theorem reached_eq_flatMap {lookup : Lookup} {sources : List Source}
    (h : ∀ source ∈ sources, ∃ fields, lookup source.entity = .ok fields) :
    reached lookup sources = sources.flatMap fun source => source.columns (source.fields lookup) := by
  induction sources with
  | nil => rfl
  | cons source rest ih =>
      obtain ⟨fields, hfields⟩ := h source List.mem_cons_self
      rw [List.flatMap_cons, ← ih fun s hs => h s (List.mem_cons_of_mem _ hs), reached, Source.fields,
        hfields]

theorem table_append {lookup : Lookup} {earlier : List Source}
    (h : ∀ source ∈ earlier, ∃ fields, lookup source.entity = .ok fields) (later : List Source) :
    (table lookup earlier).insertAll (reached lookup later) = table lookup (earlier ++ later) := by
  rw [table, table, reached_append h, Entries.ofList_eq_insertAll, Entries.ofList_eq_insertAll,
    Entries.insertAll_append]

/-- Behind merged sources, nothing stops the collection exactly when all sources together are
merged. -/
theorem stop?_eq_none_iff {lookup : Lookup} {collisions : Collisions} {earlier : List Source}
    (h : Merged lookup collisions earlier) {later : List Source} :
    stop? lookup (table lookup earlier) later collisions = none ↔
      Merged lookup collisions (earlier ++ later) := by
  have hfound : later.findSome? (lookupFailure? lookup) = none ↔
      ∀ source ∈ earlier ++ later, ∃ fields, lookup source.entity = .ok fields := by
    rw [List.findSome?_eq_none_iff, List.forall_mem_append]
    simp only [lookupFailure?_eq_none_iff]
    exact ⟨fun hlater => ⟨h.found, hlater⟩, And.right⟩
  cases collisions with
  | lastWins =>
      exact hfound.trans ⟨fun hall => ⟨hall, nofun⟩, fun hmerged => hmerged.found⟩
  | strict =>
      have hnames : collision? (Entries.ofList (reached lookup earlier)) (reached lookup later) =
          none ↔ _ := collision?_ofList_eq_none_iff (h.distinct rfl)
      rw [← reached_append h.found] at hnames
      rw [stop?, Option.or_eq_none_iff, hfound, table, hnames]
      exact ⟨fun hall => ⟨hall.2, fun _ => hall.1⟩,
        fun hmerged => ⟨hmerged.distinct rfl, hmerged.found⟩⟩

theorem addSources_eq_ok_iff {lookup : Lookup} {collisions : Collisions} {earlier : List Source}
    (h : Merged lookup collisions earlier) {later : List Source} {columns : Columns} :
    ((table lookup earlier).addSources lookup collisions later).outcome = .ok columns ↔
      Merged lookup collisions (earlier ++ later) ∧ columns = table lookup (earlier ++ later) := by
  rw [addSources_outcome, ← stop?_eq_none_iff h, table_append h.found]
  cases stop? lookup (table lookup earlier) later collisions <;> simp [eq_comm]

/-- The collection succeeds exactly when all sources are merged, and then has all their columns. -/
theorem collect_eq_ok_iff {lookup : Lookup} {collisions : Collisions} {sources : List Source}
    {columns : Columns} :
    (collect lookup collisions sources).outcome = .ok columns ↔
      Merged lookup collisions sources ∧ columns = table lookup sources :=
  addSources_eq_ok_iff (merged_nil lookup collisions)

end Columns
end FilterLexicon
