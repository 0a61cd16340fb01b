import FilterLexicon.Proofs.Merging

/-! The collection of columns, said from the columns that are reached. If a later column may replace
an earlier one, only a failing lookup ends the collection, and what it comes to is the table of the
reached columns. If names have to be distinct, the first repeated name ends it, however the lookups
behind it would go; and if no name is repeated, nothing is different from the other case. -/

namespace FilterLexicon

/-- What comes next matters only for the result that the first part has. -/
theorem Run.bind_congr_of_ok {α β : Type} {run : Run α} {next other : α → Run β}
    (h : ∀ a, run.outcome = .ok a → next a = other a) : run >>= next = run >>= other := by
  cases hrun : run.outcome with
  | ok a => rw [Run.bind_of_ok hrun, Run.bind_of_ok hrun, h a hrun]
  | error f => rw [Run.bind_of_error hrun, Run.bind_of_error hrun]

namespace Columns

/-- The failure of the first source whose lookup fails. -/
inductive Unfound (lookup : Lookup) (sources : List Source) : Failure → Prop where
  | first {earlier : List Source} {source : Source} {later : List Source} {reason : String}
      (hsplit : sources = earlier ++ source :: later)
      (hearlier : ∀ s ∈ earlier, ∃ fields, lookup s.entity = .ok fields)
      (hfails : lookup source.entity = .error reason) :
      Unfound lookup sources (.lookup source.entity reason)

/-- The failure of the first column whose name a column before it has: it names the entity of the
earlier column, then the entity of the later one. -/
inductive Repeats (columns : List (String × Column)) : Failure → Prop where
  | first {earlier : List (String × Column)} {name : String} {first second : Column}
      {later : List (String × Column)}
      (hsplit : columns = earlier ++ (name, second) :: later)
      (hearlier : (earlier.map Prod.fst).Nodup)
      (htaken : (name, first) ∈ earlier) :
      Repeats columns (.collision name first.entity second.entity)

theorem findSome?_lookupFailure?_iff {lookup : Lookup} {sources : List Source} {f : Failure} :
    sources.findSome? (lookupFailure? lookup) = some f ↔ Unfound lookup sources f := by
  rw [List.findSome?_eq_some_iff]
  simp only [lookupFailure?_eq_some_iff, lookupFailure?_eq_none_iff]
  constructor
  · rintro ⟨earlier, source, later, hsplit, ⟨reason, hfails, rfl⟩, hearlier⟩
    exact .first hsplit hearlier hfails
  · rintro ⟨hsplit, hearlier, hfails⟩
    exact ⟨_, _, _, hsplit, ⟨_, hfails, rfl⟩, hearlier⟩

theorem collision?_eq_some_iff_repeats {columns : List (String × Column)} {f : Failure} :
    collision? {} columns = some f ↔ Repeats columns f := by
  rw [collision?_eq_some_iff]
  constructor
  · rintro ⟨earlier, name, first, second, later, hsplit, hearlier, htaken, rfl⟩
    exact .first hsplit hearlier htaken
  · rintro ⟨hsplit, hearlier, htaken⟩
    exact ⟨_, _, _, _, _, hsplit, hearlier, htaken, rfl⟩

/-! ### Later columns count -/

theorem collect_lastWins_eq_error_iff {lookup : Lookup} {sources : List Source} {f : Failure} :
    (collect lookup .lastWins sources).outcome = .error f ↔ Unfound lookup sources f := by
  rw [← findSome?_lookupFailure?_iff, collect_outcome, stop?]
  cases sources.findSome? (lookupFailure? lookup) <;> simp

theorem exists_unfound_iff {lookup : Lookup} {sources : List Source} :
    (∃ f, Unfound lookup sources f) ↔
      ∃ source ∈ sources, ∃ reason, lookup source.entity = .error reason := by
  simp only [← findSome?_lookupFailure?_iff]
  rw [← Option.isSome_iff_exists, List.findSome?_isSome_iff]
  refine exists_congr fun source => and_congr_right fun _ => ?_
  unfold lookupFailure?
  cases lookup source.entity <;> simp

theorem collect_lastWins_of_found {lookup : Lookup} {sources : List Source}
    (h : ∀ source ∈ sources, ∃ fields, lookup source.entity = .ok fields) :
    (collect lookup .lastWins sources).outcome = .ok (table lookup sources) :=
  collect_eq_ok_iff.mpr ⟨⟨h, nofun⟩, rfl⟩

/-! ### Names have to be distinct -/

theorem collect_strict_of_repeats {lookup : Lookup} {sources : List Source} {f : Failure}
    (h : Repeats (reached lookup sources) f) :
    (collect lookup .strict sources).outcome = .error f := by
  rw [collect_outcome, stop?, collision?_eq_some_iff_repeats.mpr h]
  rfl

theorem exists_repeats_iff {columns : List (String × Column)} :
    (∃ f, Repeats columns f) ↔ ¬(columns.map Prod.fst).Nodup := by
  simp only [← collision?_eq_some_iff_repeats]
  rw [← Option.isSome_iff_exists, ← collision?_eq_none_iff, Option.isSome_iff_ne_none]

/-! ### No name is repeated -/

theorem addFields_of_distinct {source : Source} {columns : Columns}
    {fields : List (String × StorageType)}
    (h : columns.collision? (source.columns fields) = none) :
    columns.addFields .strict source fields = columns.addFields .lastWins source fields := by
  induction fields generalizing columns with
  | nil => rfl
  | cons f fields ih =>
      simp only [Source.columns, List.map_cons, collision?] at h
      rw [addFields, addFields]
      cases hget : columns.get? (source.attributeName f.1) with
      | some earlier => simp [hget] at h
      | none =>
          rw [hget] at h
          rw [add_of_none hget, add_of_none hget, pure_bind, pure_bind]
          exact ih h

theorem addSources_of_distinct {lookup : Lookup} {sources : List Source} {columns : Columns}
    (h : columns.collision? (reached lookup sources) = none) :
    columns.addSources lookup .strict sources = columns.addSources lookup .lastWins sources := by
  induction sources generalizing columns with
  | nil => rfl
  | cons source rest ih =>
      rw [addSources, addSources]
      apply Run.bind_congr_of_ok
      intro fields hask
      have hlookup : lookup source.entity = .ok fields := by
        rw [Run.ask_outcome] at hask
        cases hlookup : lookup source.entity with
        | ok found => rw [hlookup] at hask; simpa [Except.mapError] using hask
        | error reason => simp [hlookup, Except.mapError] at hask
      rw [reached, hlookup] at h
      simp only [collision?_append, Option.or_eq_none_iff] at h
      obtain ⟨hfields, hrest⟩ := h
      rw [addFields_of_distinct hfields]
      apply Run.bind_congr_of_ok
      intro _ _
      apply Run.bind_congr_of_ok
      intro added hadded
      rw [addFields_lastWins] at hadded
      cases hadded
      exact ih hrest

theorem collect_of_nodup {lookup : Lookup} {sources : List Source}
    (h : ((reached lookup sources).map Prod.fst).Nodup) :
    collect lookup .strict sources = collect lookup .lastWins sources :=
  addSources_of_distinct (collision?_eq_none_iff.mpr h)

/-! ### Both -/

/-- If a later column may replace an earlier one, the collection fails exactly when a lookup fails,
with the failure of the first one, and it comes to the table of the reached columns otherwise. If
names have to be distinct, a repeated name among the reached columns is the failure; without one, the
run is the same as if columns could be replaced. -/
theorem collect_exact (lookup : Lookup) (sources : List Source) :
    ((∃ f, (collect lookup .lastWins sources).outcome = .error f) ↔
      ∃ source ∈ sources, ∃ reason, lookup source.entity = .error reason) ∧
    (∀ f, (collect lookup .lastWins sources).outcome = .error f ↔ Unfound lookup sources f) ∧
    ((∀ source ∈ sources, ∃ fields, lookup source.entity = .ok fields) →
      ∃ table, (collect lookup .lastWins sources).outcome = .ok table ∧
        table.IsTableOf (reached lookup sources)) ∧
    (¬((reached lookup sources).map Prod.fst).Nodup → ∃ f, Repeats (reached lookup sources) f) ∧
    (∀ f, Repeats (reached lookup sources) f →
      (collect lookup .strict sources).outcome = .error f) ∧
    (((reached lookup sources).map Prod.fst).Nodup →
      collect lookup .strict sources = collect lookup .lastWins sources) := by
  refine ⟨?_, ?_, ?_, ?_, ?_, ?_⟩
  · rw [← exists_unfound_iff]
    exact exists_congr fun f => collect_lastWins_eq_error_iff
  · intro f
    exact collect_lastWins_eq_error_iff
  · intro hfound
    exact ⟨_, collect_lastWins_of_found hfound, Entries.isTableOf_ofList _⟩
  · exact exists_repeats_iff.mpr
  · intro f hrepeats
    exact collect_strict_of_repeats hrepeats
  · exact collect_of_nodup

/-- Names with dots, and names that differ in case only. -/
def dotted : Lookup := fun entity =>
  if entity = "order" then .ok ⟨[("id", .integer), ("note", .text), ("Id", .boolean)]⟩
  else if entity = "item" then .ok ⟨[("x.id", .date)]⟩
  else .error "absent"

def dottedSources : List Source := [⟨"item", "o"⟩, ⟨"order", "o.x"⟩, ⟨"item", "O"⟩]

/-- A source that is not there. -/
def missing : Source := ⟨"gone", "g"⟩

theorem collect_exact_dotted :
    (∃ table, (collect dotted .lastWins dottedSources).outcome = .ok table ∧
      table.keys = ["O.X.ID", "O.X.NOTE"] ∧
      table.get? "O.X.ID" = some ⟨"item", "O", "x.id", .date⟩) ∧
    (collect dotted .lastWins (dottedSources ++ [missing])).outcome =
      .error (.lookup "gone" "absent") ∧
    (∃ f, Repeats (reached dotted dottedSources) f) ∧
    (collect dotted .strict (⟨"order", "p"⟩ :: missing :: dottedSources)).outcome =
      .error (.collision "P.ID" "order" "order") ∧
    collect dotted .strict [⟨"item", "o"⟩, missing] =
      collect dotted .lastWins [⟨"item", "o"⟩, missing] := by
  refine ⟨?_, ?_, ?_, ?_, ?_⟩
  · have hfound : ∀ source ∈ dottedSources, ∃ fields, dotted source.entity = .ok fields := by
      simp [dottedSources, dotted]
    obtain ⟨table, hok, htable⟩ := (collect_exact dotted dottedSources).2.2.1 hfound
    have hlast : reached dotted dottedSources =
        (reached dotted dottedSources).take 4 ++
          ("O.X.ID", ⟨"item", "O", "x.id", .date⟩) :: [] := by decide
    refine ⟨table, hok, ?_, ?_⟩
    · rw [htable.keys]
      decide
    · exact (htable.holds _ _).mpr ⟨_, _, hlast, List.not_mem_nil⟩
  · refine ((collect_exact dotted (dottedSources ++ [missing])).2.1 _).mpr ?_
    exact .first rfl (by simp [dottedSources, dotted]) rfl
  · exact (collect_exact dotted dottedSources).2.2.2.1 (by decide)
  · have hsplit : reached dotted (⟨"order", "p"⟩ :: missing :: dottedSources) =
        [("P.ID", ⟨"order", "p", "id", .integer⟩), ("P.NOTE", ⟨"order", "p", "note", .text⟩)] ++
          ("P.ID", ⟨"order", "p", "Id", .boolean⟩) :: [] := by decide
    apply (collect_exact dotted (⟨"order", "p"⟩ :: missing :: dottedSources)).2.2.2.2.1
    exact .first hsplit (by decide) List.mem_cons_self
  · exact (collect_exact dotted [⟨"item", "o"⟩, missing]).2.2.2.2.2 (by decide)

end Columns
end FilterLexicon
