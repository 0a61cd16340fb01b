import FilterLexicon.Proofs.ColumnTable
import Mathlib.Data.List.Induction

/-! Columns that take the place of others. If a later column may replace an earlier one, each column
whose name occurs before it is told as a replacement of the last column of that name, and every other
column adds an entry to the table. So what has been told of the columns so far, together with the size
of their table, accounts for each of them. If names have to be distinct, nothing is ever replaced. -/

namespace FilterLexicon

def Event.isReplaced : Event → Bool
  | replaced .. => true
  | _ => false

namespace Run

variable {α β : Type}

/-- The replacements among the events of a run. -/
def replaced (run : Run α) : List Event := run.events.filter Event.isReplaced

theorem replaced_bind_of_ok {run : Run α} {a : α} (h : run.outcome = .ok a) (next : α → Run β) :
    (run >>= next).replaced = run.replaced ++ (next a).replaced := by
  rw [bind_of_ok h]
  exact List.filter_append _ _

theorem replaced_bind_of_error {run : Run α} {f : Failure} (h : run.outcome = .error f)
    (next : α → Run β) : (run >>= next).replaced = run.replaced := by
  rw [bind_of_error h]
  rfl

theorem replaced_ask (calls : List Call) (failure : String → Failure) (reply : Except String α) :
    (ask calls failure reply).replaced = [] := by
  cases reply <;> rfl

/-- Nothing is replaced by two runs if nothing is by either. -/
theorem replaced_bind_eq_nil {run : Run α} {next : α → Run β} (h : run.replaced = [])
    (hnext : ∀ a, (next a).replaced = []) : (run >>= next).replaced = [] := by
  cases houtcome : run.outcome with
  | error f => rw [replaced_bind_of_error houtcome, h]
  | ok a => rw [replaced_bind_of_ok houtcome, h, hnext, List.nil_append]

end Run

namespace Columns

/-- What is told of a column that comes behind others, if one of them has its name: the name, the entity
of the last column that has it, and the entity of the new one. -/
def replacement? (earlier : List (String × Column)) (column : String × Column) : Option Event :=
  (earlier.reverse.lookup column.1).map fun last =>
    .replaced column.1 last.entity column.2.entity

/-- What is told of columns, in their order: for each column the replacement that it is among those
before it, if it is one. -/
def replacements (columns : List (String × Column)) : List Event :=
  columns.zipIdx.filterMap fun (column, place) => replacement? (columns.take place) column

/-! ### One more column -/

theorem replacements_concat (columns : List (String × Column)) (column : String × Column) :
    replacements (columns ++ [column]) =
      replacements columns ++ (replacement? columns column).toList := by
  have hbefore : columns.zipIdx.filterMap (fun (c, place) =>
      replacement? ((columns ++ [column]).take place) c) = replacements columns := by
    apply List.filterMap_congr
    rintro ⟨c, place⟩ hmem
    have hplace : place < columns.length := by
      simpa using List.snd_lt_of_mem_zipIdx hmem
    simp only [List.take_append_of_le_length (Nat.le_of_lt hplace)]
  rw [replacements, List.zipIdx_append, List.filterMap_append, hbefore]
  cases h : replacement? columns column <;> simp [h]

/-- A column is told as a replacement or adds an entry. -/
theorem length_replacements_add_size (columns : List (String × Column)) :
    (replacements columns).length + (Entries.ofList columns).size = columns.length := by
  induction columns using List.reverseRecOn with
  | nil => rfl
  | append_singleton columns column ih =>
      rw [replacements_concat, ← ofList_insert, Entries.size_insert, replacement?,
        List.length_append, List.length_append, List.length_singleton]
      cases h : columns.reverse.lookup column.1 with
      | none =>
          have hnew : column.1 ∉ (Entries.ofList columns).keys := by
            rw [← Entries.get?_eq_none_iff, Entries.get?_ofList, h]
          rw [if_neg hnew, ← ih]
          rfl
      | some last =>
          have hold : column.1 ∈ (Entries.ofList columns).keys := by
            rw [← Entries.get?_isSome_iff, Entries.get?_ofList, h]
            rfl
          rw [if_pos hold, ← ih]
          exact Nat.add_right_comm _ _ _

/-! ### Later columns count -/

theorem add_replaced (columns : List (String × Column)) (name : String) (column : Column) :
    (add .lastWins (Entries.ofList columns) name column).replaced =
      (replacement? columns (name, column)).toList := by
  have hget := Entries.get?_ofList columns name
  rw [replacement?]
  cases hlookup : columns.reverse.lookup name with
  | none => rw [add_of_none (hget.trans hlookup)]; rfl
  | some last =>
      unfold add
      rw [hget, hlookup]
      rfl

/-- What is told of the fields of a source comes behind what is told of the columns before them. -/
theorem addFields_replaced (source : Source) (columns : List (String × Column))
    (fields : List (String × StorageType)) :
    replacements columns ++
        (addFields .lastWins source (Entries.ofList columns) fields).replaced =
      replacements (columns ++ source.columns fields) := by
  induction fields generalizing columns with
  | nil => rw [Source.columns, List.map_nil, List.append_nil]; exact List.append_nil _
  | cons f fields ih =>
      rw [addFields, Run.replaced_bind_of_ok (add_lastWins _ _ _), add_replaced, ofList_insert,
        ← List.append_assoc, ← replacements_concat, ih, List.append_assoc]
      rfl

theorem addSources_replaced (lookup : Lookup) (columns : List (String × Column))
    (sources : List Source) :
    replacements columns ++
        (addSources lookup .lastWins (Entries.ofList columns) sources).replaced =
      replacements (columns ++ reached lookup sources) := by
  induction sources generalizing columns with
  | nil => rw [reached, List.append_nil]; exact List.append_nil _
  | cons source rest ih =>
      have hask := Run.ask_outcome [.lookup source.entity] (.lookup source.entity)
        (lookup source.entity)
      rw [addSources]
      cases hlookup : lookup source.entity with
      | error reason =>
          rw [hlookup] at hask
          rw [Run.replaced_bind_of_error hask, Run.replaced_ask]
          simp only [reached, hlookup, List.append_nil]
      | ok fields =>
          have hnote : (Run.note (.merging source.entity source.qualifier fields.size)).outcome =
              .ok () := rfl
          have hadded : (addFields .lastWins source (Entries.ofList columns)
              fields.toList).outcome =
                .ok (Entries.ofList (columns ++ source.columns fields.toList)) := by
            rw [addFields_lastWins, Entries.ofList_eq_insertAll, Entries.ofList_eq_insertAll,
              Entries.insertAll_append]
          have hnothing : (Run.note (.merging source.entity source.qualifier fields.size)).replaced =
              [] := rfl
          rw [hlookup] at hask
          rw [Run.replaced_bind_of_ok hask, Run.replaced_ask, Run.replaced_bind_of_ok hnote, hnothing,
            Run.replaced_bind_of_ok hadded, List.nil_append, List.nil_append, ← List.append_assoc,
            addFields_replaced, ih, List.append_assoc]
          simp only [reached, hlookup]

theorem collect_replaced (lookup : Lookup) (sources : List Source) :
    (collect lookup .lastWins sources).replaced = replacements (reached lookup sources) :=
  addSources_replaced lookup [] sources

/-! ### Names have to be distinct -/

theorem addFields_strict_replaced (source : Source) (columns : Columns)
    (fields : List (String × StorageType)) :
    (addFields .strict source columns fields).replaced = [] := by
  induction fields generalizing columns with
  | nil => rfl
  | cons f fields ih =>
      rw [addFields]
      apply Run.replaced_bind_eq_nil
      · unfold add
        cases columns.get? (source.attributeName f.1) <;> rfl
      · exact ih

theorem addSources_strict_replaced (lookup : Lookup) (columns : Columns) (sources : List Source) :
    (addSources lookup .strict columns sources).replaced = [] := by
  induction sources generalizing columns with
  | nil => rfl
  | cons source rest ih =>
      rw [addSources]
      apply Run.replaced_bind_eq_nil (Run.replaced_ask _ _ _)
      intro fields
      apply Run.replaced_bind_eq_nil rfl
      intro _
      exact Run.replaced_bind_eq_nil (addFields_strict_replaced source columns _) ih

/-! ### Both -/

/-- If a later column may replace an earlier one, the replacements that the collection tells are those
among the reached columns, wherever it ends; and if it succeeds, they and the entries of its table are
together as many as the fields of all sources. If names have to be distinct, it tells no replacement. -/
theorem replacements_told (lookup : Lookup) (sources : List Source) :
    (collect lookup .lastWins sources).events.filter Event.isReplaced =
        replacements (reached lookup sources) ∧
      (∀ columns, (collect lookup .lastWins sources).outcome = .ok columns →
        ((collect lookup .lastWins sources).events.filter Event.isReplaced).length + columns.size =
          (sources.flatMap fun source => source.fields lookup).length) ∧
      ∀ event ∈ (collect lookup .strict sources).events, event.isReplaced = false := by
  refine ⟨collect_replaced lookup sources, ?_, ?_⟩
  · intro columns h
    obtain ⟨hmerged, rfl⟩ := collect_eq_ok_iff.mp h
    calc (collect lookup .lastWins sources).replaced.length + (table lookup sources).size
        = (reached lookup sources).length := by
          rw [collect_replaced]
          exact length_replacements_add_size _
      _ = (sources.flatMap fun source => source.fields lookup).length := by
          rw [reached_eq_flatMap hmerged.found]
          simp only [List.length_flatMap, Source.columns, List.length_map]
  · intro event hevent
    have hnone : (collect lookup .strict sources).replaced = [] :=
      addSources_strict_replaced lookup {} sources
    rw [Run.replaced, List.filter_eq_nil_iff] at hnone
    exact Bool.eq_false_iff.mpr (hnone event hevent)

/-- Fields whose names fall together within one entity, across entities and with a repeated source. -/
def stacked : Lookup := fun entity =>
  if entity = "a" then .ok ⟨[("x", .text), ("X", .boolean), ("y", .date)]⟩
  else if entity = "b" then .ok ⟨[("x", .integer)]⟩
  else .error "absent"

def stackedSources : List Source := [⟨"a", "p"⟩, ⟨"b", "P"⟩, ⟨"a", "p"⟩]

theorem replacements_told_stacked :
    (collect stacked .lastWins (stackedSources ++ missing :: stackedSources)).events.filter
        Event.isReplaced =
      [.replaced "P.X" "a" "a", .replaced "P.X" "a" "b", .replaced "P.X" "b" "a",
        .replaced "P.X" "a" "a", .replaced "P.Y" "a" "a"] ∧
      (∃ columns, (collect stacked .lastWins stackedSources).outcome = .ok columns ∧
        ((collect stacked .lastWins stackedSources).events.filter Event.isReplaced).length +
          columns.size = 7) ∧
      ∀ event ∈ (collect stacked .strict stackedSources).events, event.isReplaced = false := by
  have hfound : ∀ source ∈ stackedSources, ∃ fields, stacked source.entity = .ok fields := by
    simp [stackedSources, stacked]
  have hok := collect_lastWins_of_found hfound
  obtain ⟨_, hsizes, hstrict⟩ := replacements_told stacked stackedSources
  refine ⟨?_, ⟨_, hok, hsizes _ hok⟩, hstrict⟩
  rw [(replacements_told stacked (stackedSources ++ missing :: stackedSources)).1]
  decide

end Columns
end FilterLexicon
