import FilterLexicon.Proofs.Assembly

/-! The operators of attributes whose type is a custom one. A column's type is found under its channel,
which other custom types may share; of these the one whose name comes first in the order of bytes
counts, even if another one has exactly the name of the type. -/

namespace FilterLexicon

theorem StorageType.name_mem_builtins {type : StorageType} (h : type.isCustom = false) :
    type.name ∈ builtins.map Prod.fst := by
  cases type with
  | custom name => cases h
  | _ => decide

namespace Settings

variable {settings : Settings}

/-- A custom type gives its operators to the columns of exactly its name if no custom type on the same
channel comes before it in the order of bytes; if one does, the first of them does. -/
theorem operators_of_first_custom (h : settings.WellFormed) {g : Lexicon}
    (hg : settings.assemble.outcome = .ok g) {key : String} {operators : Operators}
    (hentry : (key, operators) ∈ settings.customTypes.toList)
    (hkey : key ∉ StorageType.builtins.map Prod.fst) {name : String}
    (hname : name ∈ g.attributes.keys) {column : Column} (hwins : settings.Wins name column)
    (htype : column.type.name = key) :
    (∃ first list, (first, list) ∈ settings.customTypes.toList ∧
      Channel.ofType first = Channel.ofType key ∧
      (∀ other ∈ settings.customTypes.keys, Channel.ofType other = Channel.ofType key →
        other = first ∨ Text.before first other) ∧
      g.attributes.get? name = some list) ∧
    ((∀ other ∈ settings.customTypes.keys, Channel.ofType other = Channel.ofType key →
        other = key ∨ Text.before key other) →
      g.attributes.get? name = some operators) := by
  subst htype
  have hcustom : column.type.isCustom = true := by
    rw [← Bool.not_eq_false]
    exact fun hbuiltin => hkey (StorageType.name_mem_builtins hbuiltin)
  have hgiven (list : Operators) :
      g.attributes.get? name = some list ↔ settings.Gives column.type list := by
    rw [get?_attributes hg hname hwins, operators?_eq_some_iff h.customTypes]
  constructor
  · obtain ⟨list, hlist⟩ :=
      Option.isSome_iff_exists.mp ((Entries.get?_isSome_iff g.attributes name).mpr hname)
    cases (hgiven list).mp hlist with
    | builtin hown =>
        rw [StorageType.isCustom_iff.mp hcustom] at hown
        cases hown
    | custom _ hmem hchannel hleast => exact ⟨_, list, hmem, hchannel, hleast, hlist⟩
  · intro hleast
    exact (hgiven operators).mpr (.custom hcustom hentry rfl hleast)

/-- Two spellings of a custom type, both of which are declared. -/
def spellings : Settings :=
  { sources := [⟨"a", "p"⟩]
    requests := ["p.x", "p.y"]
    customTypes := ⟨[("Money", ["1"]), ("money", ["2"])]⟩
    catalog := ⟨⟨[("a", ⟨[("x", .custom "Money"), ("y", .custom "money")]⟩)]⟩⟩ }

theorem wellFormed_spellings : spellings.WellFormed where
  customTypes := List.pairwise_pair.mpr (by decide +kernel)
  entities := List.pairwise_singleton _ _
  fields := by decide +kernel

/-- The later spelling takes the operators of the earlier one. -/
theorem assemble_spellings :
    spellings.assemble.outcome =
      .ok { Lexicon.structural with attributes := ⟨[("P.X", ["1"]), ("P.Y", ["1"])]⟩ } :=
  eq_ok_of_toOption (by decide +kernel)

theorem wins_spellings_x : spellings.Wins "P.X" ⟨"a", "p", "x", .custom "Money"⟩ :=
  table_get?_eq_some_iff.mp (by decide +kernel)

theorem wins_spellings_y : spellings.Wins "P.Y" ⟨"a", "p", "y", .custom "money"⟩ :=
  table_get?_eq_some_iff.mp (by decide +kernel)

theorem operators_of_first_custom_earlier :
    spellings.WellFormed ∧ ("Money", ["1"]) ∈ spellings.customTypes.toList ∧
      (∃ g, spellings.assemble.outcome = .ok g ∧ g.attributes.get? "P.X" = some ["1"]) := by
  have hleast : ∀ other ∈ spellings.customTypes.keys,
      Channel.ofType other = Channel.ofType "Money" →
        other = "Money" ∨ Text.before "Money" other := by decide +kernel
  refine ⟨wellFormed_spellings, List.mem_cons_self, _, assemble_spellings, ?_⟩
  exact (operators_of_first_custom wellFormed_spellings assemble_spellings List.mem_cons_self
    (by decide +kernel) (by decide +kernel) wins_spellings_x rfl).2 hleast

/-- It is not enough that a custom type has exactly the name of a column's type. -/
theorem exact_name_not_enough :
    ¬∀ (settings : Settings) (g : Lexicon) (key : String) (operators : Operators) (name : String)
      (column : Column), settings.WellFormed → settings.assemble.outcome = .ok g →
      (key, operators) ∈ settings.customTypes.toList →
      key ∉ StorageType.builtins.map Prod.fst → name ∈ g.attributes.keys →
      settings.Wins name column → column.type.name = key →
      g.attributes.get? name = some operators := by
  intro hall
  have hget := hall spellings _ "money" ["2"] "P.Y" _ wellFormed_spellings assemble_spellings
    (by decide +kernel) (by decide +kernel) (by decide +kernel) wins_spellings_y rfl
  revert hget
  decide +kernel

end Settings
end FilterLexicon
