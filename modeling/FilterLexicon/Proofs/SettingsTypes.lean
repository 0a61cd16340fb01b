import FilterLexicon.Proofs.Index
import FilterLexicon.Settings

/-! The operators that settings give to types. A type without operators of its own takes those of a
custom type on the same channel, and of several the one whose name comes first in the order of bytes,
because the resolvers are registered in that order and the first answer counts. -/

namespace FilterLexicon.Settings

variable (settings : Settings)

/-- A type has operators if it is builtin or shares its channel with a custom type. -/
def Provided (type : StorageType) : Prop :=
  type.isCustom = false ∨
    ∃ key ∈ settings.customTypes.keys, Channel.ofType key = Channel.ofType type.name

/-- The operators that a type has: its own, or those of the custom type on its channel whose name
comes first in the order of bytes. -/
inductive Gives (type : StorageType) (operators : Operators) : Prop where
  | builtin (hown : type.operators? = some operators)
  | custom {key : String} (hcustom : type.isCustom = true)
      (hmem : (key, operators) ∈ settings.customTypes.toList)
      (hchannel : Channel.ofType key = Channel.ofType type.name)
      (hleast : ∀ other ∈ settings.customTypes.keys,
        Channel.ofType other = Channel.ofType type.name → other = key ∨ Text.before key other)

variable {settings}

/-- Of fixed resolvers, the first on the channel of a query answers. -/
theorem firstAnswer_fixed (query : TypeQuery) (entries : List (String × Operators)) :
    (Handlers.firstAnswer query ((entries.map fun e =>
      Resolver.fixed (some (Channel.ofType e.1)) e.2).filter (·.listens query.channel))).outcome =
      .ok ((entries.find? fun e => Channel.ofType e.1 = query.channel).map Prod.snd) := by
  induction entries with
  | nil => rfl
  | cons e entries ih =>
      have hlistens : (Resolver.fixed (some (Channel.ofType e.1)) e.2).listens query.channel =
          decide (Channel.ofType e.1 = query.channel) := rfl
      rw [List.map_cons, List.filter_cons, List.find?_cons, hlistens]
      by_cases h : Channel.ofType e.1 = query.channel
      · simp only [decide_eq_true h]
        rfl
      · simp only [decide_eq_false h]
        exact ih

/-- The custom type that answers for a type: the first on its channel. -/
def custom? (settings : Settings) (type : StorageType) : Option (String × Operators) :=
  settings.customTypes.toList.find? fun e => Channel.ofType e.1 = Channel.ofType type.name

theorem custom?_eq_some_iff (h : settings.customTypes.Sorted) {type : StorageType} {key : String}
    {operators : Operators} :
    settings.custom? type = some (key, operators) ↔
      (key, operators) ∈ settings.customTypes.toList ∧
        Channel.ofType key = Channel.ofType type.name ∧
        ∀ other ∈ settings.customTypes.keys,
          Channel.ofType other = Channel.ofType type.name → other = key ∨ Text.before key other := by
  have hleast := Index.find?_eq_some_iff h
    (fun key => Channel.ofType key = Channel.ofType type.name) key operators
  simp only [decide_eq_true_eq] at hleast
  exact hleast

theorem custom?_eq_none_iff {type : StorageType} :
    settings.custom? type = none ↔
      ¬∃ key ∈ settings.customTypes.keys, Channel.ofType key = Channel.ofType type.name := by
  rw [custom?, List.find?_eq_none]
  simp [Index.keys]

/-- The operators of a type as they are looked for: its own, then those of a custom type. -/
def operators? (settings : Settings) (type : StorageType) : Option Operators :=
  type.operators?.or ((settings.custom? type).map Prod.snd)

theorem operators?_eq_some_iff (h : settings.customTypes.Sorted) {type : StorageType}
    {operators : Operators} :
    settings.operators? type = some operators ↔ settings.Gives type operators := by
  rw [operators?, Option.or_eq_some_iff, Option.map_eq_some_iff]
  constructor
  · rintro (hown | ⟨hnone, ⟨key, _⟩, hcustom, rfl⟩)
    · exact .builtin hown
    · obtain ⟨hmem, hchannel, hleast⟩ := (custom?_eq_some_iff h).mp hcustom
      exact .custom (StorageType.isCustom_iff.mpr hnone) hmem hchannel hleast
  · intro hgives
    cases hgives with
    | builtin hown => exact Or.inl hown
    | custom hcustom hmem hchannel hleast =>
        have hfound := (custom?_eq_some_iff h).mpr ⟨hmem, hchannel, hleast⟩
        exact Or.inr ⟨StorageType.isCustom_iff.mp hcustom, _, hfound, rfl⟩

theorem operators?_eq_none_iff {type : StorageType} :
    settings.operators? type = none ↔ ¬settings.Provided type := by
  rw [operators?, Option.or_eq_none_iff, Option.map_eq_none_iff, custom?_eq_none_iff,
    ← StorageType.isCustom_iff, Provided, not_or, Bool.not_eq_false]

theorem provided_iff (h : settings.customTypes.Sorted) {type : StorageType} :
    settings.Provided type ↔ ∃ operators, settings.Gives type operators := by
  simp only [← operators?_eq_some_iff h]
  cases hfound : settings.operators? type with
  | none => exact iff_of_false (operators?_eq_none_iff.mp hfound) nofun
  | some operators =>
      refine iff_of_true ?_ ⟨operators, rfl⟩
      by_cases hprovided : settings.Provided type
      · exact hprovided
      · rw [operators?_eq_none_iff.mpr hprovided] at hfound
        cases hfound

theorem operatorsOf_outcome (settings : Settings) (name : String) (column : Column) :
    (settings.handlers.operatorsOf name column).outcome =
      match settings.operators? column.type with
      | some operators => .ok operators
      | none => .error (.unresolvedType column.type.name) := by
  unfold Handlers.operatorsOf operators?
  cases column.type.operators? with
  | some operators => rfl
  | none =>
      have hresolve : (settings.handlers.resolve { subject := name, column }).outcome =
          .ok ((settings.custom? column.type).map Prod.snd) :=
        firstAnswer_fixed { subject := name, column } settings.customTypes.toList
      show (settings.handlers.resolve _ >>= _).outcome = _
      rw [Run.bind_of_ok hresolve]
      cases settings.custom? column.type <;> rfl

theorem operatorsOf_eq_ok_iff (h : settings.customTypes.Sorted) {name : String} {column : Column}
    {operators : Operators} :
    (settings.handlers.operatorsOf name column).outcome = .ok operators ↔
      settings.Gives column.type operators := by
  rw [operatorsOf_outcome, ← operators?_eq_some_iff h]
  cases settings.operators? column.type <;> simp

theorem operatorsOf_eq_error_iff {name : String} {column : Column} {f : Failure} :
    (settings.handlers.operatorsOf name column).outcome = .error f ↔
      ¬settings.Provided column.type ∧ f = .unresolvedType column.type.name := by
  rw [operatorsOf_outcome, ← operators?_eq_none_iff]
  cases settings.operators? column.type <;> simp [eq_comm]

end FilterLexicon.Settings
