import FilterLexicon.Catalog
import FilterLexicon.Proofs.LetterCase
import FilterLexicon.Proofs.Stages
import FilterLexicon.Script

/-! The spelling of attribute names. Columns, requests and the names that are asked for are all brought
to upper case, so a lexicon answers for every spelling of a requested name alike, and an assembly
cannot tell the spellings of its requests apart. -/

namespace FilterLexicon

open Text (upperAscii SameLetters)

namespace Lexicon

variable (l : Lexicon)

theorem operatorsFor_congr {name other : String} (h : SameLetters name other) :
    l.operatorsFor name = l.operatorsFor other :=
  congrArg l.attributes.get? (Text.upperAscii_eq_iff.mpr h)

theorem operatorsFor_isSome_iff {requests : List String}
    (h : l.attributes.keys = (requests.map upperAscii).eraseDups) (name : String) :
    (l.operatorsFor name).isSome ↔ ∃ request ∈ requests, SameLetters name request := by
  calc (l.operatorsFor name).isSome
      ↔ upperAscii name ∈ (requests.map upperAscii).eraseDups := by
        rw [operatorsFor, Entries.get?_isSome_iff, h]
    _ ↔ ∃ request ∈ requests, upperAscii name = upperAscii request := by
        simp only [List.mem_eraseDups, List.mem_map, eq_comm]
    _ ↔ ∃ request ∈ requests, SameLetters name request := by simp only [Text.upperAscii_eq_iff]

end Lexicon

namespace Plan

variable {plan : Plan} {lookup : Lookup} {handlers : Handlers} {g : Lexicon}

theorem keys_of_assemble (h : handlers.filters = [])
    (hg : (plan.assemble lookup handlers).outcome = .ok g) :
    g.attributes.keys = (plan.requests.map upperAscii).eraseDups := by
  obtain ⟨columns, attributes, _, hattributes, rfl⟩ := (assemble_unfiltered_eq_ok_iff h).mp hg
  exact Handlers.keys_of_addRequests hattributes

/-- The names of the attributes are in upper case. -/
theorem upperAscii_of_mem_keys (h : handlers.filters = [])
    (hg : (plan.assemble lookup handlers).outcome = .ok g) {name : String}
    (hname : name ∈ g.attributes.keys) : upperAscii name = name := by
  rw [keys_of_assemble h hg, List.mem_eraseDups] at hname
  obtain ⟨request, _, rfl⟩ := List.mem_map.mp hname
  exact Text.upperAscii_upperAscii request

theorem operatorsFor_of_mem (h : handlers.filters = [])
    (hg : (plan.assemble lookup handlers).outcome = .ok g) {e : String × Operators}
    (he : e ∈ g.attributes.toList) : g.operatorsFor e.1 = some e.2 := by
  have hnodup : g.attributes.keys.Nodup := by
    obtain ⟨columns, attributes, _, hattributes, rfl⟩ := (assemble_unfiltered_eq_ok_iff h).mp hg
    rw [(Handlers.addRequests_eq_ok_iff.mp hattributes).2]
    exact Entries.nodup_keys_ofList _
  rw [Lexicon.operatorsFor, upperAscii_of_mem_keys h hg (List.mem_map_of_mem he),
    Entries.get?_eq_some_iff_mem hnodup]
  exact he

/-- The spelling of the requests makes no difference to anything in an assembly. -/
theorem assemble_respelled {requests : List String}
    (h : List.Forall₂ SameLetters plan.requests requests) :
    { plan with requests }.assemble lookup handlers = plan.assemble lookup handlers := by
  have hupper : requests.map upperAscii = plan.requests.map upperAscii :=
    (Text.map_upperAscii_eq_iff.mpr h).symm
  rw [assemble_eq_bind, assemble_eq_bind]
  simp only [Handlers.addRequests_congr _ _ _ hupper]

/-- A lexicon that is assembled without filters answers for the requested names, in any spelling of
their letters a to z: with the operators of the column that is collected under the name in upper
case. The spelling of the requests changes neither the outcome of an assembly nor its calls. -/
theorem names_in_any_case (plan : Plan) (lookup : Lookup) (handlers : Handlers) :
    (handlers.filters = [] → ∀ g, (plan.assemble lookup handlers).outcome = .ok g →
      (∀ name, (g.operatorsFor name).isSome ↔
        ∃ request ∈ plan.requests, SameLetters name request) ∧
      (∀ name other, SameLetters name other → g.operatorsFor name = g.operatorsFor other) ∧
      (∀ e ∈ g.attributes.toList, g.operatorsFor e.1 = some e.2) ∧
      ∀ name operators, g.operatorsFor name = some operators → ∃ columns column,
        (Columns.collect lookup plan.collisions plan.sources).outcome = .ok columns ∧
          columns.get? (upperAscii name) = some column ∧
            handlers.Provides (upperAscii name) column operators) ∧
    ∀ requests, List.Forall₂ SameLetters plan.requests requests →
      { plan with requests }.assemble lookup handlers = plan.assemble lookup handlers := by
  refine ⟨fun hfilters g hg => ⟨?_, ?_, ?_, ?_⟩, fun requests => assemble_respelled⟩
  · exact g.operatorsFor_isSome_iff (keys_of_assemble hfilters hg)
  · intro name other
    exact g.operatorsFor_congr
  · intro e
    exact operatorsFor_of_mem hfilters hg
  · intro name operators hoperators
    obtain ⟨columns, hcolumns, hprovides⟩ := provides_of_assemble hfilters hg
    obtain ⟨column, hcolumn, hprovides⟩ :=
      hprovides _ (Entries.mem_of_lookup_eq_some hoperators)
    exact ⟨columns, column, hcolumns, hcolumn, hprovides⟩

/-- Names with letters beyond ASCII, which have no other case. -/
def streets : Lookup :=
  (Catalog.ofTable [("city", [("straße", "text"), ("größe", "area")])]).lookup

def streetPlan (requests : List String) : Plan := { sources := [⟨"city", "Ort"⟩], requests }

def streetHandlers : Handlers := { resolvers := [.scripted "r" none (.operators ["=", ">"])] }

def streetLexicon : Lexicon :=
  { Lexicon.structural with
    attributes := ⟨[("ORT.GRößE", ["=", ">"]), ("ORT.STRAßE", Token.textual)]⟩ }

theorem names_in_any_case_streets :
    ((streetPlan ["ort.größe", "ort.straße", "Ort.GRößE"]).assemble streets streetHandlers).outcome =
        .ok streetLexicon ∧
      streetLexicon.operatorsFor "oRt.größE" = some ["=", ">"] ∧
      ¬(streetLexicon.operatorsFor "ORT.GRÖßE").isSome ∧
      (∃ columns column, (Columns.collect streets .lastWins [⟨"city", "Ort"⟩]).outcome = .ok columns ∧
        columns.get? "ORT.STRAßE" = some column ∧
          streetHandlers.Provides "ORT.STRAßE" column Token.textual) ∧
      (streetPlan ["ORT.GRößE", "Ort.Straße", "ort.größe"]).assemble streets streetHandlers =
        (streetPlan ["ort.größe", "ort.straße", "Ort.GRößE"]).assemble streets streetHandlers := by
  have hg : ((streetPlan ["ort.größe", "ort.straße", "Ort.GRößE"]).assemble streets
      streetHandlers).outcome = .ok streetLexicon := eq_ok_of_toOption (by decide +kernel)
  obtain ⟨hanswers, hrespelled⟩ :=
    names_in_any_case (streetPlan ["ort.größe", "ort.straße", "Ort.GRößE"]) streets streetHandlers
  obtain ⟨hrequested, hsame, hown, hprovided⟩ := hanswers rfl streetLexicon hg
  refine ⟨hg, ?_, ?_, ?_, ?_⟩
  · rw [hsame "oRt.größE" "ORT.GRößE" (by decide)]
    exact hown ("ORT.GRößE", ["=", ">"]) List.mem_cons_self
  · rw [hrequested]
    decide
  · exact hprovided "Ort.Straße" Token.textual (by decide +kernel)
  · exact hrespelled _ (List.Forall₂.cons (by decide) (.cons (by decide) (.cons (by decide) .nil)))

end Plan
end FilterLexicon
