import Mathlib.Data.List.Basic
import FilterLexicon.CommandLine
import FilterLexicon.LogFilter

/-! What directives let through. One with a longer beginning of a target takes precedence over one with
a shorter, and a later over an earlier one with the same; and a limit alone is one for all events, as
the level of a run is. -/

namespace FilterLexicon.Directive

theorem longest?_eq_none_iff {directives : List Directive} :
    longest? directives = none ↔ directives = [] := by
  cases directives with
  | nil => exact iff_of_true rfl rfl
  | cons d rest =>
      refine iff_of_false ?_ (List.cons_ne_nil d rest)
      rw [longest?]
      split
      · exact nofun
      · split <;> exact nofun

theorem longest?_spec {directives : List Directive} {d : Directive}
    (h : longest? directives = some d) :
    ∃ earlier later, directives = earlier ++ d :: later ∧
      (∀ e ∈ earlier, e.target.length ≤ d.target.length) ∧
      ∀ e ∈ later, e.target.length < d.target.length := by
  induction directives generalizing d with
  | nil => cases h
  | cons first rest ih =>
      rw [longest?] at h
      cases hrest : longest? rest with
      | none =>
          simp only [hrest] at h
          cases h
          rw [longest?_eq_none_iff.mp hrest]
          exact ⟨[], [], rfl, nofun, nofun⟩
      | some best =>
          simp only [hrest] at h
          obtain ⟨earlier, later, hsplit, hearlier, hlater⟩ := ih hrest
          split at h
          · rename_i hlonger
            cases h
            refine ⟨[], rest, rfl, nofun, ?_⟩
            intro e he
            rw [hsplit, List.mem_append, List.mem_cons] at he
            rcases he with he | rfl | he
            · exact Nat.lt_of_le_of_lt (hearlier e he) hlonger
            · exact hlonger
            · exact Nat.lt_trans (hlater e he) hlonger
          · rename_i hlonger
            cases h
            refine ⟨first :: earlier, later, congrArg (first :: ·) hsplit, ?_, hlater⟩
            exact List.forall_mem_cons.mpr ⟨Nat.le_of_not_lt hlonger, hearlier⟩

/-- Where no directive has a beginning of the target, none decides about it. -/
theorem decisive?_eq_none_iff {directives : List Directive} {target : String} :
    decisive? directives target = none ↔
      ∀ d ∈ directives, ¬d.target.toList <+: target.toList := by
  rw [decisive?, longest?_eq_none_iff, List.filter_eq_nil_iff]
  simp only [List.isPrefixOf_iff_prefix]

/-- The directive that decides has the longest beginning of the target, and is the last of those. -/
theorem decisive?_spec {directives : List Directive} {target : String} {d : Directive}
    (h : decisive? directives target = some d) :
    ∃ earlier later, directives = earlier ++ d :: later ∧ d.target.toList <+: target.toList ∧
      (∀ e ∈ earlier, e.target.toList <+: target.toList → e.target.length ≤ d.target.length) ∧
      ∀ e ∈ later, e.target.toList <+: target.toList → e.target.length < d.target.length := by
  obtain ⟨longer, shorter, hsplit, hlonger, hshorter⟩ := longest?_spec h
  obtain ⟨before, rest, rfl, rfl, hrest⟩ := List.filter_eq_append_iff.mp hsplit
  obtain ⟨between, later, rfl, hbetween, hd, rfl⟩ := List.filter_eq_cons_iff.mp hrest
  simp only [List.mem_filter, List.isPrefixOf_iff_prefix, and_imp] at hlonger hshorter hbetween hd
  refine ⟨before ++ between, later, (List.append_assoc ..).symm, hd, ?_, hshorter⟩
  intro e he hbegins
  rcases List.mem_append.mp he with he | he
  · exact hlonger e he hbegins
  · exact absurd hbegins (hbetween e he)

/-! ### Limits alone -/

theorem limit?_eq_some {word : String} {limit : Option Level} (h : limit? word = some limit) :
    Text.upperAscii word ∈ words limit := by
  have hword := List.find?_some h
  exact List.contains_iff_mem.mp hword

theorem comma_notMem_of_limit? {word : String} {limit : Option Level}
    (h : limit? word = some limit) : ',' ∉ word.toList := by
  have hwords : ∀ limit, ∀ word ∈ words limit, ',' ∉ word.toList := by
    rintro (- | ⟨_ | _ | _ | _ | _⟩) <;> decide +kernel
  intro hcomma
  apply hwords limit _ (limit?_eq_some h)
  rw [Text.toList_upperAscii]
  exact List.mem_map.mpr ⟨',', hcomma, rfl⟩

theorem parseAll_of_limit? {word : String} {limit : Option Level} (h : limit? word = some limit) :
    parseAll word = [{ limit }] := by
  have hparse : parse? word = some { limit } := by
    rw [parse?, h]
  rw [parseAll, List.splitOn_eq_singleton (comma_notMem_of_limit? h), List.filterMap_cons,
    String.ofList_toList, hparse]
  rfl

/-- A limit alone lets the events through that are within it. -/
theorem tell_of_limit? {word : String} {limit : Option Level} (h : limit? word = some limit)
    (e : Event) : tell (parseAll word) e = e.level.isWithin limit := by
  rw [parseAll_of_limit? h]
  rfl

/-- A run whose directives are a limit alone is one up to that limit. -/
theorem runInWith_of_limit? {word : String} {limit : Option Level} (h : limit? word = some limit)
    (args : List String) (tree : FileTree) :
    CommandLine.runInWith Pattern.accepts (tell (parseAll word)) args tree =
      CommandLine.runIn limit args tree := by
  rw [CommandLine.runIn, funext (tell_of_limit? h)]

end FilterLexicon.Directive
