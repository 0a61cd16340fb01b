import FilterLexicon.Proofs.ColumnTable
import FilterLexicon.Proofs.LetterCase

/-! Qualifiers without a full stop. The first full stop of an attribute name then ends the qualifier,
however many the field has, so that the name can be cut into its qualifier and its field again, both
in upper case. If neither two qualifiers nor two fields of one source are the same but for letter
case, no two columns share a name, and each name leads back to the source and field it was made of. -/

namespace FilterLexicon

open Text (upperAscii SameLetters)

namespace Text

/-- A text cut at its first full stop: what stands before it and what stands behind it. -/
def cut (s : String) : String × String :=
  (String.ofList (s.toList.takeWhile (· ≠ '.')),
    String.ofList ((s.toList.dropWhile (· ≠ '.')).drop 1))

theorem cut_append {before : String} (h : '.' ∉ before.toList) (behind : String) :
    cut (before ++ "." ++ behind) = (before, behind) := by
  have hbefore : ∀ c ∈ before.toList, decide (c ≠ '.') = true := fun c hc =>
    decide_eq_true (ne_of_mem_of_not_mem hc h)
  have hjoined : (before ++ "." ++ behind).toList = before.toList ++ '.' :: behind.toList := by
    rw [String.toList_append, String.toList_append, List.append_assoc]
    rfl
  rw [cut, hjoined, List.takeWhile_append_of_pos hbefore, List.dropWhile_append_of_pos hbefore]
  simp

/-- It makes no difference whether a text is cut before or after it is brought to upper case. -/
theorem cut_upperAscii (s : String) :
    cut (upperAscii s) = (upperAscii (cut s).1, upperAscii (cut s).2) := by
  have hstop : (fun c => decide (c ≠ '.')) ∘ Char.toUpper = fun c : Char => decide (c ≠ '.') :=
    funext fun _ => decide_eq_decide.mpr (not_congr (toUpper_eq_iff_eq rfl))
  rw [cut, cut, toList_upperAscii, List.takeWhile_map, List.dropWhile_map, hstop, ← List.map_drop]
  simp only [upperAscii, String.toList_ofList]

/-- The upper case of a text has the letters of the text. -/
theorem sameLetters_upperAscii {s t : String} : SameLetters (upperAscii s) t ↔ SameLetters t s := by
  rw [← upperAscii_eq_iff, ← upperAscii_eq_iff, upperAscii_upperAscii, eq_comm]

/-- Of items whose names differ in more than letter case, a name is that of one only. -/
theorem sameLetters_iff_eq {α : Type} {name : α → String} {items : List α}
    (h : items.Pairwise fun a b => ¬SameLetters (name a) (name b)) {a b : α} (ha : a ∈ items)
    (hb : b ∈ items) : SameLetters (name a) (name b) ↔ a = b := by
  have hnodup : (items.map fun item => upperAscii (name item)).Nodup := by
    rw [List.Nodup, List.pairwise_map]
    exact h.imp fun hdiffer hsame => hdiffer (upperAscii_eq_iff.mp hsame)
  calc SameLetters (name a) (name b)
      ↔ upperAscii (name a) = upperAscii (name b) := upperAscii_eq_iff.symm
    _ ↔ a = b := ⟨List.inj_on_of_nodup_map hnodup ha hb, congrArg fun item => upperAscii (name item)⟩

end Text

theorem Source.cut_attributeName {source : Source} (h : '.' ∉ source.qualifier.toList)
    (field : String) :
    Text.cut (source.attributeName field) = (upperAscii source.qualifier, upperAscii field) := by
  rw [attributeName, Text.cut_upperAscii, Text.cut_append h]

theorem Source.exists_of_mem_columns {source : Source} {fields : List (String × StorageType)}
    {name : String} (h : name ∈ (source.columns fields).map Prod.fst) :
    ∃ field, name = source.attributeName field := by
  simp only [columns, List.map_map, List.mem_map, Function.comp_apply] at h
  obtain ⟨f, _, hname⟩ := h
  exact ⟨f.1, hname.symm⟩

namespace Columns

/-- Sources whose names cannot be confused: no qualifier has a full stop, and neither two qualifiers
nor two fields of one source are the same but for letter case. -/
structure Apart (lookup : Lookup) (sources : List Source) : Prop where
  stopless : ∀ source ∈ sources, '.' ∉ source.qualifier.toList
  qualifiers : sources.Pairwise fun a b => ¬SameLetters a.qualifier b.qualifier
  fields : ∀ source ∈ sources, ∀ fields, lookup source.entity = .ok fields →
    fields.toList.Pairwise fun f g => ¬SameLetters f.1 g.1

/-- A name leads back to a source and one of its fields: what stands before its first full stop is the
qualifier of this source and of no other, and what stands behind is this field and no other. -/
structure LeadsBack (lookup : Lookup) (sources : List Source) (name : String) (source : Source)
    (field : String × StorageType) : Prop where
  qualifier : ∀ s ∈ sources, SameLetters (Text.cut name).1 s.qualifier ↔ s = source
  field : ∀ f ∈ source.fields lookup, SameLetters (Text.cut name).2 f.1 ↔ f = field

variable {lookup : Lookup} {sources : List Source}

theorem Apart.tail {source : Source} (h : Apart lookup (source :: sources)) :
    Apart lookup sources where
  stopless s hs := h.stopless s (List.mem_cons_of_mem _ hs)
  qualifiers := h.qualifiers.of_cons
  fields s hs := h.fields s (List.mem_cons_of_mem _ hs)

theorem Apart.fields_pairwise (h : Apart lookup sources) {source : Source}
    (hsource : source ∈ sources) :
    (source.fields lookup).Pairwise fun f g => ¬SameLetters f.1 g.1 := by
  unfold Source.fields
  cases hlookup : lookup source.entity with
  | ok fields => exact h.fields source hsource fields hlookup
  | error reason => exact List.Pairwise.nil

/-! ### No two columns share a name -/

theorem exists_source_of_mem_reached {name : String}
    (h : name ∈ (reached lookup sources).map Prod.fst) :
    ∃ source ∈ sources, ∃ field, name = source.attributeName field := by
  induction sources with
  | nil => cases h
  | cons source rest ih =>
      rw [reached] at h
      cases hlookup : lookup source.entity with
      | error reason =>
          rw [hlookup] at h
          cases h
      | ok fields =>
          rw [hlookup, List.map_append, List.mem_append] at h
          rcases h with hown | hrest
          · exact ⟨source, List.mem_cons_self, Source.exists_of_mem_columns hown⟩
          · obtain ⟨s, hs, field, hname⟩ := ih hrest
            exact ⟨s, List.mem_cons_of_mem _ hs, field, hname⟩

theorem nodup_columns {source : Source} (hstop : '.' ∉ source.qualifier.toList)
    {fields : List (String × StorageType)}
    (h : fields.Pairwise fun f g => ¬SameLetters f.1 g.1) :
    ((source.columns fields).map Prod.fst).Nodup := by
  rw [Source.columns, List.map_map, List.Nodup, List.pairwise_map]
  refine h.imp fun {f g} hdiffer hname => hdiffer (Text.upperAscii_eq_iff.mp ?_)
  have hcut := congrArg (fun name => (Text.cut name).2) hname
  simpa only [Function.comp_apply, Source.cut_attributeName hstop] using hcut

theorem Apart.nodup_reached (h : Apart lookup sources) :
    ((reached lookup sources).map Prod.fst).Nodup := by
  induction sources with
  | nil => exact List.nodup_nil
  | cons source rest ih =>
      rw [reached]
      cases hlookup : lookup source.entity with
      | error reason => exact List.nodup_nil
      | ok fields =>
          have hstop := h.stopless source List.mem_cons_self
          simp only [List.map_append, List.nodup_append]
          refine ⟨nodup_columns hstop (h.fields source List.mem_cons_self fields hlookup),
            ih h.tail, ?_⟩
          -- A name of both parts would have the qualifiers of two sources before its first full stop.
          rintro name hown _ hrest rfl
          obtain ⟨field, hname⟩ := Source.exists_of_mem_columns hown
          obtain ⟨s, hs, other, hother⟩ := exists_source_of_mem_reached hrest
          have hcut := congrArg (fun name => (Text.cut name).1) (hname.symm.trans hother)
          rw [Source.cut_attributeName hstop,
            Source.cut_attributeName (h.stopless s (List.mem_cons_of_mem _ hs))] at hcut
          exact (List.pairwise_cons.mp h.qualifiers).1 s hs (Text.upperAscii_eq_iff.mp hcut)

/-! ### The table -/

theorem Apart.leadsBack (h : Apart lookup sources) {source : Source} (hsource : source ∈ sources)
    {field : String × StorageType} (hfield : field ∈ source.fields lookup) :
    LeadsBack lookup sources (source.attributeName field.1) source field := by
  have hcut := Source.cut_attributeName (h.stopless source hsource) field.1
  constructor
  · intro s hs
    rw [hcut, Text.sameLetters_upperAscii]
    exact Text.sameLetters_iff_eq h.qualifiers hs hsource
  · intro f hf
    rw [hcut, Text.sameLetters_upperAscii]
    exact Text.sameLetters_iff_eq (h.fields_pairwise hsource) hf hfield

theorem toList_table (hnames : ((reached lookup sources).map Prod.fst).Nodup)
    (hfound : ∀ source ∈ sources, ∃ fields, lookup source.entity = .ok fields) :
    (table lookup sources).toList =
      sources.flatMap fun source => source.columns (source.fields lookup) := by
  rw [table, Entries.toList_ofList_of_nodup _ hnames, reached_eq_flatMap hfound]

/-- If the names of sources cannot be confused, no two columns collide. The collection then has the
same result whether or not columns may be replaced: one entry for each field of each source, in their
order, and from the name of an entry its source and its field are known again. -/
theorem collect_apart (lookup : Lookup) (sources : List Source) (h : Apart lookup sources) :
    (∀ name first second,
      (collect lookup .strict sources).outcome ≠ .error (.collision name first second)) ∧
    ((∀ source ∈ sources, ∃ fields, lookup source.entity = .ok fields) →
      ∃ columns : Columns,
        (∀ collisions, (collect lookup collisions sources).outcome = .ok columns) ∧
        columns.toList = (sources.flatMap fun source => source.columns (source.fields lookup)) ∧
        columns.keys.Nodup ∧
        ∀ source ∈ sources, ∀ field ∈ source.fields lookup,
          LeadsBack lookup sources (source.attributeName field.1) source field) := by
  have hnames := h.nodup_reached
  constructor
  · intro name first second hcollision
    rw [collect_of_nodup hnames, collect_lastWins_eq_error_iff] at hcollision
    cases hcollision
  · intro hfound
    refine ⟨table lookup sources, ?_, toList_table hnames hfound, Entries.nodup_keys_ofList _, ?_⟩
    · intro collisions
      exact collect_eq_ok_iff.mpr ⟨⟨hfound, fun _ => hnames⟩, rfl⟩
    · intro source hsource field hfield
      exact h.leadsBack hsource hfield

/-- Fields with full stops, one that begins with one, and fields that only differ beyond ASCII. -/
def stops : Lookup := fun entity =>
  if entity = "order" then .ok ⟨[("x.id", .integer), ("id", .text), (".ß", .date), (".ẞ", .date)]⟩
  else if entity = "item" then .ok ⟨[("id", .boolean), ("X.ID", .text)]⟩
  else .error "absent"

def stopSources : List Source := [⟨"order", "o"⟩, ⟨"item", ""⟩, ⟨"item", "É"⟩, ⟨"order", "é"⟩]

theorem collect_apart_stops :
    Apart stops (stopSources ++ [missing]) ∧
      (∀ name first second, (collect stops .strict (stopSources ++ [missing])).outcome ≠
        .error (.collision name first second)) ∧
      Apart stops stopSources ∧
      ∃ columns : Columns,
        (∀ collisions, (collect stops collisions stopSources).outcome = .ok columns) ∧
        columns.keys = ["O.X.ID", "O.ID", "O..ß", "O..ẞ", ".ID", ".X.ID", "É.ID", "É.X.ID", "é.X.ID",
          "é.ID", "é..ß", "é..ẞ"] ∧
        LeadsBack stops stopSources "é..ß" ⟨"order", "é"⟩ (".ß", .date) := by
  have hfields (entity : String) (fields : Fields) (h : stops entity = .ok fields) :
      fields.toList.Pairwise fun f g => ¬SameLetters f.1 g.1 := by
    unfold stops at h
    split at h
    · cases h
      decide
    · split at h
      · cases h
        decide
      · cases h
  have hmore : Apart stops (stopSources ++ [missing]) :=
    ⟨by decide, by decide, fun source _ => hfields source.entity⟩
  have hapart : Apart stops stopSources :=
    ⟨by decide, by decide, fun source _ => hfields source.entity⟩
  have hfound : ∀ source ∈ stopSources, ∃ fields, stops source.entity = .ok fields := by
    simp [stopSources, stops]
  obtain ⟨columns, hcollected, htable, _, hback⟩ :=
    (collect_apart stops stopSources hapart).2 hfound
  refine ⟨hmore, (collect_apart stops _ hmore).1, hapart, columns, hcollected, ?_, ?_⟩
  · rw [Entries.keys, htable]
    decide
  · exact hback ⟨"order", "é"⟩ (by decide) (".ß", .date) (by decide)

end Columns
end FilterLexicon
