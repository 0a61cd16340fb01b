import FilterLexicon.Lexicon.Json
import FilterLexicon.Proofs.JsonRecords
import FilterLexicon.Proofs.Entries

/-! The JSON form of a lexicon loses nothing: a lexicon whose tables have distinct keys is read back
from its compact and from its pretty form, with all entries in their order. A lexicon that was read
from JSON has such tables, so writing and reading it again changes nothing. -/

namespace FilterLexicon.Lexicon

open Json (Reader Value)
open Json.Format (ifSeen isSome_ifSeen ifSeen_of_ne)

/-- No table has a key twice. -/
structure Distinct (l : Lexicon) : Prop where
  nullary : l.nullary.keys.Nodup
  unary : l.unary.keys.Nodup
  binary : l.binary.keys.Nodup
  attributes : l.attributes.keys.Nodup

theorem distinct_structural {attributes : Entries Operators} (h : attributes.keys.Nodup) :
    ({ structural with attributes } : Lexicon).Distinct where
  nullary := show structural.nullary.keys.Nodup by decide +kernel
  unary := show structural.unary.keys.Nodup by decide +kernel
  binary := show structural.binary.keys.Nodup by decide +kernel
  attributes := h

theorem distinct_blank : ({} : Lexicon).Distinct :=
  ⟨List.nodup_nil, List.nodup_nil, List.nodup_nil, List.nodup_nil⟩

theorem reads_texts {d : Entries String} (h : d.keys.Nodup) :
    textsReader.Reads (textsJson d) d := by
  have hread : (Reader.object Reader.string).Reads (textsJson d) d.toList :=
    Reader.reads_object Value.string fun e _ => Reader.reads_string e.2
  have htable := hread.map Entries.ofList
  rwa [Entries.ofList_toList d h] at htable

theorem reads_operators {d : Entries Operators} (h : d.keys.Nodup) :
    operatorsReader.Reads (operatorsJson d) d := by
  have hread : (Reader.object listReader).Reads (operatorsJson d) d.toList :=
    Reader.reads_object Value.strings fun e _ => Reader.reads_strings e.2
  have htable := hread.map Entries.ofList
  rwa [Entries.ofList_toList d h] at htable

/-- What is known of a lexicon when these names have come. -/
def Draft.seen (l : Lexicon) (seen : List String) : Draft where
  nullary := ifSeen seen "nullaryOperators" l.nullary
  unary := ifSeen seen "unaryOperators" l.unary
  binary := ifSeen seen "binaryOperators" l.binary
  grouping := ifSeen seen "subOperators" l.grouping
  connectives := ifSeen seen "boolOperators" l.connectives
  values := ifSeen seen "values" l.values
  attributes := ifSeen seen "attributes" l.attributes

theorem presents {l : Lexicon} (h : l.Distinct) :
    format.Presents l.toJson.members (Draft.seen l) where
  blank := rfl
  field field hfield := by
    simp only [format, List.mem_cons, List.not_mem_nil, or_false] at hfield
    rcases hfield with rfl | rfl | rfl | rfl | rfl | rfl | rfl
    · exact .set (by simp [toJson, Value.members]) (reads_texts h.nullary)
        (fun seen => by simp [Draft.seen, ifSeen]) fun seen => isSome_ifSeen seen ..
    · exact .set (by simp [toJson, Value.members]) (reads_texts h.unary)
        (fun seen => by simp [Draft.seen, ifSeen]) fun seen => isSome_ifSeen seen ..
    · exact .set (by simp [toJson, Value.members]) (reads_operators h.binary)
        (fun seen => by simp [Draft.seen, ifSeen]) fun seen => isSome_ifSeen seen ..
    · exact .set (by simp [toJson, Value.members]) (Reader.reads_strings l.grouping)
        (fun seen => by simp [Draft.seen, ifSeen]) fun seen => isSome_ifSeen seen ..
    · exact .set (by simp [toJson, Value.members]) (Reader.reads_strings l.connectives)
        (fun seen => by simp [Draft.seen, ifSeen]) fun seen => isSome_ifSeen seen ..
    · exact .set (by simp [toJson, Value.members]) (Reader.reads_strings l.values)
        (fun seen => by simp [Draft.seen, ifSeen]) fun seen => isSome_ifSeen seen ..
    · exact .set (by simp [toJson, Value.members]) (reads_operators h.attributes)
        (fun seen => by simp [Draft.seen, ifSeen]) fun seen => isSome_ifSeen seen ..
  other k hk seen := by
    simp only [format, List.forall_mem_cons] at hk
    obtain ⟨hnullary, hunary, hbinary, hgrouping, hconnectives, hvalues, hattributes, -⟩ := hk
    simp only [Draft.seen, ifSeen_of_ne hnullary, ifSeen_of_ne hunary, ifSeen_of_ne hbinary,
      ifSeen_of_ne hgrouping, ifSeen_of_ne hconnectives, ifSeen_of_ne hvalues,
      ifSeen_of_ne hattributes]

/-- A lexicon is read back from all of its written forms. -/
theorem reads_toJson {l : Lexicon} (h : l.Distinct) : format.reader.Reads l.toJson l :=
  (presents h).reads_object (by simp [toJson, Value.members, Json.keys]) rfl

/-- The tables that a draft has so far have distinct keys. -/
structure Draft.Distinct (d : Draft) : Prop where
  nullary : ∀ t ∈ d.nullary, t.keys.Nodup
  unary : ∀ t ∈ d.unary, t.keys.Nodup
  binary : ∀ t ∈ d.binary, t.keys.Nodup
  attributes : ∀ t ∈ d.attributes, t.keys.Nodup

theorem yields_texts : textsReader.Yields fun d => d.keys.Nodup :=
  (Reader.yields_true _).map fun entries _ => Entries.nodup_keys_ofList entries

theorem yields_operators : operatorsReader.Yields fun d => d.keys.Nodup :=
  (Reader.yields_true _).map fun entries _ => Entries.nodup_keys_ofList entries

theorem keeps_distinct : format.Keeps Draft.Distinct := by
  have hlist := Reader.yields_true listReader
  intro field hfield
  simp only [format, List.mem_cons, List.not_mem_nil, or_false] at hfield
  rcases hfield with rfl | rfl | rfl | rfl | rfl | rfl | rfl
  · exact Json.Field.keeps_set yields_texts fun t ht d hd =>
      { hd with nullary := fun _ h => Option.mem_some.mp h ▸ ht }
  · exact Json.Field.keeps_set yields_texts fun t ht d hd =>
      { hd with unary := fun _ h => Option.mem_some.mp h ▸ ht }
  · exact Json.Field.keeps_set yields_operators fun t ht d hd =>
      { hd with binary := fun _ h => Option.mem_some.mp h ▸ ht }
  · exact Json.Field.keeps_set hlist fun _ _ d hd => { hd with }
  · exact Json.Field.keeps_set hlist fun _ _ d hd => { hd with }
  · exact Json.Field.keeps_set hlist fun _ _ d hd => { hd with }
  · exact Json.Field.keeps_set yields_operators fun t ht d hd =>
      { hd with attributes := fun _ h => Option.mem_some.mp h ▸ ht }

theorem eq_some_of_require {α : Type} {name : String} {x : Option α} {a : α}
    (h : require name x = .ok a) : x = some a := by
  cases x with
  | none => cases h
  | some x => cases h; rfl

/-- A finished draft has all parts. -/
theorem Draft.eq_of_finish {d : Draft} {l : Lexicon} (h : d.finish = .ok l) :
    d = { nullary := some l.nullary, unary := some l.unary, binary := some l.binary
          grouping := some l.grouping, connectives := some l.connectives, values := some l.values
          attributes := some l.attributes } := by
  obtain ⟨nullary, hnullary, h⟩ := Json.bind_ok h
  obtain ⟨unary, hunary, h⟩ := Json.bind_ok h
  obtain ⟨binary, hbinary, h⟩ := Json.bind_ok h
  obtain ⟨grouping, hgrouping, h⟩ := Json.bind_ok h
  obtain ⟨connectives, hconnectives, h⟩ := Json.bind_ok h
  obtain ⟨values, hvalues, h⟩ := Json.bind_ok h
  obtain ⟨attributes, hattributes, h⟩ := Json.bind_ok h
  cases h
  cases d
  simp only [Draft.mk.injEq]
  exact ⟨eq_some_of_require hnullary, eq_some_of_require hunary, eq_some_of_require hbinary,
    eq_some_of_require hgrouping, eq_some_of_require hconnectives, eq_some_of_require hvalues,
    eq_some_of_require hattributes⟩

theorem Draft.Distinct.finish {d : Draft} {l : Lexicon} (hd : d.Distinct)
    (h : d.finish = .ok l) : l.Distinct := by
  obtain rfl := Draft.eq_of_finish h
  exact ⟨hd.nullary _ rfl, hd.unary _ rfl, hd.binary _ rfl, hd.attributes _ rfl⟩

theorem distinct_of_ofJson {text : String} {l : Lexicon} (h : ofJson text = .ok l) :
    l.Distinct := by
  refine Reader.parse_yields (keeps_distinct.yields ?_ fun hd hfin => hd.finish hfin) h
  exact ⟨nofun, nofun, nofun, nofun⟩

theorem ofJson_write {write : Value → String} (hwrite : Json.IsWriter write) {l : Lexicon}
    (h : l.Distinct) : ofJson (write l.toJson) = .ok l :=
  Reader.parse_write hwrite (reads_toJson h)

/-- Reading undoes both ways of writing, entry by entry and in order. So writing what was read from
any text gives a text that is stable from then on, and different lexicons have different texts. -/
theorem toJson_lossless (write : Value → String) (hwrite : Json.IsWriter write) :
    (∀ l : Lexicon, l.Distinct → ofJson (write l.toJson) = .ok l) ∧
    (∀ (text : String) (l : Lexicon), ofJson text = .ok l →
      ∃ again, ofJson (write l.toJson) = .ok again ∧ write again.toJson = write l.toJson) ∧
    ∀ a b : Lexicon, a.Distinct → b.Distinct → write a.toJson = write b.toJson → a = b := by
  refine ⟨fun l h => ofJson_write hwrite h, ?_, ?_⟩
  · intro text l htext
    exact ⟨l, ofJson_write hwrite (distinct_of_ofJson htext), rfl⟩
  · intro a b ha hb heq
    have hread := ofJson_write hwrite ha
    rw [heq, ofJson_write hwrite hb] at hread
    exact (Except.ok.inj hread).symm

/-- A lexicon with every kind of escape and with empty parts. -/
def thorny : Lexicon :=
  { nullary := ⟨[("\x00", "\""), ("\\", "\n\t\r")]⟩
    binary := ⟨[("\x08", ["", "/\x1f\x0c/"]), ("", [])]⟩
    values := ["\x7f", "é😀"] }

theorem toJson_lossless_thorny :
    Json.IsWriter Value.toPretty ∧ thorny.Distinct ∧ ofJson thorny.toJson.toPretty = .ok thorny ∧
      (∃ again, ofJson thorny.toJson.toPretty = .ok again ∧
        again.toJson.toPretty = thorny.toJson.toPretty) ∧
      ∀ other, other.Distinct → other.toJson.toPretty = thorny.toJson.toPretty →
        other = thorny := by
  have h : thorny.Distinct := ⟨by decide, by decide, by decide, by decide⟩
  obtain ⟨hread, hagain, hinj⟩ := toJson_lossless Value.toPretty (Or.inr rfl)
  exact ⟨Or.inr rfl, h, hread thorny h, hagain _ _ (hread thorny h),
    fun other hother => hinj other thorny hother h⟩

end FilterLexicon.Lexicon
