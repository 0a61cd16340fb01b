import FilterLexicon.Proofs.JsonMembers
import FilterLexicon.Proofs.LexiconJson
import FilterLexicon.Proofs.SettingsJson

/-! The members of the JSON forms of settings and of a lexicon. They are known by their names, so they
may come in any order and among members of any other names and values. A part of settings that has a
default may be left out; a required member may not, and none of the known members may come twice,
whatever their values are. -/

namespace FilterLexicon

open Json (Encode ObjectText Reader keys)

theorem Source.skips : format.Skips := by
  intro field hfield
  simp only [format, List.mem_cons, List.not_mem_nil, or_false] at hfield
  rcases hfield with rfl | rfl <;> exact Json.Field.skips_set Reader.skips_string

theorem Catalog.skips : reader.Skips := ((Reader.skips_string.map _).object.map _).object.map _

namespace Settings

/-- The names of the members, of which the first two are required. -/
def memberNames : List String := ["entities", "attributes", "strictCollisions", "customTypes", "fields"]

theorem skips : format.Skips := by
  have hstrings := Reader.skips_string.list
  intro field hfield
  simp only [format, List.mem_cons, List.not_mem_nil, or_false] at hfield
  rcases hfield with rfl | rfl | rfl | rfl | rfl
  · exact Json.Field.skips_set Source.skips.reader.list
  · exact Json.Field.skips_set hstrings
  · exact Json.Field.skips_set Reader.skips_boolean
  · exact Json.Field.skips_set hstrings.object
  · exact Json.Field.skips_set Catalog.skips

theorem tracks : format.Tracks where
  skips := skips
  names := by simp [format]
  blank field hfield := by
    simp only [format, List.mem_cons, List.not_mem_nil, or_false] at hfield
    rcases hfield with rfl | rfl | rfl | rfl | rfl <;> rfl
  marks field hfield := by
    simp only [format, List.mem_cons, List.not_mem_nil, or_false] at hfield
    rcases hfield with rfl | rfl | rfl | rfl | rfl <;>
      exact Json.Field.marks_set fun _ _ => by simp [format]

theorem requires {name : String} (hname : name = "entities" ∨ name = "attributes") :
    format.Requires name := by
  intro d settings hfinish field hfield hfieldname
  have hgiven : d.sources.isSome = true ∧ d.requests.isSome = true := by
    simp only [format, Draft.finish] at hfinish
    split at hfinish
    · cases hfinish
    · cases hfinish
    · rename_i hsources hrequests
      simp [hsources, hrequests]
  simp only [format, List.mem_cons, List.not_mem_nil, or_false] at hfield
  rcases hfield with rfl | rfl | rfl | rfl | rfl
  · exact hgiven.1
  · exact hgiven.2
  all_goals
    subst hfieldname
    simp at hname

/-- A required member that is not there, or a member that is there twice, whatever its values. -/
theorem refuses {ms : List (String × List Char)} {text : String} (htext : ObjectText ms text)
    (h : "entities" ∉ keys ms ∨ "attributes" ∉ keys ms ∨
      ∃ name ∈ memberNames, 2 ≤ (keys ms).count name) :
    ∃ error, ofJson text = .error (.refused none error) := by
  have hrefused : ∃ error, format.reader.parse text = .error error := by
    rcases h with hmissing | hmissing | ⟨name, hname, hcount⟩
    · exact tracks.refuses_missing htext (by simp [format]) (requires (Or.inl rfl)) hmissing
    · exact tracks.refuses_missing htext (by simp [format]) (requires (Or.inr rfl)) hmissing
    · exact tracks.refuses_repeated htext hname hcount
  obtain ⟨error, herror⟩ := hrefused
  exact ⟨error, by rw [ofJson, herror]; rfl⟩

/-- The settings with the optional parts of these names, and with defaults for the others. -/
def keeping (settings : Settings) (given : List String) : Settings :=
  { settings with
    strict := if "strictCollisions" ∈ given then settings.strict else false
    customTypes := if "customTypes" ∈ given then settings.customTypes else {}
    catalog := if "fields" ∈ given then settings.catalog else {} }

theorem keeping_all (settings : Settings) {given : List String}
    (h : ∀ name ∈ memberNames, name ∈ given) : settings.keeping given = settings := by
  simp only [memberNames, List.forall_mem_cons] at h
  obtain ⟨-, -, hstrict, htypes, hcatalog, -⟩ := h
  simp only [keeping, hstrict, htypes, hcatalog, if_true]

theorem ofJson_members_with {settings : Settings} (h : settings.customTypes.Sorted)
    {fields : Json.Value} (hfields : Catalog.reader.Reads fields settings.catalog)
    {ms : List (String × List Char)} {text : String} (htext : ObjectText ms text)
    (hencode : Encode ms (settings.membersWith fields))
    (honce : ∀ name ∈ memberNames, (keys ms).count name ≤ 1)
    (hsources : "entities" ∈ keys ms) (hrequests : "attributes" ∈ keys ms) :
    ofJson text = .ok (settings.keeping (keys ms)) := by
  refine ofJson_eq_ok_iff.mpr ((presents_with h hfields).parses hencode ?_ ?_ htext)
  · exact fun field hfield => honce field.name (List.mem_map_of_mem hfield)
  · have hfirst : Json.Format.ifSeen (keys ms).reverse "entities" settings.sources =
        some settings.sources := if_pos (List.mem_reverse.mpr hsources)
    have hsecond : Json.Format.ifSeen (keys ms).reverse "attributes" settings.requests =
        some settings.requests := if_pos (List.mem_reverse.mpr hrequests)
    simp only [format, Draft.seen, Draft.finish, hfirst, hsecond, Json.Format.getD_ifSeen,
      List.mem_reverse, keeping]

theorem ofJson_members {settings : Settings} (h : settings.Faithful)
    {ms : List (String × List Char)} {text : String} (htext : ObjectText ms text)
    (hencode : Encode ms settings.toJson.members)
    (honce : ∀ name ∈ memberNames, (keys ms).count name ≤ 1)
    (hsources : "entities" ∈ keys ms) (hrequests : "attributes" ∈ keys ms) :
    ofJson text = .ok (settings.keeping (keys ms)) := by
  rw [members_toJson] at hencode
  exact ofJson_members_with h.customTypes (Catalog.reads_toJson h.catalog) htext hencode honce
    hsources hrequests

end Settings

namespace Lexicon

/-- The names of the members, all of them required. -/
def memberNames : List String :=
  ["nullaryOperators", "unaryOperators", "binaryOperators", "subOperators", "boolOperators",
    "values", "attributes"]

theorem skips : format.Skips := by
  have htexts : textsReader.Skips := Reader.skips_string.object.map _
  have hlist : listReader.Skips := Reader.skips_string.list
  have hoperators : operatorsReader.Skips := hlist.object.map _
  intro field hfield
  simp only [format, List.mem_cons, List.not_mem_nil, or_false] at hfield
  rcases hfield with rfl | rfl | rfl | rfl | rfl | rfl | rfl
  · exact Json.Field.skips_set htexts
  · exact Json.Field.skips_set htexts
  · exact Json.Field.skips_set hoperators
  · exact Json.Field.skips_set hlist
  · exact Json.Field.skips_set hlist
  · exact Json.Field.skips_set hlist
  · exact Json.Field.skips_set hoperators

theorem tracks : format.Tracks where
  skips := skips
  names := by simp [format]
  blank field hfield := by
    simp only [format, List.mem_cons, List.not_mem_nil, or_false] at hfield
    rcases hfield with rfl | rfl | rfl | rfl | rfl | rfl | rfl <;> rfl
  marks field hfield := by
    simp only [format, List.mem_cons, List.not_mem_nil, or_false] at hfield
    rcases hfield with rfl | rfl | rfl | rfl | rfl | rfl | rfl <;>
      exact Json.Field.marks_set fun _ _ => by simp [format]

theorem requires (name : String) : format.Requires name := by
  intro d l hfinish field hfield _
  obtain rfl := Draft.eq_of_finish hfinish
  simp only [format, List.mem_cons, List.not_mem_nil, or_false] at hfield
  rcases hfield with rfl | rfl | rfl | rfl | rfl | rfl | rfl <;> rfl

/-- A member that is not there, or one that is there twice, whatever its values. -/
theorem refuses {ms : List (String × List Char)} {text : String} (htext : ObjectText ms text)
    {name : String} (hname : name ∈ memberNames) (hcount : (keys ms).count name ≠ 1) :
    ∃ error, ofJson text = .error error := by
  by_cases hmissing : name ∈ keys ms
  · have hpos := List.count_pos_iff.mpr hmissing
    exact tracks.refuses_repeated htext hname (by omega)
  · exact tracks.refuses_missing htext hname (requires name) hmissing

theorem ofJson_members {l : Lexicon} (h : l.Distinct) {ms : List (String × List Char)}
    {text : String} (htext : ObjectText ms text) (hencode : Encode ms l.toJson.members)
    (honce : ∀ name ∈ memberNames, (keys ms).count name = 1) : ofJson text = .ok l := by
  refine (presents h).parses hencode ?_ ?_ htext
  · exact fun field hfield => (honce field.name (List.mem_map_of_mem hfield)).le
  · have hgiven : ∀ name ∈ memberNames, name ∈ keys ms := fun name hname =>
      List.one_le_count_iff.mp (honce name hname).ge
    simp only [memberNames, List.forall_mem_cons] at hgiven
    obtain ⟨hnullary, hunary, hbinary, hgrouping, hconnectives, hvalues, hattributes, -⟩ := hgiven
    simp only [format, Draft.seen, Json.Format.ifSeen, List.mem_reverse, hnullary, hunary, hbinary,
      hgrouping, hconnectives, hvalues, hattributes, if_true]
    rfl

end Lexicon

/-- Settings and lexicons are read from their members in any order, with members of other names at any
place among them. Of settings the last three members may be left out, which gives the defaults of
these parts. Without a required member, or with any of the known members twice, the text is
refused. -/
theorem members_in_any_order :
    (∀ settings : Settings, settings.Faithful → ∀ (ms : List (String × List Char)) (text : String),
      ObjectText ms text → Encode ms settings.toJson.members →
      (∀ name ∈ Settings.memberNames, (keys ms).count name = 1) →
      Settings.ofJson text = .ok settings) ∧
    (∀ settings : Settings, settings.Faithful → ∀ (ms : List (String × List Char)) (text : String),
      ObjectText ms text → Encode ms settings.toJson.members →
      (∀ name ∈ Settings.memberNames, (keys ms).count name ≤ 1) →
      "entities" ∈ keys ms → "attributes" ∈ keys ms →
      Settings.ofJson text = .ok { settings with
        strict := if "strictCollisions" ∈ keys ms then settings.strict else false
        customTypes := if "customTypes" ∈ keys ms then settings.customTypes else {}
        catalog := if "fields" ∈ keys ms then settings.catalog else {} }) ∧
    (∀ (ms : List (String × List Char)) (text : String), ObjectText ms text →
      ("entities" ∉ keys ms ∨ "attributes" ∉ keys ms ∨
        ∃ name ∈ Settings.memberNames, 2 ≤ (keys ms).count name) →
      ∃ error, Settings.ofJson text = .error (.refused none error)) ∧
    (∀ l : Lexicon, l.Distinct → ∀ (ms : List (String × List Char)) (text : String),
      ObjectText ms text → Encode ms l.toJson.members →
      (∀ name ∈ Lexicon.memberNames, (keys ms).count name = 1) → Lexicon.ofJson text = .ok l) ∧
    ∀ (ms : List (String × List Char)) (text : String), ObjectText ms text →
      (∃ name ∈ Lexicon.memberNames, (keys ms).count name ≠ 1) →
      ∃ error, Lexicon.ofJson text = .error error := by
  refine ⟨?_, ?_, fun ms text htext h => Settings.refuses htext h,
    fun l h ms text htext hencode honce => Lexicon.ofJson_members h htext hencode honce, ?_⟩
  · intro settings h ms text htext hencode honce
    have hgiven : ∀ name ∈ Settings.memberNames, name ∈ keys ms := fun name hname =>
      List.one_le_count_iff.mp (honce name hname).ge
    have hread := Settings.ofJson_members h htext hencode (fun name hname => (honce name hname).le)
      (hgiven _ (by decide)) (hgiven _ (by decide))
    rwa [settings.keeping_all hgiven] at hread
  · intro settings h ms text htext hencode honce hsources hrequests
    exact Settings.ofJson_members h htext hencode honce hsources hrequests
  · rintro ms text htext ⟨name, hname, hcount⟩
    exact Lexicon.refuses htext hname hcount

/-- A number, nothing and a code without its other half, in a list of their own. -/
def oddity : List Char := "[-0.5e+3,null,\"\\ud800\"]".toList

theorem isValue_oddity : Json.IsValue oddity := by
  have hfive : Json.Digits ['5'] := Json.digits_singleton rfl
  have hthree : Json.Digits ['3'] := Json.digits_singleton rfl
  have hnumber : Json.IsNumber ['-', '0', '.', '5', 'e', '+', '3'] :=
    .parts (Or.inr rfl) .zero (.point hfive) (.letter (Or.inl rfl) (Or.inr (Or.inl rfl)) hthree)
  have hdigit : ∀ n < 16, Json.HexDigit n (Json.hexDigit n) := fun n h => ⟨h, Or.inl rfl⟩
  have hcode : Json.Code 0xd800 ['d', '8', '0', '0'] :=
    .digits (hdigit 13 (by decide)) (hdigit 8 (by decide)) (hdigit 0 (by decide))
      (hdigit 0 (by decide))
  exact .list (.cons (.number hnumber) (Json.padded_self _) (.cons .null (Json.padded_self _)
    (.cons (.string (.quotes (.code hcode .nil))) (Json.padded_self _) .nil))) Json.blanks_nil

def mixed : Settings where
  sources := [⟨"b", "p"⟩]
  requests := ["p.x"]
  strict := true
  catalog := ⟨⟨[("b", ⟨[("x", .date)]⟩)]⟩⟩

theorem faithful_mixed : mixed.Faithful := by
  refine ⟨List.Pairwise.nil, List.pairwise_singleton .., ?_⟩
  intro e he
  obtain rfl := List.mem_singleton.mp he
  refine ⟨by decide, ?_⟩
  intro f hf
  obtain rfl := List.mem_singleton.mp hf
  exact StorageType.canonical_ofName "date"

/-- The parts of an object from the last to the first, behind a member of another name. -/
def backwards (v : Json.Value) : List (String × List Char) :=
  ("note", oddity) :: v.members.reverse.map fun part => (part.1, part.2.compact)

theorem isValue_backwards (v : Json.Value) : ∀ m ∈ backwards v, Json.IsValue m.2 := by
  refine List.forall_mem_cons.mpr ⟨isValue_oddity, ?_⟩
  intro m hm
  obtain ⟨part, _, rfl⟩ := List.mem_map.mp hm
  exact part.2.written_compact.isValue

theorem members_in_any_order_backwards :
    Settings.ofJson ("\x7b\"note\":[-0.5e+3,null,\"\\ud800\"],"
      ++ "\"fields\":\x7b\"b\":\x7b\"x\":\"date\"\x7d\x7d,\"customTypes\":\x7b\x7d,"
      ++ "\"strictCollisions\":true,\"attributes\":[\"p.x\"],"
      ++ "\"entities\":[\x7b\"entity\":\"b\",\"prefix\":\"p\"\x7d]\x7d") = .ok mixed ∧
    Settings.ofJson ("\x7b\"note\":[-0.5e+3,null,\"\\ud800\"],\"attributes\":[\"p.x\"],"
      ++ "\"entities\":[\x7b\"entity\":\"b\",\"prefix\":\"p\"\x7d]\x7d") =
        .ok { sources := mixed.sources, requests := mixed.requests } ∧
    (∃ error, Settings.ofJson ("\x7b\"entities\":[-0.5e+3,null,\"\\ud800\"],\"attributes\":"
      ++ "[-0.5e+3,null,\"\\ud800\"],\"entities\":[-0.5e+3,null,\"\\ud800\"]\x7d") =
        .error (.refused none error)) ∧
    Lexicon.ofJson ("\x7b\"note\":[-0.5e+3,null,\"\\ud800\"],\"attributes\":\x7b\x7d,\"values\":[],"
      ++ "\"boolOperators\":[\"or\"],\"subOperators\":[],\"binaryOperators\":\x7b\x7d,"
      ++ "\"unaryOperators\":\x7b\x7d,\"nullaryOperators\":\x7b\x7d\x7d") =
        .ok { connectives := ["or"] } ∧
    ∃ error, Lexicon.ofJson "\x7b\x7d" = .error error := by
  obtain ⟨hall, hsome, hrefused, hlexicon, hrefused'⟩ := members_in_any_order
  refine ⟨?_, ?_, ?_, ?_, ?_⟩
  · exact hall mixed faithful_mixed (backwards mixed.toJson) _
      (Json.objectText_compact (isValue_backwards _) (by decide +kernel))
      (Json.encode_compact (by decide +kernel)) (by decide +kernel)
  · have hread := hsome mixed faithful_mixed
      ((backwards mixed.toJson).filter (·.1 ∈ ["note", "attributes", "entities"])) _
      (Json.objectText_compact
        (fun m hm => isValue_backwards _ m (List.mem_of_mem_filter hm)) rfl)
      (Json.encode_compact (by decide +kernel)) (by decide +kernel) (by decide +kernel)
      (by decide +kernel)
    rw [if_neg (by decide +kernel), if_neg (by decide +kernel), if_neg (by decide +kernel)] at hread
    exact hread
  · refine hrefused [("entities", oddity), ("attributes", oddity), ("entities", oddity)] _
      (Json.objectText_compact (fun m hm => ?_) (by decide +kernel))
      (Or.inr (Or.inr ⟨"entities", by decide, by decide⟩))
    simp only [List.mem_cons, List.not_mem_nil, or_false] at hm
    rcases hm with rfl | rfl | rfl <;> exact isValue_oddity
  · exact hlexicon { connectives := ["or"] } ⟨by decide, by decide, by decide, by decide⟩
      (backwards (Lexicon.toJson { connectives := ["or"] })) _
      (Json.objectText_compact (isValue_backwards _) (by decide +kernel))
      (Json.encode_compact (by decide +kernel)) (by decide +kernel)
  · exact hrefused' [] _
      (Json.objectText_compact (fun _ hm => absurd hm List.not_mem_nil) (by decide +kernel))
      ⟨"values", by decide, by decide⟩

end FilterLexicon
