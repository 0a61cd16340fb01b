import FilterLexicon.Json.Record
import FilterLexicon.Proofs.JsonReading
import FilterLexicon.Proofs.JsonSkipping
import Mathlib.Data.List.Nodup

/-! Records against the grammar of written values. The members of an object take a draft further one
by one: a member with the name of a field reads the field, and any other member is passed over. So
what has been read depends on the names that have come, and not on their order, and a record is read
back from its parts in any order and among any other members. What every field keeps of a draft holds
of the finished record, in whichever of its two written forms the record was read. -/

namespace FilterLexicon.Json

namespace Field

variable {δ β : Type} {I : δ → Prop}

/-- What is known of a draft stays true when the field is read into it. -/
def Keeps (field : Field δ) (I : δ → Prop) : Prop :=
  field.read.Yields fun change => ∀ d, I d → I (change d)

theorem keeps_set {reader : Reader β} {put : β → δ → δ} {P : β → Prop} {name : String}
    {given : δ → Bool} (h : reader.Yields P) (hput : ∀ x, P x → ∀ d, I d → I (put x d)) :
    Field.Keeps ⟨name, given, reader.map put⟩ I := h.map hput

end Field

namespace Format

variable {δ α : Type} {format : Format δ α}

/-- The members, of which none is a field that is already given, take one draft to another. -/
inductive Takes (format : Format δ α) : δ → List (String × List Char) → δ → Prop where
  | nil (d : δ) : Takes format d [] d
  | field {d d' : δ} {k : String} {t : List Char} {members : List (String × List Char)}
      {field : Field δ} {change : δ → δ}
      (hfind : format.fields.find? (·.name = k) = some field) (hgiven : field.given d = false)
      (hread : field.read.Takes t change) (h : Takes format (change d) members d') :
      Takes format d ((k, t) :: members) d'
  | other {d d' : δ} {k : String} {t : List Char} {members : List (String × List Char)}
      (hfind : format.fields.find? (·.name = k) = none) (h : Takes format d members d') :
      Takes format d ((k, t) :: members) d'

theorem members_of_no {first : Bool} {d : δ} {s rest : List Char}
    (h : nextKey first s = .ok (.no, rest)) : format.members first d s = .ok (d, rest) := by
  rw [members]
  split
  all_goals
    rename_i hn
    rw [h] at hn
    cases hn
  rfl

theorem members_of_yes {first : Bool} {d : δ} {s s' s'' : List Char} {k : String}
    (hn : nextKey first s = .ok (.yes, s')) (hk : key s' = .ok (k, s'')) :
    format.members first d s =
      (format.member d k s'').bind fun p => format.members false p.1 p.2 := by
  rw [members]
  split
  all_goals
    rename_i hn'
    rw [hn] at hn'
    cases hn'
  split
  all_goals
    rename_i hk'
    rw [hk] at hk'
    cases hk'
  split
  all_goals
    rename_i hm
    simp only [hm, Except.bind]

/-- A member that was read is a field that was not given before, or it has another name and was passed
over. -/
theorem member_eq_ok {d d' : δ} {k : String} {s rest : List Char}
    (h : format.member d k s = .ok (d', rest)) :
    ∃ s', colon s = .ok s' ∧
      ((∃ field ∈ format.fields, field.name = k ∧ field.given d = false ∧
          ∃ change, field.read.run s' = .ok (change, rest) ∧ d' = change d) ∨
        (∀ field ∈ format.fields, field.name ≠ k) ∧ skip s' = .ok rest ∧ d' = d) := by
  unfold Format.member at h
  split at h
  · rename_i field hfind
    have hname : field.name = k := by simpa using List.find?_some hfind
    split at h
    · cases h
    rename_i hnew
    split at h
    · cases h
    rename_i hcolon
    split at h
    · cases h
    rename_i hread
    cases h
    exact ⟨_, hcolon, Or.inl ⟨field, List.mem_of_find?_eq_some hfind, hname,
      Bool.eq_false_iff.mpr hnew, _, hread, rfl⟩⟩
  · rename_i hfind
    split at h
    · cases h
    rename_i hcolon
    split at h
    · cases h
    rename_i hskip
    cases h
    exact ⟨_, hcolon, Or.inr ⟨by simpa using hfind, hskip, rfl⟩⟩

theorem member_field {d : δ} {k : String} {t : List Char} {field : Field δ} {change : δ → δ}
    (hfind : format.fields.find? (·.name = k) = some field) (hgiven : field.given d = false)
    (hread : field.read.Takes t change) {b b' : List Char} (hb : Blanks b) (hb' : Blanks b')
    (rest : List Char) :
    format.member d k (b ++ ':' :: (b' ++ (t ++ rest))) = .ok (change d, rest) := by
  simp [member, hfind, hgiven, colon_written hb, hread b' rest hb']

theorem member_other {d : δ} {k : String} {t : List Char}
    (hfind : format.fields.find? (·.name = k) = none) (ht : IsValue t) {b b' rest : List Char}
    (hb : Blanks b) (hb' : Blanks b') (hrest : Follows rest) :
    format.member d k (b ++ ':' :: (b' ++ (t ++ rest))) = .ok (d, rest) := by
  simp [member, hfind, colon_written hb, skip_value ht hb' hrest]

/-- A step over the first of the members, whatever text comes behind it. -/
theorem Takes.step {d d' : δ} {k : String} {t : List Char} {members : List (String × List Char)}
    (h : format.Takes d ((k, t) :: members) d') (ht : IsValue t) :
    ∃ e, format.Takes e members d' ∧ ∀ b b' rest : List Char, Blanks b → Blanks b' →
      Follows rest → format.member d k (b ++ ':' :: (b' ++ (t ++ rest))) = .ok (e, rest) := by
  cases h with
  | field hfind hgiven hread h =>
      exact ⟨_, h, fun b b' rest hb hb' _ => member_field hfind hgiven hread hb hb' rest⟩
  | other hfind h => exact ⟨_, h, fun b b' rest hb hb' hrest => member_other hfind ht hb hb' hrest⟩

/-- The members from any of them on take the draft that is there to the end. -/
theorem Takes.members {d d' : δ} {members : List (String × List Char)}
    (h : format.Takes d members d') {texts : List (List Char)} (ht : MemberTexts members texts)
    (first : Bool) {b b' : List Char} (hb : Blanks b) (hb' : Blanks b') (rest : List Char) :
    format.members first d (b ++ (joined first texts ++ (b' ++ '\x7d' :: rest))) =
      .ok (d', '\x7d' :: rest) := by
  induction members generalizing d texts first b with
  | nil =>
      cases h
      cases ht
      rw [joined, List.nil_append, ← List.append_assoc]
      exact members_of_no (nextKey_closing first (blanks_append hb hb') rest)
  | cons m members ih =>
      cases ht with
      | cons hk hv hu hmembers =>
          obtain ⟨e, hrest, hmember⟩ := h.step hv
          obtain ⟨⟨hfront, hcolon⟩, ⟨hvalue, hback⟩⟩ := hu
          simp only [joined, List.append_assoc, List.cons_append]
          rw [members_of_yes (nextKey_written first hb hfront hk _) (key_written hk _),
            hmember _ _ _ hcolon hvalue (follows_values hback hb' _ (.inr (.inr rfl)) rest)]
          exact ih hrest hmembers false hback

/-- A record is read from its members. -/
theorem Takes.object {d : δ} {a : α} {members : List (String × List Char)}
    (h : format.Takes format.blank members d) (hfinish : format.finish d = .ok a)
    {texts : List (List Char)} (ht : MemberTexts members texts) {b : List Char} (hb : Blanks b) :
    format.reader.Takes ('\x7b' :: separated texts ++ b ++ ['\x7d']) a := by
  intro b' rest hb'
  have hmembers := h.members ht true blanks_nil hb rest
  rw [List.nil_append] at hmembers
  simp only [reader, run, List.append_assoc, List.cons_append, List.nil_append, ofObject,
    skipBlanks_to hb' (c := '\x7b') rfl, separated_eq_joined, hmembers, closeObject_written, hfinish]

/-! ### Records by their parts -/

/-- A part of a record in a draft: it is there once its name has been seen. -/
def ifSeen {β : Type} (seen : List String) (name : String) (x : β) : Option β :=
  if name ∈ seen then some x else none

theorem isSome_ifSeen {β : Type} (seen : List String) (name : String) (x : β) :
    (ifSeen seen name x).isSome = decide (name ∈ seen) := by
  unfold ifSeen
  split <;> simp_all

theorem getD_ifSeen {β : Type} (seen : List String) (name : String) (x y : β) :
    (ifSeen seen name x).getD y = if name ∈ seen then x else y := by
  unfold ifSeen
  split <;> rfl

theorem ifSeen_of_ne {β : Type} {seen : List String} {name k : String} (h : name ≠ k) (x : β) :
    ifSeen (k :: seen) name x = ifSeen seen name x := by
  simp [ifSeen, h]

/-- The field is set to what its own reader reads of its part, and shows whether its name has come. -/
inductive FieldPresents (parts : List (String × Value)) (draft : List String → δ) :
    Field δ → Prop where
  | set {β : Type} {reader : Reader β} {put : β → δ → δ} {name : String} {given : δ → Bool}
      {v : Value} {x : β} (hv : (name, v) ∈ parts) (hread : reader.Reads v x)
      (hput : ∀ seen, put x (draft seen) = draft (name :: seen))
      (hgiven : ∀ seen, given (draft seen) = decide (name ∈ seen)) :
      FieldPresents parts draft ⟨name, given, reader.map put⟩

/-- `draft seen` is what a draft of a record with these parts holds when the names in `seen` have
come. -/
structure Presents (format : Format δ α) (parts : List (String × Value))
    (draft : List String → δ) : Prop where
  blank : draft [] = format.blank
  field : ∀ field ∈ format.fields, FieldPresents parts draft field
  other : ∀ k, (∀ field ∈ format.fields, field.name ≠ k) → ∀ seen, draft (k :: seen) = draft seen

namespace Presents

variable {parts : List (String × Value)} {draft : List String → δ}

/-- What the members have read by the end depends on their names alone, if no field comes twice. -/
theorem takes (h : format.Presents parts draft) {members : List (String × List Char)}
    (hencode : Encode members parts) (seen : List String)
    (honce : ∀ field ∈ format.fields, (seen ++ keys members).count field.name ≤ 1) :
    format.Takes (draft seen) members (draft ((keys members).reverse ++ seen)) := by
  induction members generalizing seen with
  | nil => exact .nil _
  | cons m members ih =>
      obtain ⟨k, t⟩ := m
      have hrest : format.Takes (draft (k :: seen)) members
          (draft ((keys members).reverse ++ k :: seen)) := by
        refine ih (fun k' v' t' hv ht => hencode k' v' t' hv (List.mem_cons_of_mem _ ht)) _ ?_
        intro field hfield
        have hcount := honce field hfield
        rwa [keys, List.map_cons, List.perm_middle.count_eq] at hcount
      rw [keys, List.map_cons, List.reverse_cons, List.append_assoc, List.singleton_append]
      -- A member of no field leaves the draft as it is, although its name has come.
      cases hfind : format.fields.find? (·.name = k) with
      | none =>
          rw [h.other k (by simpa using hfind)] at hrest
          exact .other hfind hrest
      | some field =>
          have hfield := List.mem_of_find?_eq_some hfind
          have hname : field.name = k := by simpa using List.find?_some hfind
          subst hname
          have hnew : field.name ∉ seen := by
            intro hseen
            have hcount := honce field hfield
            have hseen := List.count_pos_iff.mpr hseen
            rw [keys, List.count_append, List.map_cons, List.count_cons_self] at hcount
            omega
          cases h.field field hfield with
          | set hv hread hput hgiven =>
              rw [← hput] at hrest
              refine .field hfind ?_ ((hread t (hencode _ _ t hv List.mem_cons_self)).map _) hrest
              exact (hgiven seen).trans (decide_eq_false hnew)

/-- A record is read from its parts in any order, also when members of other names stand among them
and when parts are left out that it is complete without. -/
theorem parses (h : format.Presents parts draft) {members : List (String × List Char)}
    (hencode : Encode members parts)
    (honce : ∀ field ∈ format.fields, (keys members).count field.name ≤ 1) {a : α}
    (hfinish : format.finish (draft (keys members).reverse) = .ok a) {text : String}
    (htext : ObjectText members text) : format.reader.parse text = .ok a := by
  have htakes := h.takes hencode [] honce
  rw [List.append_nil, h.blank] at htakes
  cases htext with
  | braces hb hmembers hb' hb'' =>
      exact Reader.parse_taken (htakes.object hfinish hmembers hb') hb hb''

/-- A record is read back from all written forms of its parts as an object. -/
theorem reads_object (h : format.Presents parts draft) (hkeys : (keys parts).Nodup) {a : α}
    (hfinish : format.finish (draft (keys parts).reverse) = .ok a) :
    format.reader.Reads (.object parts) a := by
  intro t ht
  cases ht with
  | object hmembers hb =>
      obtain ⟨members, htexts, hnames, hencode⟩ := hmembers.memberTexts hkeys
      rw [← hnames] at hkeys hfinish
      have htakes := h.takes hencode []
        fun field _ => List.nodup_iff_count_le_one.mp hkeys field.name
      rw [List.append_nil, h.blank] at htakes
      exact htakes.object hfinish htexts hb

end Presents

/-! ### What is known of a record -/

variable {I : δ → Prop}

/-- What is known of a draft stays true whichever field is read into it. -/
def Keeps (format : Format δ α) (I : δ → Prop) : Prop := ∀ field ∈ format.fields, field.Keeps I

theorem Keeps.member (h : format.Keeps I) {d d' : δ} {k : String} {s rest : List Char} (hd : I d)
    (hrun : format.member d k s = .ok (d', rest)) : I d' := by
  obtain ⟨_, _, ⟨field, hfield, _, _, change, hread, rfl⟩ | ⟨_, _, rfl⟩⟩ := member_eq_ok hrun
  · exact h field hfield _ _ _ hread d hd
  · exact hd

theorem Keeps.members (h : format.Keeps I) {first : Bool} {d d' : δ} {s rest : List Char}
    (hd : I d) (hrun : format.members first d s = .ok (d', rest)) : I d' := by
  fun_induction Format.members format first d s with
  | case2 =>
      cases hrun
      exact hd
  | case5 _ _ _ _ _ _ _ _ _ _ hm _ _ _ ih => exact ih (h.member hd hm) hrun
  | _ => cases hrun

theorem Keeps.inOrder (h : format.Keeps I) {first : Bool} {fields : List (Field δ)}
    (hfields : ∀ field ∈ fields, field ∈ format.fields) {d d' : δ} {s rest : List Char} (hd : I d)
    (hrun : inOrder first fields d s = .ok (d', rest)) : I d' := by
  induction fields generalizing first d s with
  | nil =>
      cases hrun
      exact hd
  | cons field fields ih =>
      obtain ⟨hfield, hrest⟩ := List.forall_mem_cons.mp hfields
      unfold Format.inOrder at hrun
      split at hrun
      · cases hrun
      · cases hrun
        exact hd
      · split at hrun
        · cases hrun
        · rename_i hread
          exact ih hrest (h field hfield _ _ _ hread d hd) hrun

/-- What holds of the blank draft and is kept by every field is known when a record is finished. -/
theorem Keeps.yields (h : format.Keeps I) (hblank : I format.blank) {P : α → Prop}
    (hfinish : ∀ {d : δ} {a : α}, I d → format.finish d = .ok a → P a) :
    format.reader.Yields P := by
  intro s a rest hrun
  simp only [reader, run] at hrun
  split at hrun
  · unfold ofList at hrun
    split at hrun
    · cases hrun
    · rename_i hmembers
      split at hrun
      · cases hrun
      split at hrun
      · rename_i hfin
        cases hrun
        exact hfinish (h.inOrder (fun _ hf => hf) hblank hmembers) hfin
      · cases hrun
  · unfold ofObject at hrun
    split at hrun
    · cases hrun
    · cases hrun
    · rename_i hmembers
      split at hrun
      · cases hrun
      split at hrun
      · rename_i hfin
        cases hrun
        exact hfinish (h.members hblank hmembers) hfin
      · cases hrun
  · cases hrun

end Format
end FilterLexicon.Json
