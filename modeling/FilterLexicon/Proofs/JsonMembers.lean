import FilterLexicon.Proofs.JsonExtent

/-! The names that an accepted record must have come with, and what their values have made of it. A
field is given in a draft exactly if its name has come, and a name that comes again is refused, so
behind the last member the draft counts the names of the text, whatever values stood behind them. That
the count is right rests on every member ending where its value ends. What the one member of a name
sets is then in the record, because no other member touches it. -/

namespace FilterLexicon.Json

namespace Field

variable {δ β : Type} {fields : List (Field δ)}

/-- Reading the field shows in a draft by the field being given, and by nothing else. -/
def Marks (field : Field δ) (fields : List (Field δ)) : Prop :=
  field.read.Yields fun change => ∀ d, ∀ other ∈ fields,
    other.given (change d) = (other.name = field.name || other.given d)

theorem marks_set {reader : Reader β} {put : β → δ → δ} {name : String} {given : δ → Bool}
    (hput : ∀ x d, ∀ other ∈ fields,
      other.given (put x d) = (other.name = name || other.given d)) :
    Field.Marks ⟨name, given, reader.map put⟩ fields :=
  reader.yields_true.map fun x _ => hput x

end Field

/-- A key that comes once has one value. -/
theorem eq_of_count_le_one {β : Type} {members : List (String × β)} {k : String}
    (h : (keys members).count k ≤ 1) {x y : β} (hx : (k, x) ∈ members) (hy : (k, y) ∈ members) :
    x = y := by
  obtain ⟨earlier, later, rfl⟩ := List.append_of_mem hx
  rw [keys, List.map_append, List.map_cons, List.count_append, List.count_cons_self] at h
  have hearlier : k ∉ earlier.map Prod.fst := List.count_eq_zero.mp (by omega)
  have hlater : k ∉ later.map Prod.fst := List.count_eq_zero.mp (by omega)
  rcases List.mem_append.mp hy with hy | hy
  · exact absurd (List.mem_map_of_mem hy) hearlier
  · rcases List.mem_cons.mp hy with hy | hy
    · exact (congrArg Prod.snd hy).symm
    · exact absurd (List.mem_map_of_mem hy) hlater

namespace Format

variable {δ α : Type} {format : Format δ α}

/-- What a draft shows of its fields is which of them have been read. -/
structure Tracks (format : Format δ α) : Prop where
  skips : format.Skips
  names : (format.fields.map Field.name).Nodup
  blank : ∀ field ∈ format.fields, field.given format.blank = false
  marks : ∀ field ∈ format.fields, field.Marks format.fields

/-- A record is only finished from drafts in which the field of this name is given. -/
def Requires (format : Format δ α) (name : String) : Prop :=
  ∀ d a, format.finish d = .ok a → ∀ field ∈ format.fields, field.name = name →
    field.given d = true

/-- A member counts for the field of its name, and for no other. -/
theorem Tracks.member (h : format.Tracks) {d d' : δ} {k : String} {s rest : List Char}
    (hrun : format.member d k s = .ok (d', rest)) {field : Field δ}
    (hfield : field ∈ format.fields) :
    (field.given d').toNat = (field.given d).toNat + [k].count field.name := by
  obtain ⟨_, _, ⟨found, hfound, rfl, hnew, change, hread, rfl⟩ | ⟨hother, _, rfl⟩⟩ :=
    member_eq_ok hrun
  · rw [h.marks found hfound _ _ _ hread d field hfield]
    by_cases hsame : field.name = found.name
    · obtain rfl := List.inj_on_of_nodup_map h.names hfield hfound hsame
      simp [hnew]
    · simp [hsame, Ne.symm hsame]
  · simp [Ne.symm (hother field hfield)]

/-- Behind the value of a member the text goes on, whether the member is a field or not. -/
theorem Skips.member_rest (h : format.Skips) {d d' : δ} {k : String} {b b' t rest r : List Char}
    (hb : Blanks b) (hb' : Blanks b') (ht : IsValue t) (hrest : Follows rest)
    (hrun : format.member d k (b ++ ':' :: (b' ++ (t ++ rest))) = .ok (d', r)) : r = rest := by
  obtain ⟨s, hcolon, hskip⟩ := h.member hrun
  rw [colon_written hb] at hcolon
  cases hcolon
  have hends := hskip []
  rw [skipFrom_blanks hb', ht.passes [] hrest, skipFrom, skipFrom] at hends
  exact (Except.ok.inj hends).symm

/-- Reading the member, with blanks around its colon and any text behind it, takes one draft to the
other. -/
inductive MemberStep (format : Format δ α) (m : String × List Char) (d d' : δ) : Prop where
  | read {b b' rest : List Char} (hb : Blanks b) (hb' : Blanks b')
      (hrun : format.member d m.1 (b ++ ':' :: (b' ++ (m.2 ++ rest))) = .ok (d', rest)) :
      MemberStep format m d d'

/-- The members take one draft to the other, each from where the one before it has led. -/
inductive MemberSteps (format : Format δ α) : List (String × List Char) → δ → δ → Prop where
  | nil (d : δ) : MemberSteps format [] d d
  | cons {m : String × List Char} {ms : List (String × List Char)} {d e d' : δ}
      (hstep : format.MemberStep m d e) (hsteps : MemberSteps format ms e d') :
      MemberSteps format (m :: ms) d d'

section Texts

variable {ms : List (String × List Char)} {texts : List (List Char)} {d d' : δ} {field : Field δ}

/-- The members are read one after the other, because each ends where its value ends. -/
theorem Skips.steps (h : format.Skips) (ht : MemberTexts ms texts) {first : Bool}
    {b b' : List Char} (hb : Blanks b) (hb' : Blanks b') {rest r : List Char}
    (hrun : format.members first d (b ++ (joined first texts ++ (b' ++ '\x7d' :: rest))) =
      .ok (d', r)) : format.MemberSteps ms d d' := by
  induction ht generalizing first d b with
  | nil =>
      rw [joined, List.nil_append, ← List.append_assoc,
        members_of_no (nextKey_closing first (blanks_append hb hb') rest)] at hrun
      cases hrun
      exact .nil _
  | cons hk ht hu _ ih =>
      obtain ⟨⟨hfront, hcolon⟩, ⟨hvalue, hback⟩⟩ := hu
      simp only [joined, List.append_assoc, List.cons_append] at hrun
      rw [members_of_yes (nextKey_written first hb hfront hk _) (key_written hk _)] at hrun
      obtain ⟨⟨e, r'⟩, hmember, hrun⟩ := bind_ok hrun
      -- The run goes on where the grammar does, although the value may be of any kind.
      obtain rfl := h.member_rest hcolon hvalue ht
        (follows_values hback hb' _ (.inr (.inr rfl)) rest) hmember
      exact .cons (.read hcolon hvalue hmember) (ih hback hrun)

/-- The members of an accepted text lead from the blank draft to the one that was finished. -/
theorem Skips.steps_of_parse (h : format.Skips) {text : String} {a : α} (htext : ObjectText ms text)
    (hparse : format.reader.parse text = .ok a) :
    ∃ d, format.MemberSteps ms format.blank d ∧ format.finish d = .ok a := by
  cases htext with
  | braces hb hmembers hb' hb'' =>
      unfold Reader.parse at hparse
      split at hparse
      · cases hparse
      rename_i hrun
      split at hparse
      case h_2 => cases hparse
      cases hparse
      simp only [String.toList_ofList, Format.reader, Format.run, List.append_assoc,
        List.cons_append, List.nil_append, skipBlanks_to hb (c := '\x7b') rfl,
        separated_eq_joined] at hrun
      unfold ofObject at hrun
      split at hrun
      · cases hrun
      · cases hrun
      rename_i d _ hread
      split at hrun
      · cases hrun
      split at hrun
      · rename_i hfinish
        cases hrun
        exact ⟨d, h.steps hmembers blanks_nil hb' hread, hfinish⟩
      · cases hrun

/-- The members count for the fields of their names. -/
theorem Tracks.steps (h : format.Tracks) (hsteps : format.MemberSteps ms d d')
    (hfield : field ∈ format.fields) :
    (field.given d').toNat = (field.given d).toNat + (keys ms).count field.name := by
  induction hsteps with
  | nil => rfl
  | cons hstep _ ih =>
      obtain ⟨_, _, hrun⟩ := hstep
      rw [ih, h.member hrun hfield, Nat.add_assoc, ← List.count_append]
      rfl

/-- What every single member keeps is kept by all of them in a row. -/
theorem MemberSteps.keeps {I : δ → Prop} (hsteps : format.MemberSteps ms d d')
    (hkeep : ∀ m ∈ ms, ∀ d d', format.MemberStep m d d' → I d → I d') (hd : I d) : I d' := by
  induction hsteps with
  | nil => exact hd
  | cons hstep _ ih =>
      obtain ⟨hfirst, hrest⟩ := List.forall_mem_cons.mp hkeep
      exact ih hrest (hfirst _ _ hstep hd)

/-- Behind the last member, a field is given as often as its name has come. -/
theorem Tracks.count_eq (h : format.Tracks) (hsteps : format.MemberSteps ms format.blank d)
    (hfield : field ∈ format.fields) :
    (field.given d).toNat = (keys ms).count field.name := by
  have hcount := h.steps hsteps hfield
  rwa [h.blank field hfield, Bool.toNat_false, Nat.zero_add] at hcount

/-- A field that comes twice is refused. -/
theorem Tracks.refuses_repeated (h : format.Tracks) {text : String} (htext : ObjectText ms text)
    {name : String} (hname : name ∈ format.fields.map Field.name)
    (hcount : 2 ≤ (keys ms).count name) : ∃ e, format.reader.parse text = .error e := by
  obtain ⟨field, hfield, rfl⟩ := List.mem_map.mp hname
  cases hparse : format.reader.parse text with
  | error e => exact ⟨e, rfl⟩
  | ok a =>
      obtain ⟨d, hsteps, _⟩ := h.skips.steps_of_parse htext hparse
      have hle := Bool.toNat_le (field.given d)
      rw [h.count_eq hsteps hfield] at hle
      omega

/-- A field that no finished draft is without has to come. -/
theorem Tracks.refuses_missing (h : format.Tracks) {text : String} (htext : ObjectText ms text)
    {name : String} (hname : name ∈ format.fields.map Field.name) (hrequires : format.Requires name)
    (hmissing : name ∉ keys ms) : ∃ e, format.reader.parse text = .error e := by
  obtain ⟨field, hfield, rfl⟩ := List.mem_map.mp hname
  cases hparse : format.reader.parse text with
  | error e => exact ⟨e, rfl⟩
  | ok a =>
      obtain ⟨d, hsteps, hfinish⟩ := h.skips.steps_of_parse htext hparse
      have hcount := h.count_eq hsteps hfield
      rw [hrequires d a hfinish field hfield rfl, List.count_eq_zero_of_not_mem hmissing] at hcount
      cases hcount

/-- What a field sets from its only text, and all other fields keep, is true once it is given. -/
theorem Tracks.step_keeps (h : format.Tracks) (hfield : field ∈ format.fields) {P : δ → Prop}
    {t : List Char} {change : δ → δ} (hread : field.read.Takes t change) (hset : ∀ d, P (change d))
    (hothers : ∀ other ∈ format.fields, other.name ≠ field.name → other.Keeps P)
    {m : String × List Char} (hm : m.1 = field.name → m.2 = t) (hstep : format.MemberStep m d d')
    (hd : field.given d = true → P d) (hgiven : field.given d' = true) : P d' := by
  obtain ⟨hb, hb', hrun⟩ := hstep
  obtain ⟨s', hcolon, ⟨found, hfound, hname, _, change', hread', rfl⟩ | ⟨_, _, rfl⟩⟩ :=
    member_eq_ok hrun
  · by_cases hsame : found.name = field.name
    · obtain rfl := List.inj_on_of_nodup_map h.names hfound hfield hsame
      rw [hm hname.symm, colon_written hb] at hcolon
      cases hcolon
      rw [hread _ _ hb'] at hread'
      cases hread'
      exact hset d
    · rw [h.marks found hfound _ _ _ hread' d field hfield, decide_eq_false (Ne.symm hsame),
        Bool.false_or] at hgiven
      exact hothers found hfound hsame _ _ _ hread' d (hd hgiven)
  · exact hd hgiven

/-- What the member of a field sets, and no other field changes, is true of the draft from which an
accepted record was finished. -/
theorem Tracks.parse_field (h : format.Tracks) (hfield : field ∈ format.fields) {P : δ → Prop}
    {t : List Char} {change : δ → δ} (hread : field.read.Takes t change) (hset : ∀ d, P (change d))
    (hothers : ∀ other ∈ format.fields, other.name ≠ field.name → other.Keeps P) {text : String}
    {a : α} (htext : ObjectText ms text) (ht : (field.name, t) ∈ ms)
    (hparse : format.reader.parse text = .ok a) : ∃ d, format.finish d = .ok a ∧ P d := by
  obtain ⟨d, hsteps, hfinish⟩ := h.skips.steps_of_parse htext hparse
  have hcount := h.count_eq hsteps hfield
  have honce : (keys ms).count field.name ≤ 1 := hcount ▸ Bool.toNat_le _
  have hgiven : field.given d = true := by
    rw [← Bool.toNat_eq_one, hcount]
    exact le_antisymm honce (List.one_le_count_iff.mpr (List.mem_map_of_mem ht))
  have hkeep : ∀ m ∈ ms, ∀ d d', format.MemberStep m d d' →
      (field.given d = true → P d) → field.given d' = true → P d' := by
    intro m hm d d' hstep
    refine h.step_keeps hfield hread hset hothers (fun hname => ?_) hstep
    exact eq_of_count_le_one honce (hname ▸ hm) ht
  have hblank : field.given format.blank = true → P format.blank := by
    simp [h.blank field hfield]
  exact ⟨d, hfinish, hsteps.keeps hkeep hblank hgiven⟩

end Texts

end Format
end FilterLexicon.Json
