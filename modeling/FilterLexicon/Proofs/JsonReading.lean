import FilterLexicon.Proofs.JsonSteps

/-! Readers against the grammar of written values. A reader that takes every written form of a value
to one result also does so inside lists and objects; on the other side, whatever a reader accepts,
its results keep the properties that its parts establish. -/

namespace FilterLexicon.Json

theorem bind_ok {ε α β : Type} {x : Except ε α} {f : α → Except ε β} {b : β}
    (h : x >>= f = .ok b) : ∃ a, x = .ok a ∧ f a = .ok b := by
  cases x with
  | error e => cases h
  | ok a => exact ⟨a, rfl, h⟩

theorem mapError_eq_ok_iff {ε ε' α : Type} {x : Except ε α} {f : ε → ε'} {a : α} :
    x.mapError f = .ok a ↔ x = .ok a := by
  cases x with
  | error e => exact iff_of_false nofun nofun
  | ok b =>
      show (Except.ok b : Except ε' α) = .ok a ↔ _
      rw [Except.ok.injEq, Except.ok.injEq]

namespace Reader

variable {α β : Type}

/-! ### Reading what is written -/

/-- The reader takes the text `t` to `a`, whatever blanks stand before it and whatever text behind
it. -/
def Takes (reader : Reader α) (t : List Char) (a : α) : Prop :=
  ∀ b rest : List Char, Blanks b → reader.run (b ++ (t ++ rest)) = .ok (a, rest)

/-- The reader takes every written form of `v` to `a`. -/
def Reads (reader : Reader α) (v : Value) (a : α) : Prop :=
  ∀ t : List Char, Written v t → reader.Takes t a

theorem reads_string (s : String) : string.Reads (.string s) s := by
  intro t ht b rest hb
  cases ht with
  | string h =>
      cases h with
      | quotes h =>
          simp only [string, runString, List.append_assoc, skipBlanks_append hb, List.cons_append,
            skipBlanks_cons (c := '"') rfl, List.nil_append, stringTail_written h, Except.map,
            String.ofList_toList]

theorem reads_boolean (x : Bool) : boolean.Reads (.boolean x) x := by
  intro t ht b rest hb
  cases ht
  cases x <;>
    simp [boolean, runBoolean, Value.writeBoolean, skipBlanks_append hb, skipBlanks_cons,
      isBlank, word, Except.map]

theorem Takes.map {reader : Reader α} {t : List Char} {a : α} (h : reader.Takes t a)
    (f : α → β) : (reader.map f).Takes t (f a) := by
  intro b rest hb
  simp only [Reader.map, h b rest hb, Except.map]

theorem Reads.map {reader : Reader α} {v : Value} {a : α} (h : reader.Reads v a) (f : α → β) :
    (reader.map f).Reads v (f a) := fun t ht => (h t ht).map f

theorem elements_of_no {reader : Reader α} {first : Bool} {s rest : List Char}
    (h : nextElement first s = .ok (.no, rest)) :
    elements reader first s = .ok ([], rest) := by
  rw [elements]
  split
  all_goals
    rename_i hn
    rw [h] at hn
    cases hn
  rfl

theorem elements_of_yes {reader : Reader α} {first : Bool} {s s' rest : List Char} {a : α}
    (hn : nextElement first s = .ok (.yes, s')) (hr : reader.run s' = .ok (a, rest)) :
    elements reader first s = (elements reader false rest).map fun p => (a :: p.1, p.2) := by
  rw [elements]
  split
  all_goals
    rename_i hn'
    rw [hn] at hn'
    cases hn'
  split
  all_goals
    rename_i hr'
    rw [hr] at hr'
    cases hr'
  rfl

theorem members_of_no {reader : Reader α} {first : Bool} {s rest : List Char}
    (h : nextKey first s = .ok (.no, rest)) : members reader first s = .ok ([], rest) := by
  rw [members]
  split
  all_goals
    rename_i hn
    rw [h] at hn
    cases hn
  rfl

theorem members_of_yes {reader : Reader α} {first : Bool} {s s' s'' s''' rest : List Char}
    {k : String} {a : α} (hn : nextKey first s = .ok (.yes, s')) (hk : key s' = .ok (k, s''))
    (hc : colon s'' = .ok s''') (hr : reader.run s''' = .ok (a, rest)) :
    members reader first s =
      (members reader false rest).map fun p => ((k, a) :: p.1, p.2) := by
  rw [members]
  split
  all_goals
    rename_i hn'
    rw [hn] at hn'
    cases hn'
  split
  all_goals
    rename_i hk'
    rw [hk] at hk'
    cases hk'
  split
  all_goals
    rename_i hc'
    rw [hc] at hc'
    cases hc'
  split
  all_goals
    rename_i hr'
    rw [hr] at hr'
    cases hr'
  rfl

section Containers

variable {reader : Reader α} {encode : α → Value}

/-- The elements from any of them on. -/
theorem elements_written {as : List α} (h : ∀ a ∈ as, reader.Reads (encode a) a)
    {texts : List (List Char)} (ht : WrittenItems (as.map encode) texts) (first : Bool)
    {b b' : List Char} (hb : Blanks b) (hb' : Blanks b') (rest : List Char) :
    elements reader first (b ++ (joined first texts ++ (b' ++ ']' :: rest))) =
      .ok (as, ']' :: rest) := by
  induction as generalizing texts first b with
  | nil =>
      cases ht
      rw [joined, List.nil_append, ← List.append_assoc]
      exact elements_of_no (nextElement_closing first (blanks_append hb hb') rest)
  | cons a as ih =>
      obtain ⟨ha, has⟩ := List.forall_mem_cons.mp h
      cases ht with
      | cons hv hu hitems =>
          cases hu with
          | blanks hfront hback =>
              simp only [joined, List.append_assoc]
              rw [elements_of_yes (nextElement_written first hb hfront hv _)
                (ha _ hv [] _ blanks_nil), ih has hitems false hback]
              rfl

theorem reads_list {as : List α} (h : ∀ a ∈ as, reader.Reads (encode a) a) :
    (list reader).Reads (.list (as.map encode)) as := by
  intro t ht b rest hb
  cases ht with
  | list hitems hb' =>
      have helements := elements_written h hitems true blanks_nil hb' rest
      rw [List.nil_append] at helements
      simp only [list, runList, List.append_assoc, List.cons_append, List.nil_append,
        skipBlanks_to hb (c := '[') rfl, separated_eq_joined, helements, closeList_written,
        Except.map]

/-- The members from any of them on, whose values are read as what `decode` makes of them. -/
theorem members_written {decode : β → α} {encode : β → Value} {entries : List (String × β)}
    (h : ∀ e ∈ entries, reader.Reads (encode e.2) (decode e.2)) {texts : List (List Char)}
    (ht : WrittenMembers (entries.map fun e => (e.1, encode e.2)) texts) (first : Bool)
    {b b' : List Char} (hb : Blanks b) (hb' : Blanks b') (rest : List Char) :
    members reader first (b ++ (joined first texts ++ (b' ++ '\x7d' :: rest))) =
      .ok (entries.map fun e => (e.1, decode e.2), '\x7d' :: rest) := by
  induction entries generalizing texts first b with
  | nil =>
      cases ht
      rw [joined, List.nil_append, ← List.append_assoc]
      exact members_of_no (nextKey_closing first (blanks_append hb hb') rest)
  | cons e entries ih =>
      obtain ⟨he, hentries⟩ := List.forall_mem_cons.mp h
      cases ht with
      | cons hk hv hu hmembers =>
          obtain ⟨⟨hfront, hcolon⟩, ⟨hvalue, hback⟩⟩ := hu
          simp only [joined, List.append_assoc, List.cons_append]
          rw [members_of_yes (nextKey_written first hb hfront hk _) (key_written hk _)
            (colon_written hcolon _) (he _ hv _ _ hvalue), ih hentries hmembers false hback]
          rfl

theorem reads_members (encode : β → Value) (decode : β → α) {entries : List (String × β)}
    (h : ∀ e ∈ entries, reader.Reads (encode e.2) (decode e.2)) :
    (object reader).Reads (.object (entries.map fun e => (e.1, encode e.2)))
      (entries.map fun e => (e.1, decode e.2)) := by
  intro t ht b rest hb
  cases ht with
  | object hmembers hb' =>
      have hread := members_written h hmembers true blanks_nil hb' rest
      rw [List.nil_append] at hread
      simp only [object, runObject, List.append_assoc, List.cons_append, List.nil_append,
        skipBlanks_to hb (c := '\x7b') rfl, separated_eq_joined, hread, closeObject_written,
        Except.map]

/-- An object of values that are read as what was written. -/
theorem reads_object (encode : α → Value) {entries : List (String × α)}
    (h : ∀ e ∈ entries, reader.Reads (encode e.2) e.2) :
    (object reader).Reads (.object (entries.map fun e => (e.1, encode e.2))) entries := by
  have hread := reads_members encode id h
  rwa [show entries.map (fun e => (e.1, id e.2)) = entries from List.map_id entries] at hread

end Containers

theorem reads_strings (items : List String) : (list string).Reads (.strings items) items :=
  reads_list fun s _ => reads_string s

/-- A whole text may have blanks on both sides of its value. -/
theorem parse_taken {reader : Reader α} {t : List Char} {a : α} (h : reader.Takes t a)
    {b b' : List Char} (hb : Blanks b) (hb' : Blanks b') :
    reader.parse (String.ofList (b ++ t ++ b')) = .ok a := by
  rw [parse, String.toList_ofList, List.append_assoc, h b b' hb]
  simp only [skipBlanks_of_blanks hb']

theorem parse_written {reader : Reader α} {v : Value} {a : α} (h : reader.Reads v a)
    {b t b' : List Char} (hb : Blanks b) (ht : Written v t) (hb' : Blanks b') :
    reader.parse (String.ofList (b ++ t ++ b')) = .ok a := parse_taken (h t ht) hb hb'

/-- Both ways of writing a value give a text that is read back. -/
theorem parse_write {write : Value → String} (hwrite : IsWriter write) {reader : Reader α}
    {v : Value} {a : α} (h : reader.Reads v a) : reader.parse (write v) = .ok a := by
  rcases hwrite with rfl | rfl
  · simpa [Value.toCompact] using parse_written h blanks_nil v.written_compact blanks_nil
  · simpa [Value.toPretty] using parse_written h blanks_nil (v.written_pretty 0) blanks_nil

/-! ### What is known of a result -/

/-- Whatever the reader accepts, its result has the property. -/
def Yields (reader : Reader α) (P : α → Prop) : Prop :=
  ∀ (s : List Char) (a : α) (rest : List Char), reader.run s = .ok (a, rest) → P a

theorem yields_true (reader : Reader α) : reader.Yields fun _ => True := fun _ _ _ _ => trivial

theorem Yields.map {reader : Reader α} {P : α → Prop} {Q : β → Prop} (h : reader.Yields P)
    {f : α → β} (hf : ∀ a, P a → Q (f a)) : (reader.map f).Yields Q := by
  intro s b rest hrun
  obtain ⟨p, hp, he⟩ := map_ok hrun
  cases he
  exact hf p.1 (h _ _ _ hp)

theorem yields_members {reader : Reader α} {P : α → Prop} (h : reader.Yields P) {first : Bool}
    {s rest : List Char} {entries : List (String × α)}
    (hrun : members reader first s = .ok (entries, rest)) : ∀ e ∈ entries, P e.2 := by
  fun_induction members reader first s generalizing entries with
  | case2 =>
      cases hrun
      exact fun e he => absurd he List.not_mem_nil
  | case6 first s _ _ k _ _ _ _ a _ hr _ _ _ _ ih =>
      obtain ⟨p, hp, he⟩ := map_ok hrun
      cases he
      exact List.forall_mem_cons.mpr ⟨h _ _ _ hr, ih hp⟩
  | _ => cases hrun

theorem yields_object {reader : Reader α} {P : α → Prop} (h : reader.Yields P) :
    (object reader).Yields fun entries => ∀ e ∈ entries, P e.2 := by
  intro s entries rest hrun
  simp only [object, runObject] at hrun
  split at hrun
  · split at hrun
    · cases hrun
    · rename_i he
      obtain ⟨_, _, heq⟩ := map_ok hrun
      cases heq
      exact yields_members h he
  · cases hrun

theorem parse_yields {reader : Reader α} {P : α → Prop} (h : reader.Yields P) {text : String}
    {a : α} (hparse : reader.parse text = .ok a) : P a := by
  unfold parse at hparse
  split at hparse
  · cases hparse
  · rename_i hrun
    split at hparse
    · cases hparse
      exact h _ _ _ hrun
    · cases hparse

end Reader
end FilterLexicon.Json
