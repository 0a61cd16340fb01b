import FilterLexicon.Json.Number
import FilterLexicon.Proofs.JsonWriting

/-! The texts of JSON values of every kind, also of those that no record has a field for. A text is
described by its form alone: a number by its digits, and a string by its pieces, whose codes need not
pair up to characters. Every written form of a value is such a text. -/

namespace FilterLexicon.Json

/-! ### Numbers -/

/-- At least one decimal digit, and nothing else. -/
def Digits (ds : List Char) : Prop := ds ≠ [] ∧ ∀ c ∈ ds, isDigit c = true

theorem digits_singleton {c : Char} (h : isDigit c = true) : Digits [c] :=
  ⟨List.cons_ne_nil c [], fun _ hc => List.mem_singleton.mp hc ▸ h⟩

/-- The digits before the point, without needless zeros. -/
inductive IsInteger : List Char → Prop where
  | zero : IsInteger ['0']
  | digits {c : Char} {ds : List Char} (hc : c ≠ '0') (h : Digits (c :: ds)) : IsInteger (c :: ds)

inductive IsFraction : List Char → Prop where
  | none : IsFraction []
  | point {ds : List Char} (h : Digits ds) : IsFraction ('.' :: ds)

inductive IsExponent : List Char → Prop where
  | none : IsExponent []
  | letter {e : Char} {sign ds : List Char} (he : e = 'e' ∨ e = 'E')
      (hsign : sign = [] ∨ sign = ['+'] ∨ sign = ['-']) (h : Digits ds) :
      IsExponent (e :: (sign ++ ds))

inductive IsNumber : List Char → Prop where
  | parts {sign int frac exp : List Char} (hsign : sign = [] ∨ sign = ['-']) (hint : IsInteger int)
      (hfrac : IsFraction frac) (hexp : IsExponent exp) : IsNumber (sign ++ (int ++ (frac ++ exp)))

/-! ### Strings -/

/-- The pieces of a string: characters, letters behind a backslash, and codes. -/
inductive Pieces : List Char → Prop where
  | nil : Pieces []
  | plain {c : Char} {t : List Char} (hquote : c ≠ '"') (hslash : c ≠ '\\')
      (hcontrol : ¬c.toNat < 32) (h : Pieces t) : Pieces (c :: t)
  | letter {l c : Char} {t : List Char} (hl : (l, c) ∈ letters) (h : Pieces t) :
      Pieces ('\\' :: l :: t)
  | code {n : Nat} {digits t : List Char} (hdigits : Code n digits) (h : Pieces t) :
      Pieces ('\\' :: 'u' :: (digits ++ t))

inductive IsString : List Char → Prop where
  | quotes {t : List Char} (h : Pieces t) : IsString ('"' :: t ++ ['"'])

/-! ### Values -/

mutual

/-- A text of a JSON value. -/
inductive IsValue : List Char → Prop where
  | null : IsValue ['n', 'u', 'l', 'l']
  | boolean (b : Bool) : IsValue (Value.writeBoolean b)
  | number {t : List Char} (h : IsNumber t) : IsValue t
  | string {t : List Char} (h : IsString t) : IsValue t
  | list {texts : List (List Char)} {b : List Char} (hitems : AreItems texts) (hb : Blanks b) :
      IsValue ('[' :: separated texts ++ b ++ [']'])
  | object {texts : List (List Char)} {b : List Char} (hmembers : AreMembers texts) (hb : Blanks b) :
      IsValue ('\x7b' :: separated texts ++ b ++ ['\x7d'])

/-- Texts of the elements of a list. -/
inductive AreItems : List (List Char) → Prop where
  | nil : AreItems []
  | cons {t u : List Char} {texts : List (List Char)} (ht : IsValue t) (hu : Padded t u)
      (hitems : AreItems texts) : AreItems (u :: texts)

/-- Texts of the members of an object. -/
inductive AreMembers : List (List Char) → Prop where
  | nil : AreMembers []
  | cons {k t u : List Char} {texts : List (List Char)} (hk : IsString k) (ht : IsValue t)
      (hu : MemberText k t u) (hmembers : AreMembers texts) : AreMembers (u :: texts)

end

/-- The keys of members, of which some may be the same. -/
def keys {β : Type} (members : List (String × β)) : List String := members.map Prod.fst

/-- The texts of the members of an object, each with the key and the text of the value that it is made
of. A key is read even where nothing is known of it, so its codes have to pair up. -/
inductive MemberTexts : List (String × List Char) → List (List Char) → Prop where
  | nil : MemberTexts [] []
  | cons {k : String} {k' t u : List Char} {members : List (String × List Char)}
      {texts : List (List Char)} (hk : Quoted k k') (ht : IsValue t) (hu : MemberText k' t u)
      (hmembers : MemberTexts members texts) : MemberTexts ((k, t) :: members) (u :: texts)

/-- A text of an object that has these keys with these texts of values, in this order. -/
inductive ObjectText (members : List (String × List Char)) : String → Prop where
  | braces {b b' b'' : List Char} {texts : List (List Char)} (hb : Blanks b)
      (hmembers : MemberTexts members texts) (hb' : Blanks b') (hb'' : Blanks b'') :
      ObjectText members
        (String.ofList (b ++ ('\x7b' :: separated texts ++ b' ++ ['\x7d']) ++ b''))

theorem Pieces.append {t u : List Char} (ht : Pieces t) (hu : Pieces u) : Pieces (t ++ u) := by
  induction ht with
  | nil => exact hu
  | plain hquote hslash hcontrol _ ih => exact .plain hquote hslash hcontrol ih
  | letter hl _ ih => exact .letter hl ih
  | code hdigits _ ih =>
      rw [List.cons_append, List.cons_append, List.append_assoc]
      exact .code hdigits ih

theorem Spelled.pieces {c : Char} {t : List Char} (h : Spelled c t) : Pieces t := by
  cases h with
  | plain hquote hslash hcontrol => exact .plain hquote hslash hcontrol .nil
  | letter h => exact .letter h .nil
  | code h =>
      have hpieces := Pieces.code h .nil
      rwa [List.append_nil] at hpieces
  | codes _ h h' =>
      have hpieces := Pieces.code h (.code h' .nil)
      rwa [List.append_nil] at hpieces

theorem SpelledAll.pieces {cs t : List Char} (h : SpelledAll cs t) : Pieces t := by
  induction h with
  | nil => exact .nil
  | cons hc _ ih => exact hc.pieces.append ih

theorem Quoted.isString {s : String} {t : List Char} (h : Quoted s t) : IsString t := by
  cases h with
  | quotes h => exact .quotes h.pieces

mutual

/-- A written form of a value is a text of a value. -/
theorem Written.isValue : ∀ {v : Value} {t : List Char}, Written v t → IsValue t
  | _, _, .boolean b => .boolean b
  | _, _, .string h => .string h.isString
  | _, _, .list hitems hb => .list hitems.areItems hb
  | _, _, .object hmembers hb => .object hmembers.areMembers hb

theorem WrittenItems.areItems : ∀ {items : List Value} {texts : List (List Char)},
    WrittenItems items texts → AreItems texts
  | _, _, .nil => .nil
  | _, _, .cons hv hu hitems => .cons hv.isValue hu hitems.areItems

theorem WrittenMembers.areMembers : ∀ {members : List (String × Value)}
    {texts : List (List Char)}, WrittenMembers members texts → AreMembers texts
  | _, _, .nil => .nil
  | _, _, .cons hk hv hu hmembers => .cons hk.isString hv.isValue hu hmembers.areMembers

end

def Value.members : Value → List (String × Value)
  | object members => members
  | _ => []

/-- Members without any blanks. -/
theorem objectText_compact {members : List (String × List Char)} (h : ∀ m ∈ members, IsValue m.2)
    {text : String} (htext : text = String.ofList ('\x7b' ::
      separated (members.map fun m => writeString m.1 ++ ':' :: m.2) ++ ['\x7d'])) :
    ObjectText members text := by
  have htexts : MemberTexts members (members.map fun m => writeString m.1 ++ ':' :: m.2) := by
    clear htext
    induction members with
    | nil => exact .nil
    | cons m members ih =>
        obtain ⟨hm, hmembers⟩ := List.forall_mem_cons.mp h
        exact .cons (quoted_writeString m.1) hm (.colon (padded_self _) (padded_self _)) (ih hmembers)
  have hbraces := ObjectText.braces blanks_nil htexts blanks_nil blanks_nil
  rw [htext]
  simpa using hbraces

/-- Members that have the keys of these parts have written forms of them as values. -/
def Encode (members : List (String × List Char)) (parts : List (String × Value)) : Prop :=
  ∀ k v t, (k, v) ∈ parts → (k, t) ∈ members → Written v t

theorem encode_compact {members : List (String × List Char)} {parts : List (String × Value)}
    (h : ∀ m ∈ members, ∀ part ∈ parts, part.1 = m.1 → m.2 = part.2.compact) :
    Encode members parts := by
  intro k v t hpart hmember
  obtain rfl := h (k, t) hmember (k, v) hpart rfl
  exact v.written_compact

/-- A written object is made of a written form of each part, unless two parts have the same key. -/
theorem WrittenMembers.memberTexts {parts : List (String × Value)} {texts : List (List Char)}
    (h : WrittenMembers parts texts) (hkeys : (keys parts).Nodup) :
    ∃ members, MemberTexts members texts ∧ keys members = keys parts ∧
      Encode members parts := by
  induction parts generalizing texts with
  | nil =>
      cases h
      exact ⟨[], .nil, rfl, nofun⟩
  | cons part parts ih =>
      obtain ⟨hnew, hrest⟩ : part.1 ∉ keys parts ∧ (keys parts).Nodup := List.nodup_cons.mp hkeys
      cases h with
      | @cons k v _ _ t _ _ hk hv hu hmembers =>
          obtain ⟨members, htexts, hnames, hencode⟩ := ih hmembers hrest
          refine ⟨(k, t) :: members, .cons hk hv.isValue hu htexts, congrArg (k :: ·) hnames, ?_⟩
          intro k' v' t' hpart hmember
          rcases List.mem_cons.mp hpart with hpart | hpart <;>
            rcases List.mem_cons.mp hmember with hmember | hmember
          · cases hpart
            cases hmember
            exact hv
          · cases hpart
            have hkey : k ∈ keys members := List.mem_map_of_mem hmember
            exact absurd (hnames ▸ hkey) hnew
          · cases hmember
            exact absurd (List.mem_map_of_mem hpart) hnew
          · exact hencode k' v' t' hpart hmember

end FilterLexicon.Json
