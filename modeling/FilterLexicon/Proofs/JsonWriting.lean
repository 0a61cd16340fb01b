import FilterLexicon.Json.Scan
import FilterLexicon.Json.Value

/-! The written forms of a JSON value. Blanks may stand around every element, key and value, and a
character of a string has several spellings: itself, a letter behind a backslash, or its code in
hexadecimal digits. The compact and the pretty form are two of the texts of this grammar, so a reader
that takes every text of the grammar takes both. -/

namespace FilterLexicon.Json

/-- Characters that may stand between the parts of a text. -/
def Blanks (b : List Char) : Prop := ∀ c ∈ b, isBlank c = true

theorem blanks_nil : Blanks [] := fun _ h => absurd h List.not_mem_nil

theorem blanks_space : Blanks [' '] := fun _ h => List.mem_singleton.mp h ▸ rfl

theorem blanks_newLine (depth : Nat) : Blanks (newLine depth) := by
  intro c hc
  rcases List.mem_cons.mp hc with rfl | hc
  · rfl
  · rw [List.eq_of_mem_replicate hc]
    rfl

theorem skipBlanks_append {b : List Char} (hb : Blanks b) (s : List Char) :
    skipBlanks (b ++ s) = skipBlanks s := List.dropWhile_append_of_pos hb

theorem skipBlanks_cons {c : Char} (hc : isBlank c = false) (s : List Char) :
    skipBlanks (c :: s) = c :: s := List.dropWhile_cons_of_neg (by simp [hc])

theorem skipBlanks_to {b : List Char} (hb : Blanks b) {c : Char} (hc : isBlank c = false)
    (s : List Char) : skipBlanks (b ++ c :: s) = c :: s := by
  rw [skipBlanks_append hb, skipBlanks_cons hc]

theorem skipBlanks_of_blanks {b : List Char} (hb : Blanks b) : skipBlanks b = [] := by
  rw [← List.append_nil b, skipBlanks_append hb]
  rfl

theorem blanks_append {b b' : List Char} (hb : Blanks b) (hb' : Blanks b') : Blanks (b ++ b') :=
  List.forall_mem_append.mpr ⟨hb, hb'⟩

/-! ### Strings -/

/-- A hexadecimal digit with its value, in either case. -/
def HexDigit (n : Nat) (c : Char) : Prop := n < 16 ∧ (c = hexDigit n ∨ c = (hexDigit n).toUpper)

/-- A number that four hexadecimal digits write. -/
inductive Code : Nat → List Char → Prop where
  | digits {a b c d : Nat} {wa wb wc wd : Char} (ha : HexDigit a wa) (hb : HexDigit b wb)
      (hc : HexDigit c wc) (hd : HexDigit d wd) :
      Code (16 * (16 * (16 * a + b) + c) + d) [wa, wb, wc, wd]

/-- The letters that stand for a character behind a backslash. -/
def letters : List (Char × Char) :=
  [('"', '"'), ('\\', '\\'), ('/', '/'), ('b', '\x08'), ('f', '\x0c'), ('n', '\n'), ('r', '\r'),
    ('t', '\t')]

/-- `Spelled c t` says that the text `t` stands for the character `c` in a string. -/
inductive Spelled : Char → List Char → Prop where
  | plain {c : Char} (hquote : c ≠ '"') (hslash : c ≠ '\\') (hcontrol : ¬c.toNat < 32) :
      Spelled c [c]
  | letter {l c : Char} (h : (l, c) ∈ letters) : Spelled c ['\\', l]
  | code {c : Char} {t : List Char} (h : Code c.toNat t) : Spelled c ('\\' :: 'u' :: t)
  /-- The two surrogates of a character beyond four digits. -/
  | codes {c : Char} {t t' : List Char} (hc : 0x10000 ≤ c.toNat)
      (h : Code (0xD800 + (c.toNat - 0x10000) / 0x400) t)
      (h' : Code (0xDC00 + (c.toNat - 0x10000) % 0x400) t') :
      Spelled c ('\\' :: 'u' :: t ++ '\\' :: 'u' :: t')

/-- The characters of a string, each in one of its spellings. -/
inductive SpelledAll : List Char → List Char → Prop where
  | nil : SpelledAll [] []
  | cons {c : Char} {cs t ts : List Char} (hc : Spelled c t) (hcs : SpelledAll cs ts) :
      SpelledAll (c :: cs) (t ++ ts)

/-- A string between quotes. -/
inductive Quoted (s : String) : List Char → Prop where
  | quotes {t : List Char} (h : SpelledAll s.toList t) : Quoted s ('"' :: t ++ ['"'])

theorem code_of_lt {n : Nat} (h : n < 32) :
    Code n ['0', '0', hexDigit (n / 16), hexDigit (n % 16)] := by
  have hzero : HexDigit 0 '0' := ⟨by decide, Or.inl rfl⟩
  have hcode := Code.digits hzero hzero (c := n / 16) (d := n % 16) ⟨by omega, Or.inl rfl⟩
    ⟨by omega, Or.inl rfl⟩
  rwa [show 16 * (16 * (16 * 0 + 0) + n / 16) + n % 16 = n by omega] at hcode

theorem spelled_writeChar (c : Char) : Spelled c (writeChar c) := by
  unfold writeChar
  iterate 7
    split
    · subst c
      exact .letter (by decide)
  split
  · rename_i hcode
    exact .code (code_of_lt hcode)
  · rename_i hquote hslash _ _ _ _ _ hcode
    exact .plain hquote hslash hcode

theorem quoted_writeString (s : String) : Quoted s (writeString s) := by
  refine .quotes ?_
  induction s.toList with
  | nil => exact .nil
  | cons c cs ih => exact .cons (spelled_writeChar c) ih

/-! ### Values -/

/-- A text with blanks around it. -/
inductive Padded (t : List Char) : List Char → Prop where
  | blanks {b b' : List Char} (hb : Blanks b) (hb' : Blanks b') : Padded t (b ++ (t ++ b'))

/-- The text of a key and the text of a value, joined to the text of a member. -/
inductive MemberText (k t : List Char) : List Char → Prop where
  | colon {k' t' : List Char} (hk : Padded k k') (ht : Padded t t') : MemberText k t (k' ++ ':' :: t')

theorem padded_self (t : List Char) : Padded t t := by
  have h := Padded.blanks (t := t) blanks_nil blanks_nil
  rwa [List.nil_append, List.append_nil] at h

theorem padded_front {b : List Char} (hb : Blanks b) (t : List Char) : Padded t (b ++ t) := by
  have h := Padded.blanks (t := t) hb blanks_nil
  rwa [List.append_nil] at h

mutual

/-- `Written v t` says that the text `t` is a written form of the value `v`. -/
inductive Written : Value → List Char → Prop where
  | boolean (b : Bool) : Written (.boolean b) (Value.writeBoolean b)
  | string {s : String} {t : List Char} (h : Quoted s t) : Written (.string s) t
  | list {items : List Value} {texts : List (List Char)} {b : List Char}
      (hitems : WrittenItems items texts) (hb : Blanks b) :
      Written (.list items) ('[' :: separated texts ++ b ++ [']'])
  | object {members : List (String × Value)} {texts : List (List Char)} {b : List Char}
      (hmembers : WrittenMembers members texts) (hb : Blanks b) :
      Written (.object members) ('\x7b' :: separated texts ++ b ++ ['\x7d'])

/-- The elements of a list, each between blanks. -/
inductive WrittenItems : List Value → List (List Char) → Prop where
  | nil : WrittenItems [] []
  | cons {v : Value} {items : List Value} {t u : List Char} {texts : List (List Char)}
      (hv : Written v t) (hu : Padded t u) (hitems : WrittenItems items texts) :
      WrittenItems (v :: items) (u :: texts)

/-- The members of an object. -/
inductive WrittenMembers : List (String × Value) → List (List Char) → Prop where
  | nil : WrittenMembers [] []
  | cons {k : String} {v : Value} {members : List (String × Value)} {k' t u : List Char}
      {texts : List (List Char)} (hk : Quoted k k') (hv : Written v t) (hu : MemberText k' t u)
      (hmembers : WrittenMembers members texts) : WrittenMembers ((k, v) :: members) (u :: texts)

end

/-- A written value shows its kind by its first character, which is neither a blank nor a bracket
that closes a list. -/
theorem Written.head {v : Value} {t : List Char} (h : Written v t) :
    ∃ c s, t = c :: s ∧ isBlank c = false ∧ c ≠ ']' := by
  cases h with
  | boolean b =>
      cases b with
      | false => exact ⟨'f', ['a', 'l', 's', 'e'], rfl, rfl, by decide⟩
      | true => exact ⟨'t', ['r', 'u', 'e'], rfl, rfl, by decide⟩
  | string h =>
      cases h
      exact ⟨'"', _, rfl, rfl, by decide⟩
  | list => exact ⟨'[', _, rfl, rfl, by decide⟩
  | object => exact ⟨'\x7b', _, rfl, rfl, by decide⟩

/-- A comma, unless nothing stands before it in its container. -/
def comma (first : Bool) : List Char := if first then [] else [',']

/-- The texts of the values of a container, from its first value or from a later one on. -/
def joined (first : Bool) : List (List Char) → List Char
  | [] => []
  | t :: texts => comma first ++ (t ++ joined false texts)

theorem separated_eq_joined (texts : List (List Char)) : separated texts = joined true texts := by
  unfold separated
  cases texts with
  | nil => rfl
  | cons t texts =>
      rw [joined, comma, if_pos rfl, List.nil_append]
      induction texts generalizing t with
      | nil => simp [joined]
      | cons t' texts ih =>
          rw [List.intercalate_cons_cons, ih, joined, List.append_assoc]
          rfl

namespace Value

mutual

theorem written_compact : ∀ v : Value, Written v v.compact
  | .boolean b => .boolean b
  | .string s => .string (quoted_writeString s)
  | .list items => by
      have h := Written.list (writtenItems_compact items) blanks_nil
      rwa [List.append_nil] at h
  | .object members => by
      have h := Written.object (writtenMembers_compact members) blanks_nil
      rwa [List.append_nil] at h

theorem writtenItems_compact : ∀ items : List Value, WrittenItems items (compactItems items)
  | [] => .nil
  | v :: items => .cons (written_compact v) (padded_self _) (writtenItems_compact items)

theorem writtenMembers_compact : ∀ members : List (String × Value),
    WrittenMembers members (compactMembers members)
  | [] => .nil
  | (k, v) :: members =>
      .cons (quoted_writeString k) (written_compact v) (.colon (padded_self _) (padded_self _))
        (writtenMembers_compact members)

end

theorem block_of_ne_nil (opening closing : Char) (depth : Nat) {texts : List (List Char)}
    (h : texts ≠ []) :
    block opening closing depth texts =
      opening :: separated (texts.map (newLine (depth + 1) ++ ·)) ++ newLine depth ++ [closing] :=
  if_neg fun hempty => h (List.isEmpty_iff.mp hempty)

mutual

theorem written_pretty : ∀ (depth : Nat) (v : Value), Written v (v.pretty depth)
  | _, .boolean b => .boolean b
  | _, .string s => .string (quoted_writeString s)
  | _, .list [] => .list .nil blanks_nil
  | depth, .list (v :: items) => by
      rw [pretty, block_of_ne_nil _ _ _ (by simp [prettyItems])]
      exact .list (writtenItems_pretty depth (v :: items)) (blanks_newLine depth)
  | _, .object [] => .object .nil blanks_nil
  | depth, .object (m :: members) => by
      rw [pretty, block_of_ne_nil _ _ _ (by simp [prettyMembers])]
      exact .object (writtenMembers_pretty depth (m :: members)) (blanks_newLine depth)

theorem writtenItems_pretty : ∀ (depth : Nat) (items : List Value),
    WrittenItems items ((prettyItems (depth + 1) items).map (newLine (depth + 1) ++ ·))
  | _, [] => .nil
  | depth, v :: items =>
      .cons (written_pretty (depth + 1) v) (padded_front (blanks_newLine _) _)
        (writtenItems_pretty depth items)

theorem writtenMembers_pretty : ∀ (depth : Nat) (members : List (String × Value)),
    WrittenMembers members ((prettyMembers (depth + 1) members).map (newLine (depth + 1) ++ ·))
  | _, [] => .nil
  | depth, (k, v) :: members => by
      have hmember : MemberText (writeString k) (v.pretty (depth + 1))
          (newLine (depth + 1) ++ (writeString k ++ ':' :: ' ' :: v.pretty (depth + 1))) := by
        rw [← List.append_assoc]
        exact .colon (padded_front (blanks_newLine _) _) (padded_front blanks_space _)
      exact .cons (quoted_writeString k) (written_pretty (depth + 1) v) hmember
        (writtenMembers_pretty depth members)

end

end Value

/-- The two ways of writing a value as a text. -/
def IsWriter (write : Value → String) : Prop := write = Value.toCompact ∨ write = Value.toPretty

end FilterLexicon.Json
