import FilterLexicon.Json.Skip
import FilterLexicon.Proofs.JsonSteps
import FilterLexicon.Proofs.JsonText

/-! Values that are passed over. The loop that does it keeps a list of the containers that are open, so
what goes through the grammar is a statement about any such list: behind the text of a value, the loop
looks for the end of the innermost container, with the same containers open as before it. -/

namespace FilterLexicon.Json

/-! ### Numbers -/

/-- The text does not start with a character that a number could go on with. -/
def Follows (rest : List Char) : Prop :=
  ∀ c ∈ rest.head?, isBlank c = true ∨ c = ',' ∨ c = ']' ∨ c = '\x7d'

theorem follows_cons {c : Char} (h : c = ',' ∨ c = ']' ∨ c = '\x7d') (rest : List Char) :
    Follows (c :: rest) := fun _ hc => Option.mem_some.mp hc ▸ Or.inr h

theorem follows_append {b rest : List Char} (hb : Blanks b) (h : Follows rest) :
    Follows (b ++ rest) := by
  cases b with
  | nil => exact h
  | cons c b => exact fun _ hc => Option.mem_some.mp hc ▸ Or.inl (hb c List.mem_cons_self)

/-- What comes behind a value in a container: another of its values, or its end. -/
theorem follows_values {b b' : List Char} (hb : Blanks b) (hb' : Blanks b')
    (texts : List (List Char)) {c : Char} (hc : c = ',' ∨ c = ']' ∨ c = '\x7d')
    (rest : List Char) : Follows (b ++ (joined false texts ++ (b' ++ c :: rest))) := by
  refine follows_append hb ?_
  cases texts with
  | nil =>
      rw [joined, List.nil_append]
      exact follows_append hb' (follows_cons hc rest)
  | cons t texts => exact follows_cons (Or.inl rfl) _

theorem Follows.ne {rest : List Char} (h : Follows rest) {c : Char}
    (hc : isBlank c = false ∧ c ≠ ',' ∧ c ≠ ']' ∧ c ≠ '\x7d') (r : List Char) : rest ≠ c :: r := by
  rintro rfl
  obtain ⟨hblank, hcomma, hsquare, hcurly⟩ := hc
  rcases h c rfl with h | h | h | h
  · rw [hblank] at h
    cases h
  · exact hcomma h
  · exact hsquare h
  · exact hcurly h

theorem Follows.not_digit {rest : List Char} (h : Follows rest) : startsWithDigit rest = false := by
  cases rest with
  | nil => rfl
  | cons c rest =>
      show isDigit c = false
      rcases h c rfl with hc | rfl | rfl | rfl
      · simp only [isBlank, Bool.or_eq_true, decide_eq_true_eq] at hc
        rcases hc with ((rfl | rfl) | rfl) | rfl <;> rfl
      all_goals rfl

theorem Digits.starts {ds : List Char} (h : Digits ds) (rest : List Char) :
    startsWithDigit (ds ++ rest) = true := by
  cases ds with
  | nil => exact absurd rfl h.1
  | cons c ds => exact h.2 c List.mem_cons_self

theorem Digits.dropWhile {ds rest : List Char} (h : Digits ds)
    (hrest : startsWithDigit rest = false) : (ds ++ rest).dropWhile isDigit = rest := by
  rw [List.dropWhile_append_of_pos h.2]
  cases rest with
  | nil => rfl
  | cons c rest => exact List.dropWhile_cons_of_neg (by simpa [startsWithDigit] using hrest)

theorem dropSign_digits {sign ds : List Char} (hsign : sign = [] ∨ sign = ['+'] ∨ sign = ['-'])
    (h : Digits ds) (rest : List Char) : dropSign (sign ++ (ds ++ rest)) = ds ++ rest := by
  rcases hsign with rfl | rfl | rfl
  · cases ds with
    | nil => exact absurd rfl h.1
    | cons c ds =>
        have hc := h.2 c List.mem_cons_self
        rw [List.nil_append, List.cons_append, dropSign]
        · rintro r heq
          cases heq
          cases hc
        · rintro r heq
          cases heq
          cases hc
  · rfl
  · rfl

theorem skipExponent?_text {t rest : List Char} (h : IsExponent t) (hrest : Follows rest) :
    skipExponent? (t ++ rest) = .ok rest := by
  cases h with
  | none =>
      rw [List.nil_append, skipExponent?]
      · exact fun r => hrest.ne (by decide) r
      · exact fun r => hrest.ne (by decide) r
  | @letter e sign ds he hsign hds =>
      have hskip : skipExponent (sign ++ (ds ++ rest)) = .ok rest := by
        rw [skipExponent, dropSign_digits hsign hds, if_pos (hds.starts rest),
          hds.dropWhile hrest.not_digit]
      rw [List.cons_append, List.append_assoc]
      rcases he with rfl | rfl <;> exact hskip

/-- What begins behind a fraction is no point and no digit. -/
theorem exponent_head {t rest : List Char} (h : IsExponent t) (hrest : Follows rest) :
    startsWithDigit (t ++ rest) = false ∧ ∀ r, t ++ rest ≠ '.' :: r := by
  cases h with
  | none => exact ⟨hrest.not_digit, hrest.ne (by decide)⟩
  | letter he =>
      rcases he with rfl | rfl
      · exact ⟨rfl, nofun⟩
      · exact ⟨rfl, nofun⟩

theorem skipFraction?_text {frac exp rest : List Char} (hfrac : IsFraction frac)
    (hexp : IsExponent exp) (hrest : Follows rest) :
    skipFraction? (frac ++ (exp ++ rest)) = .ok rest := by
  obtain ⟨hdigit, hpoint⟩ := exponent_head hexp hrest
  cases hfrac with
  | none => rw [List.nil_append, skipFraction?, skipExponent?_text hexp hrest]; exact hpoint
  | point hds =>
      rw [List.cons_append, skipFraction?, if_pos (hds.starts _), hds.dropWhile hdigit,
        skipExponent?_text hexp hrest]

theorem fraction_head {frac exp rest : List Char} (hfrac : IsFraction frac)
    (hexp : IsExponent exp) (hrest : Follows rest) :
    startsWithDigit (frac ++ (exp ++ rest)) = false := by
  cases hfrac with
  | none => exact (exponent_head hexp hrest).1
  | point => rfl

theorem skipNumber_text {int frac exp rest : List Char} (hint : IsInteger int)
    (hfrac : IsFraction frac) (hexp : IsExponent exp) (hrest : Follows rest) :
    skipNumber (int ++ (frac ++ (exp ++ rest))) = .ok rest := by
  have hhead := fraction_head hfrac hexp hrest
  have hskip := skipFraction?_text hfrac hexp hrest
  cases hint with
  | zero =>
      rw [List.cons_append, List.nil_append, skipNumber, hhead, if_neg Bool.false_ne_true, hskip]
  | digits hc hds =>
      rw [skipNumber, if_pos (hds.starts _), hds.dropWhile hhead, hskip]
      rintro r heq
      exact hc (List.cons.inj heq).1

/-! ### Strings -/

theorem skipEscape_letter {l c : Char} (h : (l, c) ∈ letters) (rest : List Char) :
    skipEscape (l :: rest) = .ok rest := by
  simp only [letters, List.mem_cons, Prod.mk.injEq, List.not_mem_nil, or_false] at h
  rcases h with ⟨rfl, rfl⟩ | ⟨rfl, rfl⟩ | ⟨rfl, rfl⟩ | ⟨rfl, rfl⟩ | ⟨rfl, rfl⟩ | ⟨rfl, rfl⟩ |
    ⟨rfl, rfl⟩ | ⟨rfl, rfl⟩ <;> rfl

theorem skipEscape_code {n : Nat} {t : List Char} (h : Code n t) (rest : List Char) :
    skipEscape ('u' :: (t ++ rest)) = .ok rest := by
  rw [skipEscape, hex4_code h]
  rfl

theorem skipString_escape {s rest : List Char} (h : skipEscape s = .ok rest) :
    skipString ('\\' :: s) = skipString rest := by
  rw [skipString, if_neg (by decide), if_pos rfl]
  split
  · rename_i hf
    rw [h] at hf
    cases hf
  · rename_i rest' hr
    rw [h] at hr
    cases hr
    rfl

theorem skipString_plain {c : Char} (hquote : c ≠ '"') (hslash : c ≠ '\\')
    (hcontrol : ¬c.toNat < 32) (rest : List Char) : skipString (c :: rest) = skipString rest := by
  rw [skipString, if_neg hquote, if_neg hslash, if_neg (by simpa [isControl] using hcontrol)]

theorem skipString_pieces {t : List Char} (h : Pieces t) (rest : List Char) :
    skipString (t ++ '"' :: rest) = .ok rest := by
  induction h with
  | nil => rw [List.nil_append, skipString, if_pos rfl]
  | plain hquote hslash hcontrol _ ih =>
      rw [List.cons_append, skipString_plain hquote hslash hcontrol, ih]
  | letter hl _ ih =>
      rw [List.cons_append, List.cons_append, skipString_escape (skipEscape_letter hl _), ih]
  | code hdigits _ ih =>
      rw [List.cons_append, List.cons_append, List.append_assoc,
        skipString_escape (skipEscape_code hdigits _), ih]

theorem skipKey_of_string {s r r' r'' : List Char} (hs : skipBlanks s = '"' :: r)
    (hstring : skipString r = .ok r') (hcolon : skipBlanks r' = ':' :: r'') :
    skipKey s = .ok r'' := by
  simp only [skipKey, hs, hstring, hcolon]

theorem skipKey_text {b b' k : List Char} (hb : Blanks b) (hk : IsString k) (hb' : Blanks b')
    (s : List Char) : skipKey (b ++ (k ++ (b' ++ ':' :: s))) = .ok s := by
  cases hk with
  | quotes h =>
      simp only [List.cons_append, List.append_assoc, List.nil_append]
      exact skipKey_of_string (skipBlanks_to hb rfl _) (skipString_pieces h _)
        (skipBlanks_to hb' rfl s)

/-! ### Steps -/

section Steps

variable {open? open' : List Bracket} {due : Due} {s r r' : List Char}

theorem skipFrom_value_eq (open? : List Bracket) (s : List Char) :
    skipFrom .value open? s =
      (skipValue open? s).bind fun p => skipFrom p.1 p.2.1 p.2.2 := by
  rw [skipFrom]
  split
  all_goals
    rename_i h
    simp only [h, Except.bind]

theorem skipFrom_value (h : skipValue open? s = .ok (due, open', r)) :
    skipFrom .value open? s = skipFrom due open' r := by
  rw [skipFrom_value_eq, h]
  rfl

theorem skipFrom_ending {k : Bracket} (h : skipEnding k open? s = .ok (due, open', r)) :
    skipFrom .ending (k :: open?) s = skipFrom due open' r := by
  rw [skipFrom]
  split
  all_goals
    rename_i h'
    rw [h] at h'
    cases h'
  rfl

theorem skipFrom_blanks {b : List Char} (hb : Blanks b) (open? : List Bracket) (s : List Char) :
    skipFrom .value open? (b ++ s) = skipFrom .value open? s := by
  have hvalue : skipValue open? (b ++ s) = skipValue open? s := by
    unfold skipValue
    rw [skipBlanks_append hb]
  rw [skipFrom_value_eq, hvalue, skipFrom_value_eq]

/-- What opens a container. -/
def Bracket.opening : Bracket → Char
  | .square => '['
  | .curly => '\x7b'

/-- What closes a container. -/
def Bracket.closing : Bracket → Char
  | .square => ']'
  | .curly => '\x7d'

theorem skipOpened_square {c : Char} (hs : skipBlanks s = c :: r) (hc : c ≠ ']') :
    skipOpened .square open? s = .ok (.value, .square :: open?, c :: r) := by
  simp only [skipOpened, hs]
  split
  case h_3 heq => exact absurd (List.cons.inj heq).1 hc
  case h_5 => rfl
  all_goals contradiction

theorem skipOpened_curly (hs : skipBlanks s = '"' :: r) (hkey : skipKey s = .ok r') :
    skipOpened .curly open? s = .ok (.value, .curly :: open?, r') := by
  have hr : skipKey ('"' :: r) = .ok r' := by
    rwa [skipKey, hs] at hkey
  simp only [skipOpened, hs]
  exact congrArg (Except.map fun r => (Due.value, Bracket.curly :: open?, r)) hr

theorem skipEnding_square (hs : skipBlanks s = ',' :: r) :
    skipEnding .square open? s = .ok (.value, .square :: open?, r) := by
  simp only [skipEnding, hs]

theorem skipEnding_curly (hs : skipBlanks s = ',' :: r) (hkey : skipKey r = .ok r') :
    skipEnding .curly open? s = .ok (.value, .curly :: open?, r') := by
  simp only [skipEnding, hs, hkey]
  rfl

/-- Passes over the rest of an open container, from behind its opening bracket or from behind one of
its values. -/
def skipInside (k : Bracket) (first : Bool) (open? : List Bracket) (s : List Char) :
    Except Fault (List Char) :=
  if first then skipFrom .value open? (k.opening :: s) else skipFrom .ending (k :: open?) s

theorem skipInside_first {k : Bracket} (h : skipOpened k open? s = .ok (due, open', r)) :
    skipInside k true open? s = skipFrom due open' r := by
  refine skipFrom_value (Eq.trans ?_ h)
  cases k <;> simp only [skipValue, Bracket.opening, skipBlanks_cons (c := '[') rfl,
    skipBlanks_cons (c := '\x7b') rfl]

theorem skipInside_later {k : Bracket} (h : skipEnding k open? s = .ok (due, open', r)) :
    skipInside k false open? s = skipFrom due open' r := skipFrom_ending h

theorem skipInside_closing {k : Bracket} (hs : skipBlanks s = k.closing :: r) (first : Bool)
    (open? : List Bracket) : skipInside k first open? s = skipFrom .ending open? r := by
  cases first with
  | true =>
      refine skipInside_first ?_
      cases k <;> simp only [skipOpened, hs, Bracket.closing]
  | false =>
      refine skipInside_later ?_
      cases k <;> simp only [skipEnding, hs, Bracket.closing]

end Steps

/-! ### Values -/

theorem IsInteger.head {int : List Char} (h : IsInteger int) :
    ∃ c s, int = c :: s ∧ isDigit c = true := by
  cases h with
  | zero => exact ⟨'0', [], rfl, rfl⟩
  | digits _ hds => exact ⟨_, _, rfl, hds.2 _ List.mem_cons_self⟩

theorem isBlank_digit {c : Char} (hc : isDigit c = true) : isBlank c = false := by
  rw [← Bool.not_eq_true]
  intro hblank
  simp only [isBlank, Bool.or_eq_true, decide_eq_true_eq] at hblank
  rcases hblank with ((rfl | rfl) | rfl) | rfl <;> cases hc

theorem skipValue_digit {c : Char} (hc : isDigit c = true) (open? : List Bracket)
    (s : List Char) :
    skipValue open? (c :: s) = (skipNumber (c :: s)).map fun r => (.ending, open?, r) := by
  rw [skipValue, skipBlanks_cons (isBlank_digit hc)]
  split
  case h_9 => exact if_pos hc
  all_goals
    rename_i heq
    cases heq
    try cases hc

theorem skipValue_number {t rest : List Char} (h : IsNumber t) (open? : List Bracket)
    (hrest : Follows rest) : skipValue open? (t ++ rest) = .ok (.ending, open?, rest) := by
  cases h with
  | parts hsign hint hfrac hexp =>
      have hskip := skipNumber_text hint hfrac hexp hrest
      simp only [List.append_assoc]
      rcases hsign with rfl | rfl
      · obtain ⟨c, s, rfl, hc⟩ := hint.head
        rw [List.nil_append, List.cons_append, skipValue_digit hc, ← List.cons_append, hskip]
        rfl
      · simp only [skipValue, List.cons_append, List.nil_append, hskip,
          skipBlanks_cons (c := '-') rfl]
        rfl

theorem skipValue_string {t : List Char} (h : IsString t) (open? : List Bracket)
    (rest : List Char) : skipValue open? (t ++ rest) = .ok (.ending, open?, rest) := by
  cases h with
  | quotes h =>
      simp only [skipValue, List.cons_append, List.append_assoc, List.nil_append,
        skipBlanks_cons (c := '"') rfl, skipString_pieces h]
      rfl

theorem skipValue_boolean (x : Bool) (open? : List Bracket) (rest : List Char) :
    skipValue open? (Value.writeBoolean x ++ rest) = .ok (.ending, open?, rest) := by
  cases x <;> rfl

/-- A value starts with a character that is neither a blank nor a bracket that closes a list. -/
theorem IsValue.head {t : List Char} (h : IsValue t) :
    ∃ c s, t = c :: s ∧ isBlank c = false ∧ c ≠ ']' := by
  cases h with
  | null => exact ⟨'n', _, rfl, rfl, by decide⟩
  | boolean x => exact (Written.boolean x).head
  | number h =>
      cases h with
      | parts hsign hint =>
          rcases hsign with rfl | rfl
          · obtain ⟨c, s, rfl, hc⟩ := hint.head
            refine ⟨c, _, rfl, isBlank_digit hc, ?_⟩
            rintro rfl
            cases hc
          · exact ⟨'-', _, rfl, rfl, by decide⟩
  | string h =>
      cases h
      exact ⟨'"', _, rfl, rfl, by decide⟩
  | list => exact ⟨'[', _, rfl, rfl, by decide⟩
  | object => exact ⟨'\x7b', _, rfl, rfl, by decide⟩

/-- The next element of a list, from its first element or from a later one on. -/
theorem skipInside_value (first : Bool) {b b' t : List Char} (hb : Blanks b) (hb' : Blanks b')
    (ht : IsValue t) (open? : List Bracket) (rest : List Char) :
    skipInside .square first open? (b ++ (comma first ++ (b' ++ (t ++ rest)))) =
      skipFrom .value (.square :: open?) (t ++ rest) := by
  obtain ⟨c, s, rfl, hblank, hclosing⟩ := ht.head
  cases first with
  | true =>
      rw [comma, if_pos rfl, List.nil_append, ← List.append_assoc]
      exact skipInside_first
        (skipOpened_square (skipBlanks_to (blanks_append hb hb') hblank (s ++ rest)) hclosing)
  | false =>
      exact (skipInside_later (skipEnding_square (skipBlanks_to hb rfl _))).trans
        (skipFrom_blanks hb' _ _)

/-- The next key of an object, with its colon. -/
theorem skipInside_key (first : Bool) {b b' b'' k : List Char} (hb : Blanks b) (hb' : Blanks b')
    (hk : IsString k) (hb'' : Blanks b'') (open? : List Bracket) (s : List Char) :
    skipInside .curly first open? (b ++ (comma first ++ (b' ++ (k ++ (b'' ++ ':' :: s))))) =
      skipFrom .value (.curly :: open?) s := by
  cases first with
  | true =>
      have hkey := skipKey_text (blanks_append hb hb') hk hb'' s
      rw [comma, if_pos rfl, List.nil_append, ← List.append_assoc]
      cases hk
      exact skipInside_first (skipOpened_curly (skipBlanks_to (blanks_append hb hb') rfl _) hkey)
  | false =>
      exact skipInside_later
        (skipEnding_curly (skipBlanks_to hb rfl _) (skipKey_text hb' hk hb'' s))

mutual

/-- Behind a value the innermost container goes on as if the value had not been there. -/
theorem IsValue.passes : ∀ {t : List Char}, IsValue t → ∀ (open? : List Bracket)
    {rest : List Char}, Follows rest →
    skipFrom .value open? (t ++ rest) = skipFrom .ending open? rest
  | _, .null, open?, rest, _ => skipFrom_value rfl
  | _, .boolean x, open?, rest, _ => skipFrom_value (skipValue_boolean x open? rest)
  | _, .number h, open?, _, hrest => skipFrom_value (skipValue_number h open? hrest)
  | _, .string h, open?, rest, _ => skipFrom_value (skipValue_string h open? rest)
  | _, .list hitems hb, open?, rest, _ => by
      simp only [separated_eq_joined, List.append_assoc, List.cons_append, List.nil_append]
      exact hitems.passes true open? blanks_nil hb rest
  | _, .object hmembers hb, open?, rest, _ => by
      simp only [separated_eq_joined, List.append_assoc, List.cons_append, List.nil_append]
      exact hmembers.passes true open? blanks_nil hb rest

theorem AreItems.passes : ∀ {texts : List (List Char)}, AreItems texts →
    ∀ (first : Bool) (open? : List Bracket) {b b' : List Char}, Blanks b → Blanks b' →
    ∀ rest : List Char,
    skipInside .square first open? (b ++ (joined first texts ++ (b' ++ ']' :: rest))) =
      skipFrom .ending open? rest
  | _, .nil, first, open?, b, b', hb, hb', rest => by
      rw [joined, List.nil_append, ← List.append_assoc]
      exact skipInside_closing (skipBlanks_to (blanks_append hb hb') rfl rest) first open?
  | _, .cons ht (.blanks hfront hback) hitems, first, open?, b, b', hb, hb', rest => by
      have hrest texts := follows_values hback hb' texts (.inr (.inl rfl)) rest
      simp only [joined, List.append_assoc]
      rw [skipInside_value first hb hfront ht, ht.passes (.square :: open?) (hrest _)]
      exact hitems.passes false open? hback hb' rest

theorem AreMembers.passes : ∀ {texts : List (List Char)}, AreMembers texts →
    ∀ (first : Bool) (open? : List Bracket) {b b' : List Char}, Blanks b → Blanks b' →
    ∀ rest : List Char,
    skipInside .curly first open? (b ++ (joined first texts ++ (b' ++ '\x7d' :: rest))) =
      skipFrom .ending open? rest
  | _, .nil, first, open?, b, b', hb, hb', rest => by
      rw [joined, List.nil_append, ← List.append_assoc]
      exact skipInside_closing (skipBlanks_to (blanks_append hb hb') rfl rest) first open?
  | _, .cons hk ht (.colon (.blanks hfront hcolon) (.blanks hvalue hback)) hmembers, first, open?,
      b, b', hb, hb', rest => by
      have hrest texts := follows_values hback hb' texts (.inr (.inr rfl)) rest
      simp only [joined, List.append_assoc, List.cons_append]
      rw [skipInside_key first hb hfront hk hcolon, skipFrom_blanks hvalue,
        ht.passes (.curly :: open?) (hrest _)]
      exact hmembers.passes false open? hback hb' rest

end

/-- One value is passed over, and nothing of what comes behind it. -/
theorem skip_value {t b rest : List Char} (h : IsValue t) (hb : Blanks b) (hrest : Follows rest) :
    skip (b ++ (t ++ rest)) = .ok rest := by
  rw [skip, skipFrom_blanks hb, h.passes [] hrest, skipFrom]

end FilterLexicon.Json
