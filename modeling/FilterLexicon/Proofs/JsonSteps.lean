import FilterLexicon.Json.Reader
import FilterLexicon.Proofs.JsonWriting

/-! The steps of a reader over a written text: the characters of a string, each read back from the
way it is written, and the marks that stand between the parts of a list or an object. -/

namespace FilterLexicon.Json

/-! ### Strings -/

theorem hexDigit?_eq {n : Nat} {c : Char} (h : HexDigit n c) : hexDigit? c = some n := by
  have hdigits : ∀ k : Fin 16, hexDigit? (hexDigit k) = some k.val ∧
      hexDigit? (hexDigit k).toUpper = some k.val := by decide
  obtain ⟨hn, rfl | rfl⟩ := h
  · exact (hdigits ⟨n, hn⟩).1
  · exact (hdigits ⟨n, hn⟩).2

theorem hex4_code {n : Nat} {t : List Char} (h : Code n t) (rest : List Char) :
    hex4 (t ++ rest) = .ok (n, rest) := by
  cases h with
  | digits ha hb hc hd =>
      simp [hex4, hexValue?, hexDigit?_eq ha, hexDigit?_eq hb, hexDigit?_eq hc, hexDigit?_eq hd]

/-- The code of a character is no surrogate. -/
theorem not_surrogate (c : Char) :
    isLeadingSurrogate c.toNat = false ∧ isTrailingSurrogate c.toNat = false := by
  have hvalid : c.toNat < 0xD800 ∨ 0xDFFF < c.toNat ∧ c.toNat < 0x110000 := c.valid
  simp only [isLeadingSurrogate, isTrailingSurrogate, Bool.and_eq_false_iff,
    decide_eq_false_iff_not]
  omega

theorem codeCharacter_code {c : Char} {t : List Char} (h : Code c.toNat t) (rest : List Char) :
    codeCharacter (t ++ rest) = .ok (c, rest) := by
  obtain ⟨hleading, htrailing⟩ := not_surrogate c
  simp [codeCharacter, hex4_code h, hleading, htrailing]

theorem codeCharacter_codes {c : Char} {t t' : List Char} (hc : 0x10000 ≤ c.toNat)
    (h : Code (0xD800 + (c.toNat - 0x10000) / 0x400) t)
    (h' : Code (0xDC00 + (c.toNat - 0x10000) % 0x400) t') (rest : List Char) :
    codeCharacter (t ++ '\\' :: 'u' :: (t' ++ rest)) = .ok (c, rest) := by
  have hvalid : c.toNat < 0xD800 ∨ 0xDFFF < c.toNat ∧ c.toNat < 0x110000 := c.valid
  generalize hhigh : (c.toNat - 0x10000) / 0x400 = high at h
  generalize hlow : (c.toNat - 0x10000) % 0x400 = low at h'
  have hleading : isTrailingSurrogate (0xD800 + high) = false ∧
      isLeadingSurrogate (0xD800 + high) = true := by
    simp only [isLeadingSurrogate, isTrailingSurrogate, Bool.and_eq_false_iff, Bool.and_eq_true,
      decide_eq_false_iff_not, decide_eq_true_eq]
    omega
  have htrailing : isTrailingSurrogate (0xDC00 + low) = true := by
    simp only [isTrailingSurrogate, Bool.and_eq_true, decide_eq_true_eq]
    omega
  have hnumber : 0x10000 + (0xD800 + high - 0xD800) * 0x400 + (0xDC00 + low - 0xDC00) = c.toNat := by
    omega
  simp only [codeCharacter, hex4_code h, hleading.1, hleading.2, trailingSurrogate, hex4_code h',
    htrailing, hnumber, Char.ofNat_toNat, Bool.false_eq_true, if_false, if_true]

theorem stringTail_escape {s rest : List Char} {c : Char} (h : escape s = .ok (c, rest)) :
    stringTail ('\\' :: s) = consRead c (stringTail rest) := by
  rw [stringTail, if_neg (by decide), if_pos rfl]
  split
  · rename_i hf
    rw [h] at hf
    cases hf
  · rename_i x rest' hx
    rw [h] at hx
    cases hx
    rfl

theorem stringTail_plain {c : Char} (hquote : c ≠ '"') (hslash : c ≠ '\\')
    (hcontrol : ¬c.toNat < 32) (rest : List Char) :
    stringTail (c :: rest) = consRead c (stringTail rest) := by
  rw [stringTail, if_neg hquote, if_neg hslash, if_neg (by simpa [isControl] using hcontrol)]

theorem escape_letter {l c : Char} (h : (l, c) ∈ letters) (rest : List Char) :
    escape (l :: rest) = .ok (c, rest) := by
  simp only [letters, List.mem_cons, Prod.mk.injEq, List.not_mem_nil, or_false] at h
  rcases h with ⟨rfl, rfl⟩ | ⟨rfl, rfl⟩ | ⟨rfl, rfl⟩ | ⟨rfl, rfl⟩ | ⟨rfl, rfl⟩ | ⟨rfl, rfl⟩ |
    ⟨rfl, rfl⟩ | ⟨rfl, rfl⟩ <;> rfl

/-- A character is read back from each of its spellings. -/
theorem stringTail_spelled {c : Char} {t : List Char} (h : Spelled c t) (rest : List Char) :
    stringTail (t ++ rest) = consRead c (stringTail rest) := by
  cases h with
  | plain hquote hslash hcontrol => exact stringTail_plain hquote hslash hcontrol rest
  | letter h => exact stringTail_escape (escape_letter h rest)
  | code h => exact stringTail_escape (codeCharacter_code h rest)
  | codes hc h h' =>
      rw [List.append_assoc]
      exact stringTail_escape (codeCharacter_codes hc h h' rest)

theorem stringTail_written {cs t : List Char} (h : SpelledAll cs t) (rest : List Char) :
    stringTail (t ++ '"' :: rest) = .ok (cs, rest) := by
  induction h with
  | nil => rw [List.nil_append, stringTail, if_pos rfl]
  | cons hc hcs ih =>
      rw [List.append_assoc, stringTail_spelled hc, ih]
      rfl

theorem key_written {k : String} {t : List Char} (h : Quoted k t) (rest : List Char) :
    key (t ++ rest) = .ok (k, rest) := by
  cases h with
  | quotes h =>
      simp only [List.cons_append, List.append_assoc, List.nil_append, key, stringTail_written h,
        Except.map, String.ofList_toList]

/-! ### Steps from one part of a container to the next -/

theorem nextElement_closing (first : Bool) {b : List Char} (hb : Blanks b) (rest : List Char) :
    nextElement first (b ++ ']' :: rest) = .ok (.no, ']' :: rest) := by
  rw [nextElement, skipBlanks_append hb, skipBlanks_cons rfl]
  rfl

theorem nextElement_written (first : Bool) {b b' t : List Char} {v : Value} (hb : Blanks b)
    (hb' : Blanks b') (ht : Written v t) (rest : List Char) :
    nextElement first (b ++ (comma first ++ (b' ++ (t ++ rest)))) = .ok (.yes, t ++ rest) := by
  obtain ⟨c, s, rfl, hblank, hclosing⟩ := ht.head
  have hskip : skipBlanks (b' ++ c :: (s ++ rest)) = c :: (s ++ rest) :=
    skipBlanks_to hb' hblank (s ++ rest)
  cases first with
  | true => simp [comma, nextElement, skipBlanks_append hb, hskip]
  | false => simp [comma, nextElement, skipBlanks_to hb (c := ',') rfl, hskip, hclosing]

theorem nextKey_closing (first : Bool) {b : List Char} (hb : Blanks b) (rest : List Char) :
    nextKey first (b ++ '\x7d' :: rest) = .ok (.no, '\x7d' :: rest) := by
  rw [nextKey, skipBlanks_append hb, skipBlanks_cons rfl]
  rfl

theorem nextKey_written (first : Bool) {b b' t : List Char} {k : String} (hb : Blanks b)
    (hb' : Blanks b') (ht : Quoted k t) (rest : List Char) :
    nextKey first (b ++ (comma first ++ (b' ++ (t ++ rest)))) = .ok (.yes, t ++ rest) := by
  cases ht with
  | @quotes t =>
      have hskip : skipBlanks (b' ++ '"' :: (t ++ '"' :: rest)) = '"' :: (t ++ '"' :: rest) :=
        skipBlanks_to hb' rfl _
      cases first with
      | true => simp [comma, nextKey, skipBlanks_append hb, hskip]
      | false => simp [comma, nextKey, skipBlanks_to hb (c := ',') rfl, hskip]

theorem colon_written {b : List Char} (hb : Blanks b) (s : List Char) :
    colon (b ++ ':' :: s) = .ok s := by
  rw [colon, skipBlanks_append hb, skipBlanks_cons rfl]
  rfl

theorem closeList_written (rest : List Char) : closeList (']' :: rest) = .ok rest := by
  rw [closeList, skipBlanks_cons rfl]
  rfl

theorem closeObject_written (rest : List Char) : closeObject ('\x7d' :: rest) = .ok rest := by
  rw [closeObject, skipBlanks_cons rfl]
  rfl

end FilterLexicon.Json
