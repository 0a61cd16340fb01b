import FilterLexicon.Json.Fault

/-!
The smallest pieces of JSON: blanks, fixed words and strings. A scanner gets the rest of the text
and returns what it read with the rest behind it.
-/

namespace FilterLexicon.Json

open Text (size)

def isBlank (c : Char) : Bool := c = ' ' || c = '\n' || c = '\t' || c = '\r'

def skipBlanks (s : List Char) : List Char := s.dropWhile isBlank

theorem skipBlanks_length_le (s : List Char) : (skipBlanks s).length ≤ s.length :=
  (List.dropWhile_sublist _).length_le

/-- Reads the given characters, the rest of a word whose first character has been read. -/
def word : List Char → List Char → Except Fault (List Char)
  | [], s => .ok s
  | _ :: _, [] => .error (.before .endInValue [])
  | w :: ws, c :: s => if c = w then word ws s else .error (.behind .expectedWord (c :: s))

theorem word_length_le {ws s r : List Char} (h : word ws s = .ok r) : r.length ≤ s.length := by
  fun_induction word ws s <;> grind

/-- The value of a hexadecimal digit. -/
def hexDigit? (c : Char) : Option Nat :=
  if '0' ≤ c ∧ c ≤ '9' then some (c.toNat - '0'.toNat)
  else if 'a' ≤ c ∧ c ≤ 'f' then some (c.toNat - 'a'.toNat + 10)
  else if 'A' ≤ c ∧ c ≤ 'F' then some (c.toNat - 'A'.toNat + 10)
  else none

/-- The number that hexadecimal digits write. -/
def hexValue? (cs : List Char) : Option Nat :=
  cs.foldlM (fun n c => (hexDigit? c).map (16 * n + ·)) 0

/-- The fault of four bytes that are no hexadecimal digits, or of fewer than four. -/
def hexFault (s : List Char) : Fault :=
  if size s < 4 then ⟨.endInString, 0⟩ else ⟨.invalidEscape, size s - 4⟩

/-- Reads four hexadecimal digits. -/
def hex4 : List Char → Except Fault (Nat × List Char)
  | a :: b :: c :: d :: rest =>
    match hexValue? [a, b, c, d] with
    | some n => .ok (n, rest)
    | none => .error (hexFault (a :: b :: c :: d :: rest))
  | s => .error (hexFault s)

theorem hex4_length_lt {s r : List Char} {n : Nat} (h : hex4 s = .ok (n, r)) :
    r.length < s.length := by
  unfold hex4 at h
  split at h
  · split at h <;> simp_all
    omega
  · simp at h

/-- The first of the two codes that write one character. -/
def isLeadingSurrogate (n : Nat) : Bool := 0xD800 ≤ n && n ≤ 0xDBFF

/-- The second of the two codes that write one character. -/
def isTrailingSurrogate (n : Nat) : Bool := 0xDC00 ≤ n && n ≤ 0xDFFF

/-- Reads the second code of a character, given its first. -/
def trailingSurrogate (leading : Nat) : List Char → Except Fault (Char × List Char)
  | [] => .error (.before .endInString [])
  | '\\' :: [] => .error (.before .endInString [])
  | '\\' :: 'u' :: s =>
    match hex4 s with
    | .error f => .error f
    | .ok (n, rest) =>
      if isTrailingSurrogate n then
        .ok (Char.ofNat (0x10000 + (leading - 0xD800) * 0x400 + (n - 0xDC00)), rest)
      else .error (.before .loneSurrogate rest)
  | '\\' :: s => .error (.behind .endOfEscape s)
  | s => .error (.behind .endOfEscape s)

theorem trailingSurrogate_length_lt {leading : Nat} {s r : List Char} {c : Char}
    (h : trailingSurrogate leading s = .ok (c, r)) : r.length < s.length := by
  unfold trailingSurrogate at h
  split at h
  all_goals try simp at h
  split at h
  · simp at h
  · rename_i h4
    have := hex4_length_lt h4
    split at h <;> simp_all
    omega

/-- Reads the code or the two codes of a character, behind the letter that announces them. -/
def codeCharacter (s : List Char) : Except Fault (Char × List Char) :=
  match hex4 s with
  | .error f => .error f
  | .ok (n, rest) =>
    if isTrailingSurrogate n then .error (.before .loneSurrogate rest)
    else if isLeadingSurrogate n then trailingSurrogate n rest
    else .ok (Char.ofNat n, rest)

theorem codeCharacter_length_lt {s r : List Char} {c : Char}
    (h : codeCharacter s = .ok (c, r)) : r.length < s.length := by
  unfold codeCharacter at h
  split at h
  · simp at h
  · rename_i h4
    have := hex4_length_lt h4
    split at h
    · simp at h
    · split at h
      · have := trailingSurrogate_length_lt h
        omega
      · simp_all

/-- The character that a letter behind a backslash stands for. -/
def escapeLetter? : Char → Option Char
  | '"' => some '"'
  | '\\' => some '\\'
  | '/' => some '/'
  | 'b' => some '\x08'
  | 'f' => some '\x0c'
  | 'n' => some '\n'
  | 'r' => some '\r'
  | 't' => some '\t'
  | _ => none

/-- Reads what follows a backslash. -/
def escape : List Char → Except Fault (Char × List Char)
  | [] => .error (.before .endInString [])
  | 'u' :: s => codeCharacter s
  | c :: s =>
    match escapeLetter? c with
    | some x => .ok (x, s)
    | none => .error (.behind .invalidEscape (c :: s))

theorem escape_length_lt {s r : List Char} {c : Char} (h : escape s = .ok (c, r)) :
    r.length < s.length := by
  unfold escape at h
  split at h
  · simp at h
  · have := codeCharacter_length_lt h
    simp; omega
  · split at h <;> simp_all

/-- The characters that a string may hold only as escapes. -/
def isControl (c : Char) : Bool := c.toNat < 32

/-- A character put in front of the characters read. -/
def consRead (c : Char) : Except Fault (List Char × List Char) → Except Fault (List Char × List Char)
  | .ok (cs, rest) => .ok (c :: cs, rest)
  | .error f => .error f

theorem consRead_ok {c : Char} {x : Except Fault (List Char × List Char)} {cs r : List Char}
    (h : consRead c x = .ok (cs, r)) : ∃ tail, x = .ok (tail, r) := by
  unfold consRead at h
  split at h <;> simp_all

/-- Reads the characters of a string up to its closing quote. -/
def stringTail (s : List Char) : Except Fault (List Char × List Char) :=
  match s with
  | [] => .error (.before .endInString [])
  | c :: rest =>
    if c = '"' then .ok ([], rest)
    else if c = '\\' then
      match h : escape rest with
      | .error f => .error f
      | .ok (x, rest') =>
        have := escape_length_lt h
        consRead x (stringTail rest')
    else if isControl c then .error (.behind .controlCharacter (c :: rest))
    else consRead c (stringTail rest)
termination_by s.length

theorem stringTail_length_lt {s r cs : List Char} (h : stringTail s = .ok (cs, r)) :
    r.length < s.length := by
  fun_induction stringTail s generalizing cs with
  | case1 => simp at h
  | case2 rest => simp_all
  | case3 => simp at h
  | case4 rest x rest' _ shorter _ ih =>
    obtain ⟨tail, h⟩ := consRead_ok h
    have := ih h
    simp; omega
  | case5 => simp at h
  | case6 c rest _ _ _ ih =>
    obtain ⟨tail, h⟩ := consRead_ok h
    have := ih h
    simp; omega

end FilterLexicon.Json
