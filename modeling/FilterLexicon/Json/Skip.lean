import FilterLexicon.Json.Number

/-!
Passing over a value whose content does not matter. Only its form is checked: numbers have any size,
codes in strings need not pair up, and containers may be nested to any depth, because the containers
that are still open are kept as a list.
-/

namespace FilterLexicon.Json

inductive Bracket where
  | square
  | curly
  deriving DecidableEq

/-- Passes over what follows a backslash. -/
def skipEscape : List Char → Except Fault (List Char)
  | [] => .error (.before .endInString [])
  | 'u' :: s => (hex4 s).map Prod.snd
  | c :: s =>
    if (escapeLetter? c).isSome then .ok s else .error (.behind .invalidEscape (c :: s))

theorem skipEscape_length_le {s r : List Char} (h : skipEscape s = .ok r) :
    r.length ≤ s.length := by
  unfold skipEscape at h
  split at h
  · simp at h
  · rename_i s
    cases h4 : hex4 s with
    | error f => simp [h4, Except.map] at h
    | ok p =>
      have := hex4_length_lt (show hex4 s = .ok (p.1, p.2) from h4)
      simp only [h4, Except.map, Except.ok.injEq] at h
      simp [← h]; omega
  · split at h <;> simp_all

/-- Passes over the characters of a string up to its closing quote. -/
def skipString (s : List Char) : Except Fault (List Char) :=
  match s with
  | [] => .error (.before .endInString [])
  | c :: rest =>
    if c = '"' then .ok rest
    else if c = '\\' then
      match h : skipEscape rest with
      | .error f => .error f
      | .ok rest' =>
        have := skipEscape_length_le h
        skipString rest'
    else if isControl c then .error (.before .controlCharacter (c :: rest))
    else skipString rest
termination_by s.length

theorem skipString_length_lt {s r : List Char} (h : skipString s = .ok r) :
    r.length < s.length := by
  fun_induction skipString s with
  | case1 => simp at h
  | case2 rest => simp_all
  | case3 => simp at h
  | case4 rest rest' _ shorter _ ih =>
    have := ih h
    simp; omega
  | case5 => simp at h
  | case6 c rest _ _ _ ih =>
    have := ih h
    simp; omega

/-- A text without the sign at its front. -/
def dropSign : List Char → List Char
  | '+' :: r => r
  | '-' :: r => r
  | s => s

/-- Passes over an exponent behind its letter. -/
def skipExponent (s : List Char) : Except Fault (List Char) :=
  if startsWithDigit (dropSign s) then .ok ((dropSign s).dropWhile isDigit)
  else .error (.behind .invalidNumber (dropSign s))

/-- Passes over an exponent if there is one. -/
def skipExponent? : List Char → Except Fault (List Char)
  | 'e' :: r => skipExponent r
  | 'E' :: r => skipExponent r
  | s => .ok s

/-- Passes over a fraction and an exponent, each if there is one. -/
def skipFraction? : List Char → Except Fault (List Char)
  | '.' :: r =>
    if startsWithDigit r then skipExponent? (r.dropWhile isDigit)
    else .error (.behind .invalidNumber r)
  | s => skipExponent? s

/-- Passes over a number behind its sign. -/
def skipNumber : List Char → Except Fault (List Char)
  | '0' :: rest =>
    if startsWithDigit rest then .error (.behind .invalidNumber rest) else skipFraction? rest
  | s =>
    if startsWithDigit s then skipFraction? (s.dropWhile isDigit)
    else .error (.behind .invalidNumber s)

theorem dropDigits_length_le (s : List Char) : (s.dropWhile isDigit).length ≤ s.length :=
  (List.dropWhile_sublist _).length_le

theorem skipExponent_length_le {s r : List Char} (h : skipExponent s = .ok r) :
    r.length ≤ s.length := by
  have hs : (dropSign s).length ≤ s.length := by unfold dropSign; split <;> simp
  unfold skipExponent at h
  split at h
  · have := dropDigits_length_le (dropSign s)
    obtain rfl := Except.ok.inj h
    omega
  · simp at h

theorem skipExponent?_length_le {s r : List Char} (h : skipExponent? s = .ok r) :
    r.length ≤ s.length := by
  unfold skipExponent? at h
  split at h
  · have := skipExponent_length_le h
    simp; omega
  · have := skipExponent_length_le h
    simp; omega
  · simp_all

theorem skipFraction?_length_le {s r : List Char} (h : skipFraction? s = .ok r) :
    r.length ≤ s.length := by
  unfold skipFraction? at h
  split at h
  · rename_i r'
    split at h
    · have := skipExponent?_length_le h
      have := dropDigits_length_le r'
      simp; omega
    · simp at h
  · exact skipExponent?_length_le h

theorem dropDigits_length_lt {s : List Char} (h : startsWithDigit s = true) :
    (s.dropWhile isDigit).length < s.length := by
  cases s with
  | nil => simp [startsWithDigit] at h
  | cons c s =>
    have hc : isDigit c = true := by simpa [startsWithDigit] using h
    have := dropDigits_length_le s
    rw [List.dropWhile_cons_of_pos hc]
    simp; omega

theorem skipNumber_length_lt {s r : List Char} (h : skipNumber s = .ok r) :
    r.length < s.length := by
  unfold skipNumber at h
  split at h
  · split at h
    · simp at h
    · have := skipFraction?_length_le h
      simp; omega
  · split at h
    · rename_i hs
      have := skipFraction?_length_le h
      have := dropDigits_length_lt hs
      omega
    · simp at h

/-- What has to come next: a value, or, behind a value, the end of the innermost open container or
another of its values. -/
inductive Due where
  | value
  | ending
  deriving DecidableEq

/-- Passes over a key and its colon, before which there may be blanks. -/
def skipKey (s : List Char) : Except Fault (List Char) :=
  match skipBlanks s with
  | [] => .error (.before .endInObject [])
  | '"' :: r =>
    match skipString r with
    | .error f => .error f
    | .ok r =>
      match skipBlanks r with
      | [] => .error (.before .endInObject [])
      | ':' :: r => .ok r
      | r => .error (.behind .expectedColon r)
  | r => .error (.behind .keyNotString r)

theorem skipKey_length_lt {s r : List Char} (h : skipKey s = .ok r) : r.length < s.length := by
  unfold skipKey at h
  have hs := skipBlanks_length_le s
  split at h
  · simp at h
  · rename_i t ht
    split at h
    · simp at h
    · rename_i u hu
      have := skipString_length_lt hu
      have := skipBlanks_length_le u
      split at h
      · simp at h
      · simp_all; omega
      · simp at h
  · simp at h

/-- Behind an opening bracket: the container ends at once, or its first value is due. -/
def skipOpened (b : Bracket) (open? : List Bracket) (s : List Char) :
    Except Fault (Due × List Bracket × List Char) :=
  match b, skipBlanks s with
  | .square, [] => .error (.before .endInList [])
  | .curly, [] => .error (.before .endInObject [])
  | .square, ']' :: r => .ok (.ending, open?, r)
  | .curly, '\x7d' :: r => .ok (.ending, open?, r)
  | .square, r => .ok (.value, .square :: open?, r)
  | .curly, r => (skipKey r).map fun r => (.value, .curly :: open?, r)

/-- Passes over a value, or over the opening bracket of a container. -/
def skipValue (open? : List Bracket) (s : List Char) :
    Except Fault (Due × List Bracket × List Char) :=
  let ended (r : Except Fault (List Char)) := r.map fun r => (Due.ending, open?, r)
  match skipBlanks s with
  | [] => .error (.before .endInValue [])
  | 'n' :: r => ended (word ['u', 'l', 'l'] r)
  | 't' :: r => ended (word ['r', 'u', 'e'] r)
  | 'f' :: r => ended (word ['a', 'l', 's', 'e'] r)
  | '-' :: r => ended (skipNumber r)
  | '"' :: r => ended (skipString r)
  | '[' :: r => skipOpened .square open? r
  | '\x7b' :: r => skipOpened .curly open? r
  | r => if startsWithDigit r then ended (skipNumber r) else .error (.behind .expectedValue r)

/-- Behind a value in an open container: passes over its closing bracket, or over the comma and, in
an object, the key before the next value. -/
def skipEnding (b : Bracket) (open? : List Bracket) (s : List Char) :
    Except Fault (Due × List Bracket × List Char) :=
  match b, skipBlanks s with
  | .square, [] => .error (.before .endInList [])
  | .curly, [] => .error (.before .endInObject [])
  | .square, ']' :: r => .ok (.ending, open?, r)
  | .curly, '\x7d' :: r => .ok (.ending, open?, r)
  | .square, ',' :: r => .ok (.value, .square :: open?, r)
  | .curly, ',' :: r => (skipKey r).map fun r => (.value, .curly :: open?, r)
  | .square, r => .error (.behind .expectedListComma r)
  | .curly, r => .error (.behind .expectedObjectComma r)

theorem map_length {α : Type} {x : Except Fault (List Char)} {f : List Char → α × List Bracket × List Char}
    {d : α} {o : List Bracket} {r : List Char} (hf : ∀ s, (f s).2.2 = s)
    (h : x.map f = .ok (d, o, r)) : x = .ok r := by
  cases x with
  | error e => simp [Except.map] at h
  | ok s =>
    simp only [Except.map, Except.ok.injEq] at h
    rw [← hf s, h]

theorem skipOpened_length_le {b : Bracket} {o o' : List Bracket} {d : Due} {s r : List Char}
    (h : skipOpened b o s = .ok (d, o', r)) : r.length ≤ s.length := by
  unfold skipOpened at h
  have hs := skipBlanks_length_le s
  split at h
  all_goals try simp at h
  case h_6 =>
    have := skipKey_length_lt (map_length (fun _ => rfl) h)
    omega
  all_goals grind

theorem skipValue_length_lt {o o' : List Bracket} {d : Due} {s r : List Char}
    (h : skipValue o s = .ok (d, o', r)) : r.length < s.length := by
  unfold skipValue at h
  have hs := skipBlanks_length_le s
  split at h
  · simp at h
  iterate 3
    have := word_length_le (map_length (fun _ => rfl) h)
    grind
  · have := skipNumber_length_lt (map_length (fun _ => rfl) h)
    grind
  · have := skipString_length_lt (map_length (fun _ => rfl) h)
    grind
  · have := skipOpened_length_le h
    grind
  · have := skipOpened_length_le h
    grind
  · split at h
    · have := skipNumber_length_lt (map_length (fun _ => rfl) h)
      grind
    · simp at h

theorem skipEnding_length_lt {b : Bracket} {o o' : List Bracket} {d : Due} {s r : List Char}
    (h : skipEnding b o s = .ok (d, o', r)) : r.length < s.length := by
  unfold skipEnding at h
  have hs := skipBlanks_length_le s
  split at h
  all_goals try simp at h
  case h_6 =>
    have := skipKey_length_lt (map_length (fun _ => rfl) h)
    grind
  all_goals grind

/-- Passes over text until no container is open and no value is due. -/
def skipFrom (due : Due) (open? : List Bracket) (s : List Char) : Except Fault (List Char) :=
  match due, open? with
  | .ending, [] => .ok s
  | .ending, b :: rest =>
    match h : skipEnding b rest s with
    | .error f => .error f
    | .ok (due', open', s') =>
      have := skipEnding_length_lt h
      skipFrom due' open' s'
  | .value, open? =>
    match h : skipValue open? s with
    | .error f => .error f
    | .ok (due', open', s') =>
      have := skipValue_length_lt h
      skipFrom due' open' s'
termination_by s.length

/-- Passes over one value. -/
def skip (s : List Char) : Except Fault (List Char) := skipFrom .value [] s

theorem skipFrom_length_le {due : Due} {o : List Bracket} {s r : List Char}
    (h : skipFrom due o s = .ok r) : r.length ≤ s.length := by
  fun_induction skipFrom due o s with
  | case1 s => simp_all
  | case2 => simp at h
  | case3 s b rest due' open' s' _ shorter ih =>
    have := ih h
    omega
  | case4 => simp at h
  | case5 s open? due' open' s' _ shorter ih =>
    have := ih h
    omega

theorem skip_length_lt {s r : List Char} (h : skip s = .ok r) : r.length < s.length := by
  unfold skip skipFrom at h
  split at h
  · simp at h
  · rename_i hv
    have := skipValue_length_lt hv
    have := skipFrom_length_le h
    omega

end FilterLexicon.Json
