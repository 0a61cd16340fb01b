import FilterLexicon.Json.Skip

/-!
Readers of typed JSON values. A reader takes one value of a wanted kind off the front of a text and
leaves a shorter rest, which is why reading a list or an object ends. A value of another kind is
named in the fault, and for that it is read as far as its kind shows.
-/

namespace FilterLexicon.Json

structure Reader (α : Type) where
  /-- Takes a value off the front of a text. -/
  run : List Char → Except Fault (α × List Char)
  /-- Every value has at least one character. -/
  shorter : ∀ {s : List Char} {a : α} {r : List Char}, run s = .ok (a, r) → r.length < s.length

/-- Names the value at the front of a text; a container is named before it is entered. -/
def found (s : List Char) : Except Fault (Found × List Char) :=
  match s with
  | 'n' :: r => (word ['u', 'l', 'l'] r).map fun r => (.null, r)
  | 't' :: r => (word ['r', 'u', 'e'] r).map fun r => (.boolean true, r)
  | 'f' :: r => (word ['a', 'l', 's', 'e'] r).map fun r => (.boolean false, r)
  | '-' :: r => number true r
  | '"' :: r => (stringTail r).map fun p => (.string (String.ofList p.1), p.2)
  | '[' :: _ => .ok (.sequence, s)
  | '\x7b' :: _ => .ok (.map, s)
  | _ => if startsWithDigit s then number false s else .error (.behind .expectedValue s)

/-- The fault of a text that does not start with the wanted kind of value. -/
def mismatch (wanted : String) (s : List Char) : Fault :=
  match s with
  | [] => .before .endInValue []
  | _ =>
    match found s with
    | .ok (value, rest) => .before (.invalidType value wanted) rest
    | .error f => f

/-- Whether a container has another member at the front of the text. -/
inductive More where
  | yes
  | no
  deriving DecidableEq

/-- Goes to the next element of a list, or to the bracket that closes it. -/
def nextElement (first : Bool) (s : List Char) : Except Fault (More × List Char) :=
  match skipBlanks s with
  | [] => .error (.before .endInList [])
  | ']' :: r => .ok (.no, ']' :: r)
  | c :: r =>
    if first then .ok (.yes, c :: r)
    else if c = ',' then
      match skipBlanks r with
      | [] => .error (.before .endInValue [])
      | ']' :: r => .error (.behind .trailingComma (']' :: r))
      | r => .ok (.yes, r)
    else .error (.behind .expectedListComma (c :: r))

/-- Goes to the next key of an object, or to the bracket that closes it. -/
def nextKey (first : Bool) (s : List Char) : Except Fault (More × List Char) :=
  match skipBlanks s with
  | [] => .error (.before .endInObject [])
  | '\x7d' :: r => .ok (.no, '\x7d' :: r)
  | c :: r =>
    if first then
      if c = '"' then .ok (.yes, c :: r) else .error (.behind .keyNotString (c :: r))
    else if c = ',' then
      match skipBlanks r with
      | [] => .error (.before .endInValue [])
      | '"' :: r => .ok (.yes, '"' :: r)
      | '\x7d' :: r => .error (.behind .trailingComma ('\x7d' :: r))
      | r => .error (.behind .keyNotString r)
    else .error (.behind .expectedObjectComma (c :: r))

/-- Reads a key at the front of the text. -/
def key : List Char → Except Fault (String × List Char)
  | '"' :: s => (stringTail s).map fun p => (String.ofList p.1, p.2)
  | s => .error (.behind .keyNotString s)

/-- Reads the colon behind a key. -/
def colon (s : List Char) : Except Fault (List Char) :=
  match skipBlanks s with
  | [] => .error (.before .endInObject [])
  | ':' :: r => .ok r
  | r => .error (.behind .expectedColon r)

/-- Closes a list. -/
def closeList (s : List Char) : Except Fault (List Char) :=
  match skipBlanks s with
  | [] => .error (.before .endInList [])
  | ']' :: r => .ok r
  | ',' :: r =>
    match skipBlanks r with
    | ']' :: r => .error (.behind .trailingComma (']' :: r))
    | r => .error (.behind .trailingCharacters r)
  | r => .error (.behind .trailingCharacters r)

/-- Closes an object. -/
def closeObject (s : List Char) : Except Fault (List Char) :=
  match skipBlanks s with
  | [] => .error (.before .endInObject [])
  | '\x7d' :: r => .ok r
  | ',' :: r => .error (.behind .trailingComma (',' :: r))
  | r => .error (.behind .trailingCharacters r)

theorem nextElement_length_le {first : Bool} {s r : List Char} {m : More}
    (h : nextElement first s = .ok (m, r)) : r.length ≤ s.length := by
  unfold nextElement at h
  have hs := skipBlanks_length_le s
  split at h
  · simp at h
  · grind
  · rename_i c t _ ht
    have := skipBlanks_length_le t
    split at h
    · grind
    split at h
    · split at h <;> grind
    · simp at h

theorem nextKey_length_le {first : Bool} {s r : List Char} {m : More}
    (h : nextKey first s = .ok (m, r)) : r.length ≤ s.length := by
  unfold nextKey at h
  have hs := skipBlanks_length_le s
  split at h
  · simp at h
  · grind
  · rename_i c t _ ht
    have := skipBlanks_length_le t
    split at h
    · split at h <;> grind
    split at h
    · split at h <;> grind
    · simp at h

theorem map_ok {ε α β : Type} {x : Except ε α} {f : α → β} {b : β} (h : x.map f = .ok b) :
    ∃ a, x = .ok a ∧ f a = b := by
  cases x <;> simp_all [Except.map]

theorem key_length_lt {s r : List Char} {k : String} (h : key s = .ok (k, r)) :
    r.length < s.length := by
  unfold key at h
  split at h
  · obtain ⟨p, hp, he⟩ := map_ok h
    have := stringTail_length_lt hp
    grind
  · simp at h

theorem colon_length_lt {s r : List Char} (h : colon s = .ok r) : r.length < s.length := by
  unfold colon at h
  have hs := skipBlanks_length_le s
  split at h <;> grind

theorem closeList_length_lt {s r : List Char} (h : closeList s = .ok r) :
    r.length < s.length := by
  unfold closeList at h
  have hs := skipBlanks_length_le s
  split at h
  · simp at h
  · grind
  · split at h <;> simp at h
  · simp at h

theorem closeObject_length_lt {s r : List Char} (h : closeObject s = .ok r) :
    r.length < s.length := by
  unfold closeObject at h
  have hs := skipBlanks_length_le s
  split at h <;> grind

namespace Reader

variable {α β : Type}

def runString (s : List Char) : Except Fault (String × List Char) :=
  match skipBlanks s with
  | '"' :: r => (stringTail r).map fun p => (String.ofList p.1, p.2)
  | r => .error (mismatch "a string" r)

/-- Reads a string. -/
def string : Reader String where
  run := runString
  shorter {s a r} h := by
    unfold runString at h
    have hs := skipBlanks_length_le s
    split at h
    · obtain ⟨p, hp, he⟩ := map_ok h
      have := stringTail_length_lt hp
      simp_all
      omega
    · simp at h

def runBoolean (s : List Char) : Except Fault (Bool × List Char) :=
  match skipBlanks s with
  | 't' :: r => (word ['r', 'u', 'e'] r).map fun r => (true, r)
  | 'f' :: r => (word ['a', 'l', 's', 'e'] r).map fun r => (false, r)
  | r => .error (mismatch "a boolean" r)

/-- Reads `true` or `false`. -/
def boolean : Reader Bool where
  run := runBoolean
  shorter {s a r} h := by
    unfold runBoolean at h
    have hs := skipBlanks_length_le s
    split at h
    iterate 2
      obtain ⟨p, hp, he⟩ := map_ok h
      have := word_length_le hp
      simp_all
      omega
    · simp at h

/-- A reader of the values that a function makes of what another reader reads. -/
def map (f : α → β) (reader : Reader α) : Reader β where
  run s := (reader.run s).map fun p => (f p.1, p.2)
  shorter h := by
    obtain ⟨p, hp, he⟩ := map_ok h
    have := reader.shorter hp
    simp_all

/-- Reads the elements of a list behind its opening bracket, up to its closing bracket. -/
def elements (reader : Reader α) (first : Bool) (s : List Char) :
    Except Fault (List α × List Char) :=
  match hn : nextElement first s with
  | .error f => .error f
  | .ok (.no, rest) => .ok ([], rest)
  | .ok (.yes, rest) =>
    match hr : reader.run rest with
    | .error f => .error f
    | .ok (a, rest') =>
      have := nextElement_length_le hn
      have := reader.shorter hr
      (elements reader false rest').map fun p => (a :: p.1, p.2)
termination_by s.length

theorem elements_length_le {reader : Reader α} {first : Bool} {s r : List Char} {as : List α}
    (h : elements reader first s = .ok (as, r)) : r.length ≤ s.length := by
  fun_induction elements reader first s generalizing as with
  | case1 => simp at h
  | case2 first s rest hn =>
    have := nextElement_length_le hn
    simp_all
  | case3 => simp at h
  | case4 first s rest hn a rest' hr le lt ih =>
    obtain ⟨⟨tail, _⟩, hp, he⟩ := map_ok h
    cases he
    have := ih hp
    omega

def runList (reader : Reader α) (s : List Char) : Except Fault (List α × List Char) :=
  match skipBlanks s with
  | '[' :: r =>
    match elements reader true r with
    | .error f => .error f
    | .ok (as, rest) => (closeList rest).map fun rest => (as, rest)
  | r => .error (mismatch "a sequence" r)

/-- Reads a list. -/
def list (reader : Reader α) : Reader (List α) where
  run := runList reader
  shorter {s a r} h := by
    unfold runList at h
    have hs := skipBlanks_length_le s
    split at h
    · split at h
      · simp at h
      · rename_i he
        have := elements_length_le he
        obtain ⟨p, hp, he⟩ := map_ok h
        have := closeList_length_lt hp
        simp_all
        omega
    · simp at h

/-- Reads the members of an object behind its opening bracket, up to its closing bracket. -/
def members (reader : Reader α) (first : Bool) (s : List Char) :
    Except Fault (List (String × α) × List Char) :=
  match hn : nextKey first s with
  | .error f => .error f
  | .ok (.no, rest) => .ok ([], rest)
  | .ok (.yes, rest) =>
    match hk : key rest with
    | .error f => .error f
    | .ok (k, rest') =>
      match hc : colon rest' with
      | .error f => .error f
      | .ok rest'' =>
        match hr : reader.run rest'' with
        | .error f => .error f
        | .ok (a, rest''') =>
          have := nextKey_length_le hn
          have := key_length_lt hk
          have := colon_length_lt hc
          have := reader.shorter hr
          (members reader false rest''').map fun p => ((k, a) :: p.1, p.2)
termination_by s.length

theorem members_length_le {reader : Reader α} {first : Bool} {s r : List Char}
    {as : List (String × α)} (h : members reader first s = .ok (as, r)) : r.length ≤ s.length := by
  fun_induction members reader first s generalizing as with
  | case2 first s rest hn =>
    have := nextKey_length_le hn
    simp_all
  | case6 first s rest hn k rest' hk rest'' hc a rest''' hr le lt lt' lt'' ih =>
    obtain ⟨⟨tail, _⟩, hp, he⟩ := map_ok h
    cases he
    have := ih hp
    omega
  | _ => simp at h

def runObject (reader : Reader α) (s : List Char) :
    Except Fault (List (String × α) × List Char) :=
  match skipBlanks s with
  | '\x7b' :: r =>
    match members reader true r with
    | .error f => .error f
    | .ok (as, rest) => (closeObject rest).map fun rest => (as, rest)
  | r => .error (mismatch "a map" r)

/-- Reads an object with any keys; repeated keys are all kept. -/
def object (reader : Reader α) : Reader (List (String × α)) where
  run := runObject reader
  shorter {s a r} h := by
    unfold runObject at h
    have hs := skipBlanks_length_le s
    split at h
    · split at h
      · simp at h
      · rename_i he
        have := members_length_le he
        obtain ⟨p, hp, he⟩ := map_ok h
        have := closeObject_length_lt hp
        simp_all
        omega
    · simp at h

/-- Reads a whole text: one value, with nothing but blanks behind it. -/
def parse (reader : Reader α) (text : String) : Except Error α :=
  match reader.run text.toList with
  | .error f => .error (f.inText text)
  | .ok (a, rest) =>
    match skipBlanks rest with
    | [] => .ok a
    | rest => .error ((Fault.behind .trailingCharacters rest).inText text)

end Reader
end FilterLexicon.Json
