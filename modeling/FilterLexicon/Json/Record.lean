import FilterLexicon.Json.Reader

/-!
Records: values with named fields. A record is written as an object, whose members may come in any
order and among others that are passed over, or as the list of its fields in order. What has been
read so far is a draft, which becomes the record once every required field is there.
-/

namespace FilterLexicon.Json

/-- A field of a record whose drafts have type `δ`. -/
structure Field (δ : Type) where
  name : String
  /-- Whether a draft has the field. -/
  given : δ → Bool
  /-- Reads the field's value into a draft. -/
  read : Reader (δ → δ)

structure Format (δ α : Type) where
  name : String
  /-- The draft in which no field is given. -/
  blank : δ
  fields : List (Field δ)
  /-- The record of a draft, or the name of the first required field that is missing. -/
  finish : δ → Except String α

/-- Why the members of an object could not all be read: a fault with its place, or a field given
twice, with the text behind its second key. -/
inductive Stop where
  | fault (f : Fault)
  | duplicate (name : String) (rest : List Char)

namespace Format

variable {δ α : Type}

/-- Reads the member behind a key into a draft, or passes over it. -/
def member (format : Format δ α) (draft : δ) (k : String) (s : List Char) :
    Except Stop (δ × List Char) :=
  match format.fields.find? (·.name = k) with
  | some field =>
    if field.given draft then .error (.duplicate k s)
    else
      match colon s with
      | .error f => .error (.fault f)
      | .ok rest =>
        match field.read.run rest with
        | .error f => .error (.fault f)
        | .ok (change, rest) => .ok (change draft, rest)
  | none =>
    match colon s with
    | .error f => .error (.fault f)
    | .ok rest =>
      match skip rest with
      | .error f => .error (.fault f)
      | .ok rest => .ok (draft, rest)

theorem member_length_lt {format : Format δ α} {draft draft' : δ} {k : String} {s r : List Char}
    (h : format.member draft k s = .ok (draft', r)) : r.length < s.length := by
  unfold member at h
  split at h
  · rename_i field _
    split at h
    · simp at h
    · split at h
      · simp at h
      · rename_i hc
        have := colon_length_lt hc
        split at h
        · simp at h
        · rename_i hr
          have := field.read.shorter hr
          simp_all
          omega
  · split at h
    · simp at h
    · rename_i hc
      have := colon_length_lt hc
      split at h
      · simp at h
      · rename_i hr
        have := skip_length_lt hr
        simp_all
        omega

/-- Reads the members of an object behind its opening bracket into a draft. -/
def members (format : Format δ α) (first : Bool) (draft : δ) (s : List Char) :
    Except Stop (δ × List Char) :=
  match hn : nextKey first s with
  | .error f => .error (.fault f)
  | .ok (.no, rest) => .ok (draft, rest)
  | .ok (.yes, rest) =>
    match hk : key rest with
    | .error f => .error (.fault f)
    | .ok (k, rest') =>
      match hm : format.member draft k rest' with
      | .error stop => .error stop
      | .ok (draft', rest'') =>
        have := nextKey_length_le hn
        have := key_length_lt hk
        have := member_length_lt hm
        members format false draft' rest''
termination_by s.length

theorem members_length_le {format : Format δ α} {first : Bool} {draft draft' : δ}
    {s r : List Char} (h : format.members first draft s = .ok (draft', r)) :
    r.length ≤ s.length := by
  fun_induction members format first draft s with
  | case2 first draft s rest hn =>
    have := nextKey_length_le hn
    simp_all
  | case5 first draft s rest hn k rest' hk draft'' rest'' hm le lt lt' ih =>
    have := ih h
    omega
  | _ => simp at h

/-- The text behind the closing bracket, if it comes next. -/
def passClosing (s : List Char) : List Char :=
  match skipBlanks s with
  | '\x7d' :: r => r
  | r => r

/-- Reads a record written as an object, behind its opening bracket. -/
def ofObject (format : Format δ α) (s : List Char) : Except Fault (α × List Char) :=
  match format.members true format.blank s with
  | .error (.fault f) => .error f
  | .error (.duplicate k rest) => .error (.before (.duplicateField k) (passClosing rest))
  | .ok (draft, rest) =>
    match closeObject rest with
    | .error f => .error f
    | .ok rest =>
      match format.finish draft with
      | .ok a => .ok (a, rest)
      | .error missing => .error (.before (.missingField missing) rest)

/-- Reads fields in order into a draft, behind the opening bracket of a list; the list may end
early. -/
def inOrder (first : Bool) : List (Field δ) → δ → List Char → Except Fault (δ × List Char)
  | [], draft, s => .ok (draft, s)
  | field :: fields, draft, s =>
    match nextElement first s with
    | .error f => .error f
    | .ok (.no, rest) => .ok (draft, rest)
    | .ok (.yes, rest) =>
      match field.read.run rest with
      | .error f => .error f
      | .ok (change, rest) => inOrder false fields (change draft) rest

theorem inOrder_length_le {first : Bool} {fields : List (Field δ)} {draft draft' : δ}
    {s r : List Char} (h : inOrder first fields draft s = .ok (draft', r)) :
    r.length ≤ s.length := by
  induction fields generalizing first draft s with
  | nil => simp_all [inOrder]
  | cons field fields ih =>
    unfold inOrder at h
    split at h
    · simp at h
    · rename_i hn
      have := nextElement_length_le hn
      simp_all
    · rename_i hn
      have := nextElement_length_le hn
      split at h
      · simp at h
      · rename_i hr
        have := field.read.shorter hr
        have := ih h
        omega

/-- Reads a record written as a list, behind its opening bracket. -/
def ofList (format : Format δ α) (s : List Char) : Except Fault (α × List Char) :=
  match inOrder true format.fields format.blank s with
  | .error f => .error f
  | .ok (draft, rest) =>
    match closeList rest with
    | .error f => .error f
    | .ok rest =>
      match format.finish draft with
      | .ok a => .ok (a, rest)
      | .error _ =>
        let length := (format.fields.filter fun field => field.given draft).length
        .error (.before (.invalidLength length format.name format.fields.length) rest)

def run (format : Format δ α) (s : List Char) : Except Fault (α × List Char) :=
  match skipBlanks s with
  | '[' :: r => format.ofList r
  | '\x7b' :: r => format.ofObject r
  | r => .error (mismatch ("struct " ++ format.name) r)

/-- Reads a record. -/
def reader (format : Format δ α) : Reader α where
  run := format.run
  shorter {s a r} h := by
    unfold run at h
    have hs := skipBlanks_length_le s
    split at h
    · unfold ofList at h
      split at h
      · simp at h
      · rename_i hi
        have := inOrder_length_le hi
        split at h
        · simp at h
        · rename_i hc
          have := closeList_length_lt hc
          split at h <;> simp_all
          omega
    · unfold ofObject at h
      split at h
      · simp at h
      · simp at h
      · rename_i hm
        have := members_length_le hm
        split at h
        · simp at h
        · rename_i hc
          have := closeObject_length_lt hc
          split at h <;> simp_all
          omega
    · simp at h

end Format
end FilterLexicon.Json
