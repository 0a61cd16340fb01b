import FilterLexicon.Text.CaseTable

/-!
Full letter case conversion. Lower case maps each character by itself, apart from the capital sigma,
whose form depends on whether it ends a word; upper case may turn one character into several.
ASCII characters are converted without the tables.
-/

namespace FilterLexicon.Text

/-- Whether one of the inclusive ranges holds a code point. -/
def inRanges (ranges : List (Nat × Nat)) (code : Nat) : Bool :=
  ranges.any fun r => r.1 ≤ code && code ≤ r.2

/-- The code point that the spans map a code point to. -/
def mapSpans? (spans : List CaseSpan) (code : Nat) : Option Nat :=
  (spans.find? fun s => s.first ≤ code && code ≤ s.last && (code - s.first) % s.step = 0).map
    fun s => ((code : Int) + s.offset).toNat

/-- The form of a character that two tables give: a sequence, one other character or itself. -/
def mapChar (sequences : List (Nat × List Nat)) (spans : List CaseSpan) (c : Char) : List Char :=
  match sequences.lookup c.toNat with
  | some codes => codes.map Char.ofNat
  | none => [((mapSpans? spans c.toNat).map Char.ofNat).getD c]

def isAscii (c : Char) : Bool := c.toNat < 128

/-- The lower case form of a character that stands alone. -/
def lowerChar (c : Char) : List Char :=
  if isAscii c then [c.toLower] else mapChar lowerSequences lowerSpans c

/-- The upper case form of a character. -/
def upperChar (c : Char) : List Char :=
  if isAscii c then [c.toUpper] else mapChar upperSequences upperSpans c

def isCased (c : Char) : Bool :=
  if isAscii c then c.isAlpha else inRanges casedRanges c.toNat

/-- Whether the search for a neighbouring letter looks past a character; in ASCII these are the
apostrophe, the full stop, the colon, the circumflex and the grave accent. -/
def isCaseIgnorable (c : Char) : Bool :=
  if isAscii c then [39, 46, 58, 94, 96].contains c.toNat
  else inRanges caseIgnorableRanges c.toNat

/-- Whether the first character that counts is cased. -/
def startsCased (s : List Char) : Bool :=
  ((s.dropWhile isCaseIgnorable).head?.map isCased).getD false

/-- The lower case form of a capital sigma: the final one behind a cased character, unless a cased
character follows. `passed` is the text before it, last character first. -/
def lowerSigma (passed rest : List Char) : Char :=
  if startsCased passed && !startsCased rest then 'ς' else 'σ'

/-- The lower case form of a text, given the text before it, last character first. -/
def lowerAfter (passed : List Char) : List Char → List Char
  | [] => []
  | c :: rest =>
    (if c = 'Σ' then [lowerSigma passed rest] else lowerChar c) ++ lowerAfter (c :: passed) rest

def lower (s : String) : String := String.ofList (lowerAfter [] s.toList)

/-- A text with its first character in upper case. -/
def capitalize (s : String) : String :=
  match s.toList with
  | [] => ""
  | c :: rest => String.ofList (upperChar c ++ rest)

end FilterLexicon.Text
