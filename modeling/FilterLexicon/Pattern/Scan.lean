import FilterLexicon.Json.Scan
import FilterLexicon.Pattern.Property
import FilterLexicon.Text.Letter

/-!
The small pieces of a regular expression: blanks, escapes, flags, names and counts. Nothing comes out
where the text is no regular expression.
-/

namespace FilterLexicon.Pattern

open Text (isSpace isLetter isNumeral isAscii)

/-- The flags that decide how a pattern is read. -/
structure Flags where
  /-- Blanks and comments between the parts do not count. -/
  verbose : Bool := false
  /-- Characters are matched, and not bytes. -/
  unicode : Bool := true
  deriving DecidableEq

/-- A text behind its leading blanks and comments. -/
def skipSpace (comment : Bool) : List Char → List Char
  | [] => []
  | c :: rest =>
    if comment then skipSpace (c ≠ '\n') rest
    else if isSpace c then skipSpace false rest
    else if c = '#' then skipSpace true rest
    else c :: rest

namespace Flags

/-- A text behind its leading blanks and comments, if they do not count. -/
def skip (flags : Flags) (s : List Char) : List Char :=
  if flags.verbose then skipSpace false s else s

/-- The characters of a kind at the front of a text, and the rest; blanks and comments behind and
between them are passed over if they do not count. -/
def gather (flags : Flags) (keep : Char → Bool) (comment : Bool) :
    List Char → List Char × List Char
  | [] => ([], [])
  | c :: rest =>
    if comment then flags.gather keep (c ≠ '\n') rest
    else if flags.verbose && isSpace c then flags.gather keep false rest
    else if flags.verbose && c = '#' then flags.gather keep true rest
    else if keep c then
      let (cs, rest) := flags.gather keep false rest
      (c :: cs, rest)
    else ([], c :: rest)

end Flags

/-- What an escape or a single character stands for. -/
inductive Primitive where
  /-- A character; `byte` tells whether it is written as a byte with two digits. -/
  | literal (c : Char) (byte : Bool)
  /-- One of the classes of digits, spaces and word characters, or its complement. -/
  | named (negated : Bool)
  /-- A class of characters with a property. -/
  | property
  | assertion

/-- The character with a code, if there is one. -/
def character? (code : Nat) : Option Char :=
  if h : code.isValidChar then some (Char.ofNatAux code h) else none

/-- Reads exactly so many hexadecimal digits. -/
def fixedHex (flags : Flags) : Nat → List Char → Option (List Char × List Char)
  | 0, s => some ([], s)
  | _ + 1, [] => none
  | n + 1, c :: rest =>
    if (Json.hexDigit? c).isSome then
      (fixedHex flags n (flags.skip rest)).map fun p => (c :: p.1, p.2)
    else none

/-- The literal that hexadecimal digits write. -/
def hexLiteral (byte : Bool) (digits rest : List Char) : Option (Primitive × List Char) := do
  let c ← character? (← Json.hexValue? digits)
  return (.literal c byte, rest)

/-- Reads a character written by its code, with so many digits or with digits between braces. -/
def hexEscape (flags : Flags) (count : Nat) (s : List Char) : Option (Primitive × List Char) :=
  match flags.skip s with
  | '\x7b' :: rest =>
    match flags.gather (· ≠ '\x7d') false rest with
    | (digits, _ :: rest) =>
      if digits.isEmpty then none else hexLiteral false digits (flags.skip rest)
    | (_, []) => none
  | rest => do
    let (digits, rest) ← fixedHex flags count rest
    hexLiteral (count = 2) digits rest

/-- Reads the name of a property: a single letter, or a text between braces. -/
def propertyEscape (flags : Flags) (s : List Char) : Option (Primitive × List Char) :=
  match flags.skip s with
  | [] => none
  | '\\' :: _ => none
  | '\x7b' :: rest =>
    match flags.gather (· ≠ '\x7d') false rest with
    | (name, _ :: rest) => if isPropertyName name then some (.property, rest) else none
    | (_, []) => none
  | c :: rest => if isClassName [c] then some (.property, rest) else none

/-- Reads the kind of a word boundary between braces, if there is one; braces that cannot hold one
are left for a repetition. -/
def boundaryEscape (flags : Flags) (s : List Char) : Option (Primitive × List Char) :=
  let isNamePart (c : Char) : Bool := c.isAlpha || c = '-'
  match s with
  | '\x7b' :: inner =>
    match flags.skip inner with
    | [] => none
    | c :: _ =>
      if isNamePart c then
        match flags.gather isNamePart false inner with
        | (name, '\x7d' :: rest) =>
          if ["start", "end", "start-half", "end-half"].contains (String.ofList name) then
            some (.assertion, rest)
          else none
        | _ => none
      else some (.assertion, s)
  | _ => some (.assertion, s)

/-- Whether an escaped character stands for itself. -/
def isEscapable (c : Char) : Bool :=
  isAscii c && !c.isAlphanum && c ≠ '<' && c ≠ '>'

/-- Reads what follows a backslash. -/
def escape (flags : Flags) : List Char → Option (Primitive × List Char)
  | [] => none
  | c :: rest =>
    match c with
    | 'x' => hexEscape flags 2 rest
    | 'u' => hexEscape flags 4 rest
    | 'U' => hexEscape flags 8 rest
    | 'p' | 'P' => if flags.unicode then propertyEscape flags rest else none
    | 'd' | 's' | 'w' => some (.named false, rest)
    | 'D' | 'S' | 'W' => some (.named true, rest)
    | 'a' => some (.literal '\x07' false, rest)
    | 'f' => some (.literal '\x0c' false, rest)
    | 't' => some (.literal '\t' false, rest)
    | 'n' => some (.literal '\n' false, rest)
    | 'r' => some (.literal '\r' false, rest)
    | 'v' => some (.literal '\x0b' false, rest)
    | 'A' | 'z' | 'B' | '<' | '>' => some (.assertion, rest)
    | 'b' => boundaryEscape flags rest
    | c => if isEscapable c then some (.literal c false, rest) else none

/-- Whether a primitive may stand outside of classes: without Unicode, nothing may match a byte that
is no character. -/
def Primitive.isAllowed (flags : Flags) : Primitive → Bool
  | literal c byte => flags.unicode || !byte || isAscii c
  | named negated => flags.unicode || !negated
  | property => flags.unicode
  | assertion => true

/-- Whether a primitive may stand in a class. -/
def Primitive.isAllowedInClass (flags : Flags) : Primitive → Bool
  | literal c _ => flags.unicode || isAscii c
  | named negated => flags.unicode || !negated
  | property => flags.unicode
  | assertion => false

/-- Reads a decimal number, with spaces around it. -/
def decimal (flags : Flags) (s : List Char) : Option Nat × List Char :=
  let (digits, rest) := flags.gather Char.isDigit false (s.dropWhile isSpace)
  let value := digits.foldl (fun n c => 10 * n + (c.toNat - '0'.toNat)) 0
  (if digits.isEmpty || 1 <<< 32 ≤ value then none else some value, rest.dropWhile isSpace)

/-- Reads the closing brace of a repetition, and the mark of a repetition that prefers few. -/
def closeCount (flags : Flags) : List Char → Option (List Char)
  | '\x7d' :: rest =>
    match flags.skip rest with
    | '?' :: rest => some rest
    | rest => some rest
  | _ => none

/-- Reads the numbers of a repetition behind its opening brace. -/
def counts (flags : Flags) (s : List Char) : Option (List Char) := do
  let (least, rest) := decimal flags (flags.skip s)
  let least ← least
  match rest with
  | ',' :: rest =>
    match flags.skip rest with
    | '\x7d' :: rest => closeCount flags ('\x7d' :: rest)
    | rest =>
      let (most, rest) := decimal flags rest
      if least ≤ (← most) then closeCount flags rest else none
  | rest => closeCount flags rest

/-- The flags as letters with at most one mark of negation; none may come twice, and the mark may
not be last. -/
def isFlagList (letters : List Char) : Bool :=
  letters.all ['i', 's', 'm', 'U', 'u', 'R', 'x', '-'].contains && decide letters.Nodup &&
    letters.getLast? ≠ some '-'

/-- What a list of flags says of a flag: on, off or nothing. -/
def flagState (letters : List Char) (flag : Char) : Option Bool :=
  if !letters.contains flag then none
  else some ((letters.takeWhile (· ≠ flag)).all (· ≠ '-'))

/-- The flags after a list of flags. -/
def Flags.set (flags : Flags) (letters : List Char) : Flags :=
  { verbose := (flagState letters 'x').getD flags.verbose
    unicode := (flagState letters 'u').getD flags.unicode }

/-- Whether a text may name a group. -/
def isGroupName : List Char → Bool
  | [] => false
  | c :: rest =>
    (c = '_' || isLetter c) &&
      rest.all fun c => c = '_' || c = '.' || c = '[' || c = ']' || isLetter c || isNumeral c

end FilterLexicon.Pattern
