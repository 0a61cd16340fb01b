import FilterLexicon.Text.Case
import FilterLexicon.Text.PrintTable

/-!
Quoted texts for messages: a text between double quotes in which every character that could be
misread is written as an escape.
-/

namespace FilterLexicon.Text

/-- Whether a quoted text shows a character as it is. -/
def isShown (c : Char) : Bool :=
  if isAscii c then 32 ≤ c.toNat && c.toNat < 127
  else !inRanges extendingRanges c.toNat && !inRanges invisibleRanges c.toNat

/-- A character by its code point in hexadecimal digits. -/
def codeEscape (c : Char) : List Char :=
  ['\\', 'u', '\x7b'] ++ Nat.toDigits 16 c.toNat ++ ['\x7d']

def quoteChar (c : Char) : List Char :=
  if c = '\x00' then ['\\', '0']
  else if c = '\t' then ['\\', 't']
  else if c = '\n' then ['\\', 'n']
  else if c = '\r' then ['\\', 'r']
  else if c = '"' then ['\\', '"']
  else if c = '\\' then ['\\', '\\']
  else if isShown c then [c]
  else codeEscape c

def quoted (s : String) : String := String.ofList ('"' :: s.toList.flatMap quoteChar ++ ['"'])

/-- A list of quoted texts between brackets. -/
def quotedList (items : List String) : String :=
  "[" ++ ", ".intercalate (items.map quoted) ++ "]"

end FilterLexicon.Text
