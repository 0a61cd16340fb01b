/-!
JSON values and their two written forms. The compact form has no blanks; the pretty form gives every
element and member a line of its own, indented by two spaces for each container around it. In a
string only quotes, backslashes and control characters are escaped.
-/

namespace FilterLexicon.Json

inductive Value where
  | boolean (value : Bool)
  | string (value : String)
  | list (items : List Value)
  | object (members : List (String × Value))

/-- A hexadecimal digit, for values up to 15. -/
def hexDigit (n : Nat) : Char := ['0', '1', '2', '3', '4', '5', '6', '7', '8', '9', 'a', 'b', 'c',
  'd', 'e', 'f'].getD n '0'

/-- A character as it is written in a string. -/
def writeChar (c : Char) : List Char :=
  if c = '"' then ['\\', '"']
  else if c = '\\' then ['\\', '\\']
  else if c = '\x08' then ['\\', 'b']
  else if c = '\t' then ['\\', 't']
  else if c = '\n' then ['\\', 'n']
  else if c = '\x0c' then ['\\', 'f']
  else if c = '\r' then ['\\', 'r']
  else if c.toNat < 32 then ['\\', 'u', '0', '0', hexDigit (c.toNat / 16), hexDigit (c.toNat % 16)]
  else [c]

def writeString (s : String) : List Char := '"' :: s.toList.flatMap writeChar ++ ['"']

/-- The items with a comma between neighbours. -/
def separated (items : List (List Char)) : List Char := [','].intercalate items

/-- A line break and the blanks at the start of a line inside `depth` containers. -/
def newLine (depth : Nat) : List Char := '\n' :: List.replicate (2 * depth) ' '

/-- Lines between brackets, the brackets standing inside `depth` containers. -/
def block (opening closing : Char) (depth : Nat) (items : List (List Char)) : List Char :=
  if items.isEmpty then [opening, closing]
  else opening :: separated (items.map (newLine (depth + 1) ++ ·)) ++ newLine depth ++ [closing]

namespace Value

def writeBoolean (b : Bool) : List Char :=
  if b then ['t', 'r', 'u', 'e'] else ['f', 'a', 'l', 's', 'e']

mutual

/-- The compact form. -/
def compact : Value → List Char
  | boolean b => writeBoolean b
  | string s => writeString s
  | list items => '[' :: separated (compactItems items) ++ [']']
  | object members => '\x7b' :: separated (compactMembers members) ++ ['\x7d']

def compactItems : List Value → List (List Char)
  | [] => []
  | v :: rest => compact v :: compactItems rest

def compactMembers : List (String × Value) → List (List Char)
  | [] => []
  | (k, v) :: rest => (writeString k ++ ':' :: compact v) :: compactMembers rest

end

mutual

/-- The pretty form of a value inside `depth` containers. -/
def pretty (depth : Nat) : Value → List Char
  | boolean b => writeBoolean b
  | string s => writeString s
  | list items => block '[' ']' depth (prettyItems (depth + 1) items)
  | object members => block '\x7b' '\x7d' depth (prettyMembers (depth + 1) members)

def prettyItems (depth : Nat) : List Value → List (List Char)
  | [] => []
  | v :: rest => pretty depth v :: prettyItems depth rest

def prettyMembers (depth : Nat) : List (String × Value) → List (List Char)
  | [] => []
  | (k, v) :: rest =>
    (writeString k ++ ':' :: ' ' :: pretty depth v) :: prettyMembers depth rest

end

def toCompact (v : Value) : String := String.ofList v.compact

def toPretty (v : Value) : String := String.ofList (v.pretty 0)

/-- A list of strings. -/
def strings (items : List String) : Value := list (items.map string)

end Value
end FilterLexicon.Json
