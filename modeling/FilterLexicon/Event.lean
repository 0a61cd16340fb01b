import FilterLexicon.Text.Quoted
import FilterLexicon.Token

/-!
What is told about a run: events with a level, the part of the program they belong to, a message and
fields. They are written in two ways. A record line names the part and shows every field as it is; a
console line leaves the part out, quotes the fields that hold a bare text, and escapes the terminal's
control characters in the message.
-/

namespace FilterLexicon

inductive Level where
  | error
  | warn
  | info
  | debug
  | trace
  deriving DecidableEq

namespace Level

def name : Level → String
  | error => "ERROR"
  | warn => "WARN"
  | info => "INFO"
  | debug => "DEBUG"
  | trace => "TRACE"

/-- How much is told at a level. -/
def rank : Level → Nat
  | error => 1
  | warn => 2
  | info => 3
  | debug => 4
  | trace => 5

/-- Whether a level is told if nothing beyond a limit is; without a limit nothing is told. -/
def isWithin (level : Level) (limit : Option Level) : Bool :=
  limit.any fun limit => level.rank ≤ limit.rank

end Level

/-- What a field of an event holds. -/
inductive Detail where
  | text (value : String)
  /-- A text that a console line quotes. -/
  | quoted (value : String)
  | count (value : Nat)

inductive Event where
  /-- The fields of an entity are added to the columns. -/
  | merging (entity qualifier : String) (fields : Nat)
  /-- A column takes the place of another of the same attribute name. -/
  | replaced (name earlier later : String)
  /-- A resolver has answered for an attribute. -/
  | resolved (subject channel : String) (operators : Operators)
  /-- No resolver has answered. -/
  | unanswered (channel : String)
  | filtering (index : Nat)
  | assembled (attributes filters : Nat)
  | loaded (path : String) (entities attributes : Nat)
  | fallback (reason : String)
  deriving DecidableEq

namespace Event

def level : Event → Level
  | merging .. => .trace
  | replaced .. => .debug
  | resolved .. => .debug
  | unanswered .. => .trace
  | filtering .. => .trace
  | assembled .. => .debug
  | loaded .. => .info
  | fallback .. => .warn

/-- The part of the program an event belongs to. -/
def target : Event → String
  | merging .. | replaced .. => "filter_grammar::attribute_mapper"
  | resolved .. | unanswered .. | filtering .. => "filter_grammar::extension"
  | assembled .. => "filter_grammar::grammar"
  | loaded .. | fallback .. => "filter_grammar"

def message : Event → String
  | merging .. => "merging entity fields"
  | replaced .. => "attribute name collision, later entity wins"
  | resolved _ _ operators => s!"custom type resolved to {Text.quotedList operators}"
  | unanswered .. => "no resolver responded"
  | filtering .. => "applying grammar filter"
  | assembled .. => "grammar assembled"
  | loaded .. => "loaded grammar config"
  | fallback reason => s!"{reason}, falling back to the default config"

def details : Event → List (String × Detail)
  | merging entity qualifier fields =>
    [("entity", .text entity), ("prefix", .text qualifier), ("fields", .count fields)]
  | replaced name earlier later =>
    [("attribute", .text name), ("replaced", .text earlier), ("by", .text later)]
  | resolved subject channel _ => [("attribute", .quoted subject), ("channel", .text channel)]
  | unanswered channel => [("channel", .text channel)]
  | filtering index => [("index", .count index)]
  | assembled attributes filters =>
    [("attributes", .count attributes), ("filters", .count filters)]
  | loaded path entities attributes =>
    [("path", .quoted path), ("entities", .count entities), ("attributes", .count attributes)]
  | fallback _ => []

/-- The text of a field in a record line. -/
def recordDetail : String × Detail → String
  | (name, .text value) => s!" {name}={value}"
  | (name, .quoted value) => s!" {name}={value}"
  | (name, .count value) => s!" {name}={value}"

/-- An event as a line of a record. -/
def recordLine (e : Event) : String :=
  s!"{e.level.name} {e.target}: {e.message}" ++ String.join (e.details.map recordDetail)

/-- The text of a field in a console line. -/
def consoleDetail : String × Detail → String
  | (name, .text value) => s!" {name}={value}"
  | (name, .quoted value) => s!" {name}={Text.quoted value}"
  | (name, .count value) => s!" {name}={value}"

/-- A character of a message on the console: a control character that would steer the terminal is
written by its code, in two digits up to the delete character and between brackets beyond it. -/
def consoleChar (c : Char) : List Char :=
  let code := c.toNat
  if code = 7 || code = 8 || code = 12 || code = 27 || code = 127 then
    ['\\', 'x'] ++ List.replicate (if code < 16 then 1 else 0) '0' ++ Nat.toDigits 16 code
  else if 128 ≤ code && code < 160 then Text.codeEscape c
  else [c]

/-- An event as a line on the console. -/
def consoleLine (e : Event) : String :=
  s!"{e.level.name}: " ++ String.ofList (e.message.toList.flatMap consoleChar) ++
    String.join (e.details.map consoleDetail)

end Event
end FilterLexicon
