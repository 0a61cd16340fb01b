import FilterLexicon.Event
import FilterLexicon.Text.Ascii

/-!
Which events are told. A text has directives between commas. Each is a limit on the level of events,
or the beginning of a target, or both with an equals sign between them; the longest beginning of an
event's target decides about it. What is no directive has no effect. A limit is on events alone, not
on the steps they are told in or the fields they have.
-/

namespace FilterLexicon

/-- A limit on the level of the events whose target begins with a text; without a level none of them
are told. -/
structure Directive where
  target : String := ""
  limit : Option Level
  deriving DecidableEq

namespace Directive

/-- The words for a limit: its rank and its name. -/
def words : Option Level → List String
  | none => ["0", "OFF"]
  | some level => [toString level.rank, level.name]

/-- The limit that a word stands for, in any case of its letters. -/
def limit? (word : String) : Option (Option Level) :=
  [none, some .error, some .warn, some .info, some .debug, some .trace].find? fun limit =>
    (words limit).contains (Text.upperAscii word)

def isTargetChar (c : Char) : Bool := c.isAlphanum || c = '_' || c = ':' || c = '-'

/-- Reads a directive. Where no limit is given all events of the target are told. -/
def parse? (text : String) : Option Directive :=
  match limit? text with
  | some limit => some { limit }
  | none =>
    let target := text.toList.takeWhile (· ≠ '=')
    if target.isEmpty || !target.all isTargetChar then none
    else
      match text.toList.drop (target.length + 1) with
      | [] => some { target := String.ofList target, limit := some .trace }
      | word =>
        (limit? (String.ofList word)).map fun limit => { target := String.ofList target, limit }

/-- Reads the directives of a text. If there are none only errors are told. -/
def parseAll (text : String) : List Directive :=
  match (text.toList.splitOn ',').filterMap fun part => parse? (String.ofList part) with
  | [] => [{ limit := some .error }]
  | directives => directives

/-- The directive with the longest beginning of a target, the last of several such. -/
def longest? : List Directive → Option Directive
  | [] => none
  | d :: rest =>
    match longest? rest with
    | none => some d
    | some e => if e.target.length < d.target.length then some d else some e

/-- The directive that decides about a target. -/
def decisive? (directives : List Directive) (target : String) : Option Directive :=
  longest? (directives.filter fun d => d.target.toList.isPrefixOf target.toList)

/-- Whether directives let an event through. -/
def tell (directives : List Directive) (e : Event) : Bool :=
  (decisive? directives e.target).any fun d => e.level.isWithin d.limit

end Directive
end FilterLexicon
