/-!
Why no lexicon can be given. Either the configuration is incomplete or contradictory, or an outside
party, whose message is kept as it is, has failed.
-/

namespace FilterLexicon

inductive Failure where
  /-- A requested attribute that no source has. -/
  | unknownAttribute (name : String)
  /-- A type without operators of its own that no resolver answered for. -/
  | unresolvedType (name : String)
  /-- An attribute name that two columns share though names have to be distinct. -/
  | collision (name first second : String)
  /-- A failed lookup of an entity's fields. -/
  | lookup (entity reason : String)
  /-- A pattern that is no regular expression. -/
  | invalidPattern (pattern : String)
  /-- A resolver or filter that failed, with the channel it listens on. -/
  | handler (channel reason : String)
  deriving DecidableEq

namespace Failure

def message : Failure → String
  | unknownAttribute name => s!"Unknown attribute: {name}"
  | unresolvedType name => s!"Column with type {name} was not configured, yet"
  | collision name first second =>
    s!"Attribute {name} of entity {second} collides with entity {first}"
  | lookup entity _ => s!"Metadata lookup failed for entity {entity}"
  | invalidPattern pattern => s!"Invalid literal pattern {pattern}"
  | handler channel _ => s!"Extension handler on {channel} failed"

/-- Whether the configuration is at fault, and no outside party. -/
def isConfiguration : Failure → Bool
  | lookup .. | handler .. => false
  | _ => true

/-- The message of the outside party that failed. -/
def reason? : Failure → Option String
  | lookup _ reason => some reason
  | handler _ reason => some reason
  | _ => none

end Failure
end FilterLexicon
