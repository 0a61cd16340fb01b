import FilterLexicon.Token

/-!
The type that a field of an entity is stored as. Eight type names have operators of their own; every
other name, also a differently spelled one of the eight, is kept and left to the type resolvers.
-/

namespace FilterLexicon

inductive StorageType where
  | integer
  | decimal
  | float
  | text
  | string
  | boolean
  | date
  | dateTime
  | custom (name : String)
  deriving DecidableEq

namespace StorageType

/-- The names with operators of their own. -/
def builtins : List (String × StorageType) :=
  [("integer", integer), ("decimal", decimal), ("float", float), ("text", text),
    ("string", string), ("boolean", boolean), ("date", date), ("datetime", dateTime)]

/-- The type of a name. -/
def ofName (name : String) : StorageType := (builtins.lookup name).getD (custom name)

def name : StorageType → String
  | integer => "integer"
  | decimal => "decimal"
  | float => "float"
  | text => "text"
  | string => "string"
  | boolean => "boolean"
  | date => "date"
  | dateTime => "datetime"
  | custom name => name

/-- The operators of a builtin type. -/
def operators? : StorageType → Option Operators
  | integer | decimal | float => some Token.numeric
  | text | string => some Token.textual
  | boolean => some Token.truth
  | date | dateTime => some Token.temporal
  | custom _ => none

def isCustom : StorageType → Bool
  | custom _ => true
  | _ => false

theorem name_ofName (name : String) : (ofName name).name = name := by
  unfold ofName builtins
  simp only [List.lookup_cons, List.lookup_nil]
  repeat' split
  all_goals simp_all [StorageType.name]

theorem isCustom_iff {type : StorageType} : type.isCustom = true ↔ type.operators? = none := by
  cases type <;> simp [isCustom, operators?]

end StorageType
end FilterLexicon
