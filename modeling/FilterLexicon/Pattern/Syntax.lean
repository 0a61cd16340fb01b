/-!
Regular expressions as far as their form matters: which parts they have and how deeply the parts are
nested. Single characters, named classes and assertions are all atoms.
-/

namespace FilterLexicon.Pattern

/-- The content of a bracketed class. -/
inductive ClassSet where
  /-- A character, a range or a named class. -/
  | item
  | bracketed (set : ClassSet)
  | union (sets : List ClassSet)
  | operation (left right : ClassSet)

inductive Expr where
  | empty
  | atom
  /-- A group that only sets flags. -/
  | flags
  | bracketed (set : ClassSet)
  | repetition (e : Expr)
  | group (e : Expr)
  | concatenation (es : List Expr)
  | alternation (es : List Expr)

namespace ClassSet

mutual

/-- How many classes, unions and operations lie around the innermost item. -/
def depth : ClassSet → Nat
  | item => 0
  | bracketed set => 1 + depth set
  | union sets => 1 + depthOfAll sets
  | operation left right => 1 + max (depth left) (depth right)

def depthOfAll : List ClassSet → Nat
  | [] => 0
  | set :: rest => max (depth set) (depthOfAll rest)

end

/-- The union of sets that stand side by side. -/
def ofList : List ClassSet → ClassSet
  | [] => item
  | [set] => set
  | sets => union sets

end ClassSet

namespace Expr

mutual

/-- How many compound expressions lie around the innermost part. -/
def depth : Expr → Nat
  | empty => 0
  | atom => 0
  | flags => 0
  | bracketed set => 1 + set.depth
  | repetition e => 1 + depth e
  | group e => 1 + depth e
  | concatenation es => 1 + depthOfAll es
  | alternation es => 1 + depthOfAll es

def depthOfAll : List Expr → Nat
  | [] => 0
  | e :: rest => max (depth e) (depthOfAll rest)

end

/-- Expressions one after the other. -/
def ofList : List Expr → Expr
  | [] => empty
  | [e] => e
  | es => concatenation es

/-- Whether a repetition may follow. -/
def isRepeatable : Expr → Bool
  | empty => false
  | flags => false
  | _ => true

end Expr
end FilterLexicon.Pattern
