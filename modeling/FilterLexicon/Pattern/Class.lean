import FilterLexicon.Pattern.Scan
import FilterLexicon.Pattern.Syntax

/-!
Bracketed classes. They hold characters, ranges, named classes and further bracketed classes, and
these are combined by the operations of intersection and of two kinds of difference. The classes that
are still open are kept as a list, so that they may be nested to any depth.
-/

namespace FilterLexicon.Pattern

open Text (isAscii isSpace)

/-- A class that is being read: the left side of an operation, and the sets behind it, last first. -/
structure OpenClass where
  left : Option ClassSet := none
  sets : List ClassSet := []

namespace OpenClass

def add (c : OpenClass) (set : ClassSet) : OpenClass := { c with sets := set :: c.sets }

/-- The set read so far. -/
def set (c : OpenClass) : ClassSet :=
  let right := ClassSet.ofList c.sets.reverse
  match c.left with
  | some left => .operation left right
  | none => right

/-- The class behind the sign of an operation, whose left side is all that was read. -/
def operate (c : OpenClass) : OpenClass := { left := some c.set }

end OpenClass

/-- The names of the classes of ASCII characters. -/
def asciiClasses : List String :=
  ["alnum", "alpha", "ascii", "blank", "cntrl", "digit", "graph", "lower", "print", "punct",
    "space", "upper", "word", "xdigit"]

/-- Reads a named class of ASCII characters behind `[:`; also whether it is negated. -/
def asciiClass? (s : List Char) : Option (Bool × List Char) :=
  let (negated, s) :=
    match s with
    | '^' :: rest => (true, rest)
    | _ => (false, s)
  match s.dropWhile (· ≠ ':') with
  | ':' :: ']' :: rest =>
    if asciiClasses.contains (String.ofList (s.takeWhile (· ≠ ':'))) then some (negated, rest)
    else none
  | _ => none

/-- Reads the front of a class behind its opening bracket: the sign of negation, and hyphens and a
closing bracket that stand for themselves. Without Unicode no class may be negated. -/
def openClass (flags : Flags) (s : List Char) : Option (OpenClass × List Char) :=
  let (negated, s) :=
    match flags.skip s with
    | '^' :: rest => (true, flags.skip rest)
    | s => (false, s)
  let (hyphens, s) := flags.gather (· = '-') false s
  let sets := hyphens.map fun _ => ClassSet.item
  if negated && !flags.unicode then none
  else
    match s with
    | [] => none
    | ']' :: rest =>
      if sets.isEmpty then some ({ sets := [.item] }, flags.skip rest)
      else some ({ sets }, ']' :: rest)
    | s => some ({ sets }, s)

/-- Reads a single character or an escape. -/
def classPrimitive (flags : Flags) : List Char → Option (Primitive × List Char)
  | [] => none
  | '\\' :: rest => escape flags rest
  | c :: rest => some (.literal c false, rest)

/-- The character that decides whether a hyphen makes a range. Where blanks do not count, the first
sign of a comment is passed over like a blank. -/
def behindHyphen (flags : Flags) (s : List Char) : Option Char :=
  if !flags.verbose then s.head?
  else
    match s.dropWhile isSpace with
    | '#' :: rest => (rest.dropWhile isSpace).head?.or s.head?
    | [] => s.head?
    | c :: _ => some c

/-- Reads a character, a range or an escape in a class. -/
def classRange (flags : Flags) (s : List Char) : Option (List Char) := do
  let (first, rest) ← classPrimitive flags s
  if !first.isAllowedInClass flags then none
  else
    match flags.skip rest with
    | [] => none
    | '-' :: behind =>
      match behindHyphen flags behind with
      | some ']' => some ('-' :: behind)
      | some '-' => some ('-' :: behind)
      | _ =>
        let (last, rest) ← classPrimitive flags (flags.skip behind)
        match first, last with
        | .literal a _, .literal b _ =>
          if a.toNat ≤ b.toNat && last.isAllowedInClass flags then some rest else none
        | _, _ => none
    | rest => some rest

/-- Reads sets up to the end of a class; `fuel` bounds the number of sets. -/
def classTail (flags : Flags) (current : OpenClass) (outer : List OpenClass) :
    (fuel : Nat) → List Char → Option (ClassSet × List Char)
  | 0, _ => none
  | fuel + 1, s =>
    match flags.skip s with
    | [] => none
    | '[' :: rest =>
      let named :=
        match rest with
        | ':' :: inner => asciiClass? inner
        | _ => none
      match named with
      | some (negated, rest) =>
        if negated && !flags.unicode then none
        else classTail flags (current.add .item) outer fuel rest
      | none =>
        match openClass flags rest with
        | some (inner, rest) => classTail flags inner (current :: outer) fuel rest
        | none => none
    | ']' :: rest =>
      match outer with
      | [] => some (current.set, rest)
      | parent :: outer => classTail flags (parent.add (.bracketed current.set)) outer fuel rest
    | '&' :: '&' :: rest => classTail flags current.operate outer fuel rest
    | '-' :: '-' :: rest => classTail flags current.operate outer fuel rest
    | '~' :: '~' :: rest => classTail flags current.operate outer fuel rest
    | s =>
      match classRange flags s with
      | some rest => classTail flags (current.add .item) outer fuel rest
      | none => none

/-- Reads a class behind its opening bracket. Each set takes at least one character. -/
def bracketedClass (flags : Flags) (s : List Char) : Option (Expr × List Char) := do
  let (first, rest) ← openClass flags s
  let (set, rest) ← classTail flags first [] (rest.length + 1) rest
  return (.bracketed set, rest)

end FilterLexicon.Pattern
